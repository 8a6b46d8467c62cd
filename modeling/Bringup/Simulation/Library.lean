import Bringup.Log
import Bringup.Simulation.PortValues
/-!
# Libraries of compiled designs

A library holds one compiled design. It exports the name of the design, its ports and, if it
can write traces, a function that opens one. Any of these may be missing, and a function may
answer nothing.
-/

namespace Bringup

/-- What a library exports under a name. -/
inductive Export (α : Type) where
  /-- There is no such symbol. -/
  | absent
  /-- The function is there and answers nothing. -/
  | null
  | value (value : α)

/-- A library with a compiled design of type `δ`. -/
structure ModelLibrary (δ : Type) where
  /-- Where it was loaded from. -/
  path : String
  /-- The bytes of the name of its design. -/
  top : Export (List UInt8)
  ports : Export δ
  /-- Whether a trace of this name can be opened, if traces can be written at all. -/
  trace : Option (String → Bool)

namespace ModelLibrary

variable {δ σ : Type}

/-- The part of the system that loads designs, as the log names it. -/
def logTarget : String := "xw_host::sim::env"

/-- A symbol that the library lacks. -/
def lacking (library : ModelLibrary δ) (name : String) : SimulationError :=
  .symbol name (library.path ++ ": undefined symbol: " ++ name)

/-- Loads the library at a path. -/
def load (log : Logger σ Empty) (find : String → Except String (ModelLibrary δ)) (path : String) :
    EStateM SimulationError σ (ModelLibrary δ) := do
  match find path with
  | .error cause => throw (.load path cause)
  | .ok library =>
    log.note ⟨.info, logTarget, "loaded simulation model " ++ path⟩
    pure library

/-- The name of the design. -/
def topName (library : ModelLibrary δ) : Except SimulationError String :=
  match library.top with
  | .absent => .error (library.lacking "xw_model_top")
  | .null => .error .noPorts
  | .value name => .ok (Text.decodeLossy name)

/-- The design, if it is the expected one. -/
def design (library : ModelLibrary δ) (expected : Top) : Except SimulationError δ := do
  let found ← library.topName
  if found ≠ expected.name then throw (.wrongTop expected found)
  match library.ports with
  | .absent => throw (library.lacking "xw_model_env")
  | .null => throw .noPorts
  | .value design => pure design

/-- Opens a trace. A name cannot hold a zero character. -/
def openTrace (library : ModelLibrary δ) (log : Logger σ Empty) (path : String) :
    EStateM SimulationError σ Unit := do
  if path.toList.contains '\x00' then throw (.trace path)
  match library.trace with
  | none => throw (library.lacking "xw_model_trace")
  | some opens =>
    if opens path then log.note ⟨.info, logTarget, "tracing to " ++ path⟩
    else throw (.trace path)

end ModelLibrary

end Bringup
