import Bringup.Board.Transmitter
import Bringup.Text.Radix
/-!
# Simulated pins

The data line follows a script of bits, one for each rising edge of the clock, and is
released past its end. At some edges the clock is held low for a number of samples. Every
call is counted, and recorded on demand.
-/

namespace Bringup

/-- A call of the pins. -/
inductive PinCall where
  | write (clock data : Bool)
  | read (clock data : Bool)
  | delay
  deriving DecidableEq, Repr

/-- The call as a record shows it. -/
def PinCall.text : PinCall → String
  | .write clock data => "w" ++ level clock ++ level data
  | .read clock data => "r" ++ level clock ++ level data
  | .delay => "d"
where
  /-- A level as a digit. -/
  level (high : Bool) : String := if high then "1" else "0"

/-- The state of the simulated pins. -/
structure SimulatedPins where
  /-- The level of the data line after each rising edge of the clock. -/
  bits : Array Bool
  /-- For edges of the clock, how many samples find it held low. -/
  stretches : List (Nat × Nat)
  clock : Bool := true
  data : Bool := true
  edges : Nat := 0
  held : Nat := 0
  calls : Nat := 0
  /-- Whether calls are recorded. -/
  traced : Bool := true
  /-- The calls and how often each came in a row. -/
  trace : Array (PinCall × Nat) := #[]
  /-- The longer waits, in cycles. -/
  delays : Array UInt64 := #[]

namespace SimulatedPins

variable {ε : Type}

/-- Appends a call, or counts it with the call before if they are equal. -/
def appendCall (trace : Array (PinCall × Nat)) (call : PinCall) : Array (PinCall × Nat) :=
  match trace.back? with
  | some (last, count) =>
    if last = call then trace.pop.push (call, count + 1) else trace.push (call, 1)
  | none => trace.push (call, 1)

/-- Notes a call. -/
def note (pins : SimulatedPins) (call : PinCall) : SimulatedPins :=
  let pins := { pins with calls := pins.calls + 1 }
  if pins.traced then { pins with trace := appendCall pins.trace call } else pins

/-- How long the clock is held at an edge. -/
def heldAt (stretches : List (Nat × Nat)) (edge : Nat) : Nat :=
  stretches.foldl (fun total (place, held) => if place == edge then total + held else total) 0

/-- Drives the lines. -/
def drive (pins : SimulatedPins) (clock data : Bool) : SimulatedPins :=
  let pins := pins.note (.write clock data)
  if clock && !pins.clock then
    { pins with
      clock, data
      edges := pins.edges + 1
      held := heldAt pins.stretches (pins.edges + 1) }
  else { pins with clock, data }

/-- The level that the script gives the data line. -/
def scripted (pins : SimulatedPins) : Bool :=
  if pins.edges = 0 then true else pins.bits.getD (pins.edges - 1) true

/-- Samples the lines. -/
def sample (pins : SimulatedPins) : (Bool × Bool) × SimulatedPins :=
  let clock := pins.clock && pins.held == 0
  let data := pins.data && pins.scripted
  let pins := pins.note (.read clock data)
  ((clock, data), { pins with held := pins.held - 1 })

/-- The simulated pins as pins. -/
def pins : Pins SimulatedPins ε where
  write clock data := modify (·.drive clock data)
  read := modifyGet sample
  delay := modify (·.note .delay)

/-- Records a longer wait. -/
def wait (cycles : UInt64) : EStateM ε SimulatedPins Unit :=
  modify fun pins => { pins with delays := pins.delays.push cycles }

/-- The record, line by line; a call that came several times in a row is shown with a count. -/
def traceLines (pins : SimulatedPins) : Array String :=
  pins.trace.map fun (call, count) =>
    if count = 1 then call.text else call.text ++ "*" ++ Text.decimal count

/-- The levels that the lines are driven to. -/
def levels (pins : SimulatedPins) : String :=
  PinCall.text.level pins.clock ++ PinCall.text.level pins.data

/-- Starts a new record. -/
def forget (pins : SimulatedPins) : SimulatedPins :=
  { pins with calls := 0, trace := #[], delays := #[] }

end SimulatedPins

end Bringup
