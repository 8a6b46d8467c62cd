import Bringup.Files.Tree
import Bringup.Simulation.Library
import Bringup.Simulation.ObjectFile
/-!
# Sample designs

Small designs that count the cycles outside of reset and show the count on their outputs,
and the libraries they come in. Some of the libraries are defective. They lie among files,
known by their places there; no other file is a library.
-/

namespace Bringup

/-- What is special about a sample design. -/
structure SampleTraits where
  /-- Whether it asks for bursts that the controller cannot serve, once it has run a while. -/
  longBursts : Bool := false
  /-- Whether it reports that calibration has failed. -/
  failsCalibration : Bool := false
  deriving DecidableEq, Repr

/-- A sample design. -/
structure SampleDesign where
  traits : SampleTraits
  ports : PortValues := .zeros
  edges : UInt32 := 0
  /-- The clock at the last evaluation. -/
  clock : Bool := false

namespace SampleDesign

/-- The count from which on bursts are too long. -/
def burstStart : UInt32 := 150

/-- Drives the outputs. -/
def drive (state : SampleDesign) : SampleDesign :=
  let edges := state.edges.toUInt64
  let ports := state.ports.setAll
    [(.leds, edges + state.ports.get .programRomQ), (.programRomAddr, edges),
      (.ledsN, (~~~(state.edges >>> 4)).toUInt64)]
  let bursting := burstStart ≤ state.edges
  let ports := if state.traits.longBursts then
      ((ports.setBit .avlBurstBegin bursting).setBit .avlWriteReq bursting).set .avlSize 3
    else ports
  { state with ports := if state.traits.failsCalibration then ports.set .ddr3CalFail 2 else ports }

/-- Evaluates the design. -/
def eval (state : SampleDesign) : SampleDesign :=
  let clock := state.ports.isHigh .clk
  let rising := clock && !state.clock
  let edges := if !state.ports.isHigh .resetN then 0
    else if rising then state.edges + 1 else state.edges
  drive { state with clock, edges }

/-- The sample design behind its ports. -/
def design : Design SampleDesign where
  get port state := state.ports.get port
  set port value state := { state with ports := state.ports.set port value }
  eval := eval
  finish state := state
  dump _ state := state

/-- Traces can be written unless their name says that they are bad. -/
def opensTrace (path : String) : Bool := !"bad".toList.isPrefixOf path.toList

/-- A complete library. -/
def complete (path : String) (top : Top) (traits : SampleTraits) : ModelLibrary SampleDesign :=
  ⟨path, .value (Text.utf8Bytes top.name), .value { traits }, some opensTrace⟩

/-- The library of a name, loaded from a path. -/
def library? (path name : String) : Option (ModelLibrary SampleDesign) :=
  let system := complete path .system {}
  let named (top : List UInt8) := { system with top := .value top }
  [("xenowing", system), ("ddr3_test", complete path .memoryTest {}),
    ("bad_burst", complete path .system { longBursts := true }),
    ("bad_burst_ddr3", complete path .memoryTest { longBursts := true }),
    ("cal_fail", complete path .memoryTest { failsCalibration := true }),
    ("other_top", named (Text.utf8Bytes "other")), ("empty_top", named []),
    ("binary_top", named (Text.utf8Bytes "xeno" ++ 0xff :: Text.utf8Bytes "wing")),
    ("no_top", { system with top := .absent }), ("no_env", { system with ports := .absent }),
    ("no_trace", { system with trace := none }), ("null_top", { system with top := .null }),
    ("null_env", { system with ports := .null })].lookup name

end SampleDesign

/-- Files among which there are libraries. -/
structure SampleShelf where
  files : FileTree
  /-- The names of the libraries, by their places. -/
  libraries : List (List String × String) := []
  /-- What stands in front of the name of a library that is given without a directory: one
  text for each directory where it may lie. -/
  searched : List String := []

namespace SampleShelf

/-- Puts libraries into the working directory. -/
def install (shelf : SampleShelf) : List String → SampleShelf
  | [] => shelf
  | name :: rest =>
    let place := shelf.files.workingDirectory ++ [name ++ ".so"]
    { shelf with
      files := shelf.files.put place []
      libraries := (place, name) :: shelf.libraries }.install rest

/-- What stands in front of a name for each directory of a list. An empty directory is the
working directory, and slashes behind a directory do not matter. -/
def leads (directories : String) : List String :=
  if directories.isEmpty then []
  else (directories.splitToList fun c => c == ':' || c == ';').map fun directory =>
    let named := (directory.toList.reverse.dropWhile (· == '/')).reverse
    if directory.isEmpty then "" else String.ofList named ++ "/"

/-- Loads the library at a path of a directory that exists, unless there is no such file. -/
def load? (shelf : SampleShelf) (path : String) :
    Except FileError (Except String (ModelLibrary SampleDesign)) := do
  match ← shelf.files.find path with
  | .directory _ => pure (.error "cannot read file data: Is a directory")
  | .file place content =>
    match (shelf.libraries.lookup place).bind (SampleDesign.library? path) with
    | some library => pure (.ok library)
    | none => pure (.error (ObjectFile.fault content))

/-- What comes of the first of some paths where there is a file. -/
def firstOf (shelf : SampleShelf) (path : String) : List String →
    Except String (ModelLibrary SampleDesign)
  | [] =>
    let error := if Path.maxName < path.utf8ByteSize then FileError.nameTooLong else .notFound
    .error (path ++ ": cannot open shared object file: " ++ error.reason)
  | found :: rest =>
    match shelf.load? found with
    | .ok result => result.mapError fun text => found ++ ": " ++ text
    | .error _ => shelf.firstOf path rest

/-- Loads the library at a path. One that is given without a directory is looked for where
libraries are. -/
def find (shelf : SampleShelf) (path : String) : Except String (ModelLibrary SampleDesign) :=
  if path.toList.contains '/' then
    match shelf.load? path with
    | .ok result => result.mapError fun text => path ++ ": " ++ text
    | .error error => .error (path ++ ": cannot open shared object file: " ++ error.reason)
  else shelf.firstOf path (shelf.searched.map (· ++ path))

end SampleShelf

end Bringup
