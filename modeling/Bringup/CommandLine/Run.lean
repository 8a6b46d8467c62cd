import Bringup.CommandLine.Help
import Bringup.CommandLine.LogFilter
import Bringup.Host.Client
import Bringup.Host.Session
import Bringup.Simulation.Bench
import Bringup.Simulation.SampleDesign
/-!
# Running a command

A command works at a desk: it has files, perhaps a terminal with the board behind it, and two
places to write to. Results and console text go to one of them; the log, and in the end the
report of a failure with its causes, go to the other.
-/

namespace Bringup.CommandLine

/-- What is written beside the results. -/
inductive Remark where
  | logged (record : LogRecord)
  | plain (line : String)
  deriving DecidableEq, Repr

/-- What a command works with. -/
structure Desk where
  files : FileTree
  /-- The names of the libraries among the files, by their places. -/
  libraries : List (List String × String)
  /-- What stands in front of the names of libraries in the directories where they may lie. -/
  searched : List String := []
  /-- The path of the terminal. -/
  port : Option String
  terminal : Terminal
  filter : LogFilter
  /-- How the log says how long a simulation took. -/
  elapsed : String
  shown : Array UInt8 := #[]
  remarks : Array Remark := #[]
  /-- The paths of files that were asked for. -/
  asked : Array String := #[]
  /-- The files that were written. -/
  written : Array (String × List UInt8) := #[]

namespace Desk

/-- The terminal. -/
def terminalPart : Part Desk Terminal :=
  ⟨fun desk => (desk.terminal, fun terminal => { desk with terminal })⟩

/-- The board behind the terminal. -/
def device : Device Desk := Terminal.device.onPart terminalPart

/-- The place for results, which never fails. -/
def screen : Screen Desk where
  write bytes := modify fun desk => { desk with shown := desk.shown ++ bytes }
  flush := pure ()

/-- Shows text. -/
def showText (desk : Desk) (text : String) : Desk :=
  { desk with shown := desk.shown ++ Text.utf8Bytes text }

/-- Logs the records that the filter shows. -/
def log : Logger Desk Empty := fun record => modify fun desk =>
  if desk.filter.shows record then { desk with remarks := desk.remarks.push (.logged record) }
  else desk

/-- Reads a file. -/
def readFile {ε : Type} (path : String) : EStateM ε Desk (Except FileError (List UInt8)) :=
  modifyGet fun desk => (desk.files.read path, { desk with asked := desk.asked.push path })

/-- Writes a file. -/
def writeFile {ε : Type} (path : String) (content : List UInt8) :
    EStateM ε Desk (Except FileError Unit) := fun desk =>
  let desk := { desk with asked := desk.asked.push path }
  match desk.files.write path content with
  | .ok files => .ok (.ok ()) { desk with files, written := desk.written.push (path, content) }
  | .error error => .ok (.error error) desk

end Desk

/-- Why a command failed. -/
inductive CommandError where
  | noPort
  | opening (port : String) (error : DeviceError)
  | session (error : SessionError)
  /-- The monitor did not announce itself. -/
  | waiting (error : DeviceError)
  | monitor (error : DeviceError)
  | reading (path : String) (error : FileError)
  | tileSize (path : String) (size : Nat)
  | writing (path : String) (error : FileError)
  | readingRom (path : String) (error : FileError)
  | simulation (error : SimulationError)
  | calibrationFailed
  deriving DecidableEq, Repr

/-- The wording of a failure and of the causes below it, the outermost first. -/
def CommandError.chain : CommandError → List String
  | .noPort => ["no serial port given (use --port or XW_PORT)"]
  | .opening port error => ("cannot open " ++ port) :: error.chain
  | .session error => error.chain
  | .waiting error => "monitor did not announce a frame" :: error.chain
  | .monitor error => error.chain
  | .reading path error => ["cannot read " ++ path, error.message]
  | .tileSize path size =>
    [path ++ " is " ++ Text.decimal size ++ " bytes, a tile is "
      ++ Text.decimal (4 * tilePixels) ++ " bytes"]
  | .writing path error => ["cannot write " ++ path, error.message]
  | .readingRom path error => ["cannot read ROM image " ++ path, error.message]
  | .simulation error => error.chain
  | .calibrationFailed => ["DDR3 calibration failed"]

/-- The part of the system that runs commands, as the log names it. -/
def logTarget : String := "xw"

/-- Carrying out a command. -/
abbrev Action (α : Type) : Type := EStateM CommandError Desk α

namespace Action

variable {ε α : Type}

/-- Writes to the log. -/
def note (level : Level) (message : String) : Action Unit :=
  Desk.log.note ⟨level, logTarget, message⟩

/-- Says what a failure means for the command. -/
def lift (failure : ε → CommandError) (action : EStateM ε Desk α) : Action α :=
  EStateM.adaptExcept failure action

/-- Goes on with a value, or fails. -/
def ofResult (failure : ε → CommandError) (result : Except ε α) : Action α :=
  match result with
  | .ok value => pure value
  | .error error => throw (failure error)

/-- Shows a line. -/
def showLine (line : String) : Action Unit :=
  lift (fun _ => .noPort) (Desk.screen.write (Text.utf8Bytes (line ++ "\n")))

/-- Reads a file. -/
def readFile (failure : FileError → CommandError) (path : String) : Action (List UInt8) := do
  ofResult failure (← Desk.readFile path)

end Action

/-- Opens the serial port. -/
def openPort (connection : Connection) : Action Unit := do
  match connection.port with
  | none => throw .noPort
  | some port =>
    let desk ← get
    if desk.port = some port then
      Desk.log.note (Terminal.opened port connection.baudRate)
    else throw (.opening port (Terminal.openError desk.files port))

/-- Shows the console and serves programs until the monitor announces itself. -/
def serveConsole (connection : Connection) (source : ProgramSource) : Action Unit := do
  openPort connection
  let session : Session Desk := ⟨Desk.device, Desk.screen, Desk.log, Desk.readFile, source⟩
  let programs ← fun desk =>
    match session.run ⟨0, desk⟩ with
    | .ok _ serving => .ok serving.programs serving.world
    | .error error serving => .error (.session error) serving.world
  Action.note .info ("monitor ready after " ++ Text.decimal programs ++ " program(s)")

/-- Uses one frame of the monitor. -/
def withMonitor {α : Type} (connection : Connection)
    (use : Client Desk → EStateM DeviceError Desk α) : Action α := do
  openPort connection
  let client : Client Desk := ⟨Desk.device, Desk.log⟩
  Action.note .info "waiting for the monitor"
  Action.lift .waiting (client.waitReady Desk.screen)
  let value ← Action.lift .monitor (use client)
  Action.lift .monitor client.endFrame
  pure value

/-- Reads a tile from a file. -/
def readTile (path : String) : Action Tile := do
  let bytes ← Action.readFile (.reading path) path
  if bytes.length ≠ 4 * tilePixels then throw (.tileSize path bytes.length)
  pure (Tile.ofBytes bytes)

/-- Writes a tile to a file. -/
def writeTile (path : String) (tile : Tile) : Action Unit := do
  Action.ofResult (.writing path) (← Desk.writeFile path tile.encode)

/-- Loads a model, opens the trace that is wanted and answers the design, if it is the
expected one. -/
def openModel (path : String) (trace : Option String) :
    EStateM SimulationError Desk (ModelLibrary SampleDesign) := do
  modify fun desk => { desk with asked := desk.asked.push path }
  let desk ← get
  let shelf : SampleShelf := ⟨desk.files, desk.libraries, desk.searched⟩
  let library ← ModelLibrary.load Desk.log shelf.find path
  match trace with
  | some trace => library.openTrace Desk.log trace
  | none => pure ()
  pure library

/-- A design beside the desk that its bench logs to. -/
abbrev BenchedDesign : Type := SampleDesign × Desk

/-- Runs an action on a bench with a fresh memory. -/
def onBench {α : Type} (rom : ProgramRom) (design : SampleDesign)
    (action : Bench BenchedDesign → BenchAction BenchedDesign α) : Action α := fun desk =>
  let bench : Bench BenchedDesign :=
    ⟨SampleDesign.design.onFirst, Desk.log.onPart Part.second, rom⟩
  match action bench { world := (design, desk), ddr3 := .fresh Ddr3.defaultWords } with
  | .ok value benched => .ok value benched.world.2
  | .error error benched => .error (.simulation error) benched.world.2

/-- Runs a model of the system. -/
def simulate (model rom : String) (cycles : Nat) (trace : Option String) : Action Unit := do
  let image ← Action.readFile (.readingRom rom) rom
  let library ← Action.lift .simulation (openModel model trace)
  let design ← Action.ofResult .simulation (library.design .system)
  let content ← Action.ofResult .simulation (ProgramRom.ofImage image.toArray)
  let (run, leds) ← onBench content design fun bench => do
    SystemBench.reset bench
    SystemBench.run bench cycles
    let state ← get
    bench.finish
    pure (state.cycles, state.leds)
  Action.note .info ("simulated " ++ Text.decimal run ++ " cycles in " ++ (← get).elapsed
    ++ ", LEDs " ++ Text.markedBinary 8 leds.toNat)

/-- The name of a truth value. -/
def yesNo (value : Bool) : String := if value then "true" else "false"

/-- Runs a memory test model. -/
def simulateMemory (model : String) (cycles : Nat) (trace : Option String) : Action Unit := do
  let library ← Action.lift .simulation (openModel model trace)
  let design ← Action.ofResult .simulation (library.design .memoryTest)
  let status ← onBench .empty design fun bench => do
    MemoryBench.reset bench
    MemoryBench.run bench cycles
    let status := MemoryBench.status bench (← get)
    bench.finish
    pure status
  Action.note .info ("after " ++ Text.decimal cycles ++ " cycles: init done "
    ++ yesNo status.initDone ++ ", calibration success " ++ yesNo status.calibrated ++ ", failure "
    ++ yesNo status.calibrationFailed ++ ", LEDs " ++ Text.markedBinary 8 status.leds.toNat)
  if status.calibrationFailed then throw .calibrationFailed
  if !status.calibrated then Action.note .warn "DDR3 calibration did not finish"

/-- Carries out a command. -/
def perform (connection : Connection) : Command → Action Unit
  | .boot image => serveConsole connection (.fixed image)
  | .console root => serveConsole connection (.directory root)
  | .peek address => do
    let value ← withMonitor connection (·.readWord address)
    Action.showLine (Text.markedHex 8 address.toNat ++ ": " ++ Text.markedHex 8 value.toNat)
  | .poke address value => withMonitor connection (·.writeWord address value)
  | .tileWrite file => do
    let tile ← readTile file
    withMonitor connection (·.writeTile tile)
  | .tileRead file => do writeTile file (← withMonitor connection (·.readTile))
  | .rasterize => do
    let cycles ← withMonitor connection (·.rasterize)
    Action.showLine ("rasterized in " ++ Text.decimal cycles.toNat ++ " cycles")
  | .sim model rom cycles trace => simulate model rom cycles trace
  | .simDdr3 model cycles trace => simulateMemory model cycles trace

/-- A text whose first line begins with one lead and whose other lines begin with another. -/
def indented (first others text : String) : List String :=
  match text.splitOn "\n" with
  | line :: rest => (first ++ line) :: rest.map (others ++ ·)
  | [] => [first]

/-- The report of a failure, given by its wording and that of its causes. -/
def report : List String → List String
  | [] => []
  | message :: causes =>
    indented "Error: " "" message ++
      match causes with
      | [] => []
      | [cause] => ["", "Caused by:"] ++ indented "    " "    " cause
      | _ => ["", "Caused by:"] ++ causes.zipIdx.flatMap fun (cause, number) =>
        indented (Text.padLeft 5 ' ' (Text.decimal number) ++ ": ") "       " cause

/-- How a program ended. -/
inductive Ending where
  | success
  | failure (error : CommandError)
  /-- The command line is not well-formed. -/
  | misuse
  deriving DecidableEq, Repr

/-- The exit code of an ending. -/
def Ending.code : Ending → Nat
  | .success => 0
  | .failure _ => 1
  | .misuse => 2

/-- The lines that an ending adds to the remarks. -/
def Ending.report : Ending → List String
  | .failure error => CommandLine.report error.chain
  | _ => []

/-- The filter that the environment asks for, and warnings about it. -/
def filterOf (environment : List (String × String)) : LogFilter × List String :=
  let (filter, faults) := LogFilter.read ((environment.lookup "RUST_LOG").getD "info")
  (filter, faults.map fun fault => "warning: " ++ fault ++ ", ignoring it")

/-- Runs a command line at a desk. -/
def run (environment : List (String × String)) (arguments : List String) (desk : Desk) :
    Ending × Desk :=
  let (filter, warnings) := filterOf environment
  let searched := SampleShelf.leads ((environment.lookup "LD_LIBRARY_PATH").getD "")
  let desk := { desk with
    filter, searched, remarks := desk.remarks ++ warnings.map Remark.plain }
  match invocation environment arguments with
  | .error .misuse => (.misuse, desk)
  | .error (.help topic) => (.success, desk.showText (help environment topic))
  | .ok invocation =>
    match perform invocation.connection invocation.command desk with
    | .ok _ desk => (.success, desk)
    | .error error desk => (.failure error, desk)

/-- A remark as text. The level of a record stands in front of its text, further lines are
indented, and escape sequences are left out. -/
def Remark.text : Remark → String
  | .logged record => Text.withoutEscapes (record.line.replace "\n" "\n    " ++ "\n")
  | .plain line => line ++ "\n"

/-- The lines of everything that is written beside the results. -/
def errorLines (ending : Ending) (desk : Desk) : List String :=
  let written := desk.remarks.toList.map Remark.text ++ ending.report.map (· ++ "\n")
  (Text.lines (String.join written).toList).map String.ofList

/-- A desk with files, libraries and a terminal, at which nothing was done. -/
def Desk.fresh (shelf : SampleShelf) (port : Option String) (input : List UInt8)
    (elapsed : String) : Desk where
  files := shelf.files
  libraries := shelf.libraries
  port
  terminal := { unread := input }
  filter := ⟨[], none⟩
  elapsed

end Bringup.CommandLine
