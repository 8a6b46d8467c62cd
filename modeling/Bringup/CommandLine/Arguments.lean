import Bringup.Host.Terminal
import Bringup.Text.Unsigned
/-!
# Arguments

A command line names a command among its arguments. The options that say how to reach the
board may stand before or behind the command; those behind it win, and the environment
stands in for those that are missing. Each option is given at most once on either side of the
command.

An argument that begins with a dash, and is more than that, is never a value. Behind two
dashes everything is a value. What was read last is pending: it is looked at when the next
argument of the same scope is met, or at the end. The arguments behind a command are another
scope, read before what is pending in front of the command is looked at. A wish for help is
granted as soon as it is met, unless something that was looked at was wrong.
-/

namespace Bringup.CommandLine

/-- How to reach the board. -/
structure Connection where
  port : Option String
  baudRate : UInt32
  deriving DecidableEq, Repr

/-- What to do. -/
inductive Command where
  /-- Answers every program request with one file and shows the console. -/
  | boot (image : String)
  /-- Shows the console and serves programs from a directory. -/
  | console (root : String)
  | peek (address : UInt32)
  | poke (address value : UInt32)
  | tileWrite (file : String)
  | tileRead (file : String)
  | rasterize
  /-- Runs a model of the system with a program ROM image. -/
  | sim (model rom : String) (cycles : Nat) (trace : Option String)
  /-- Runs a memory test model and reports calibration. -/
  | simDdr3 (model : String) (cycles : Nat) (trace : Option String)
  deriving DecidableEq, Repr

/-- A connection and a command. -/
structure Invocation where
  connection : Connection
  command : Command
  deriving DecidableEq, Repr

/-- An option of a command. -/
structure OptionSpec where
  name : String
  /-- What its value is called. -/
  valueName : String
  about : String := ""
  /-- Whether the option may stand without a value. -/
  bare : Bool := false
  required : Bool := false
  /-- The variable that stands in when the option is missing. -/
  key : Option String := none
  default : Option String := none

/-- A command: its name, what it does, what its values are called, and its options. -/
structure CommandSpec where
  name : String
  about : String
  values : List String := []
  options : List OptionSpec := []

/-- What help is about. -/
inductive HelpTopic where
  | program
  | command (command : CommandSpec)
  /-- The command that gives help. -/
  | help

/-- Why a command line names nothing to carry out. -/
inductive Interruption where
  /-- The command line is not well-formed. -/
  | misuse
  | help (topic : HelpTopic)

/-- What an argument looks like. -/
inductive Shape where
  | dashes
  /-- A long option, possibly with a value behind an equals sign. -/
  | long (name : String) (value : Option String)
  | short
  /-- A wish for help. -/
  | help
  | value

/-- The shape of an argument. -/
def shape (argument : String) : Shape :=
  match argument.toList with
  | ['-', '-'] => .dashes
  | '-' :: '-' :: rest =>
    let name := String.ofList (rest.takeWhile (· != '='))
    match rest.dropWhile (· != '=') with
    | _ :: value => .long name (some (String.ofList value))
    | [] => if name = "help" then .help else .long name none
  | '-' :: 'h' :: _ => .help
  | '-' :: _ :: _ => .short
  | _ => .value

/-- The options that say how to reach the board. -/
def connectionOptions : List OptionSpec :=
  [{ name := "port", valueName := "PORT", about := "Serial port the board is attached to",
      key := some "XW_PORT" },
    { name := "baud", valueName := "BAUD", key := some "XW_BAUD",
      default := some (Text.decimal Terminal.defaultBaudRate.toNat) }]

/-- The cycles that a system is run for unless it is told otherwise. -/
def systemCycles : Nat := 2800000

/-- The cycles that a memory test is run for unless it is told otherwise. -/
def memoryTestCycles : Nat := 10000

/-- The file of the trace when only a trace is asked for. -/
def defaultTrace : String := "trace.vcd"

/-- The option for the number of cycles. -/
def cyclesOption (default : Nat) : OptionSpec :=
  { name := "cycles", valueName := "CYCLES", default := some (Text.decimal default) }

/-- The commands. -/
def commands : List CommandSpec :=
  let image := "Answer every program request with IMAGE, then show the console"
  [{ name := "boot", about := image, values := ["IMAGE"] },
    { name := "console", about := "Show the console, serving requested programs from a directory",
      options := [{ name := "root", valueName := "ROOT", default := some "." }] },
    { name := "peek", about := "Read a word through the monitor", values := ["ADDR"] },
    { name := "poke", about := "Write a word through the monitor", values := ["ADDR", "VALUE"] },
    { name := "tile-write", values := ["FILE"],
      about := "Load the rasterizer tile buffer from a file of little-endian pixels" },
    { name := "tile-read", values := ["FILE"],
      about := "Save the rasterizer tile buffer to a file of little-endian pixels" },
    { name := "rasterize", about := "Run the rasterizer and print the cycles it took" },
    { name := "sim", about := "Run the xenowing model with a program ROM image",
      values := ["MODEL"]
      options := [{ name := "rom", valueName := "ROM", required := true },
        cyclesOption systemCycles,
        { name := "trace", valueName := "VCD", bare := true,
          about := "Write a VCD trace (default " ++ defaultTrace ++ ")" }] },
    { name := "sim-ddr3", about := "Run the DDR3 test model and report calibration",
      values := ["MODEL"]
      options := [cyclesOption memoryTestCycles,
        { name := "trace", valueName := "VCD", bare := true }] }]

/-- The command of a name. -/
def commandNamed? (name : String) : Option CommandSpec := commands.find? (·.name == name)

/-- A path, which must not be empty. -/
def path? (text : String) : Option String := if text.isEmpty then none else some text

/-- A word of memory or an address of one. -/
def word? (text : String) : Option UInt32 := (Text.readLooseWord32 text).toOption

/-- A number of cycles. -/
def cycles? (text : String) : Option Nat := (Text.readUnsigned 10 UInt64.size text.toList).toOption

/-- A baud rate. Zero may have a minus sign. -/
def baudRate? (text : String) : Option UInt32 :=
  let number? := match text.toList with
    | '-' :: c :: rest =>
      ((Text.appendDigits 10 0x8000000000000000 0 (c :: rest)).toOption).filter (· == 0)
    | digits => (Text.readUnsigned 10 0x8000000000000000 digits).toOption
  (number?.filter (· < UInt32.size)).map UInt32.ofNat

/-- Whether a text can be read as a value of a name. -/
def reads (name text : String) : Bool :=
  match name with
  | "PORT" => true
  | "BAUD" => (baudRate? text).isSome
  | "CYCLES" => (cycles? text).isSome
  | "ADDR" | "VALUE" => (word? text).isSome
  | _ => (path? text).isSome

/-- What was found among arguments. -/
structure Found where
  /-- The options with their values, the latest first. -/
  options : List (String × Option String) := []
  /-- The values that belong to no option, in order. -/
  values : List String := []

/-- What was read last and not looked at yet. -/
inductive Pending where
  | nothing
  /-- An option that its value may follow. -/
  | waiting (option : OptionSpec)
  | option (option : OptionSpec) (value : String)
  | value (value : String)

namespace Found

/-- The value of an option, if it has one. -/
def value? (found : Found) (name : String) : Option String :=
  (found.options.lookup name).join

/-- Adds an option, which must not be there yet, with a value that can be read. -/
def addOption (found : Found) (option : OptionSpec) (value : Option String) : Option Found :=
  if (found.options.lookup option.name).isNone && value.all (reads option.valueName)
    && (value.isSome || option.bare) then
    some { found with options := (option.name, value) :: found.options }
  else none

/-- Adds a value, which the command must have a name for and which can be read. -/
def addValue (found : Found) (names : List String) (value : String) : Option Found :=
  match names[found.values.length]? with
  | some name =>
    if reads name value then some { found with values := found.values ++ [value] } else none
  | none => none

/-- Looks at what is pending. -/
def settle (found : Found) (names : List String) : Pending → Option Found
  | .nothing => some found
  | .waiting option => found.addOption option none
  | .option option value => found.addOption option (some value)
  | .value value => found.addValue names value

end Found

/-- What going through the arguments of a scope comes to. -/
inductive Scanned where
  | misuse
  | help
  /-- A command was met, with something pending in front of it. -/
  | command (found : Found) (pending : Pending) (name : String) (rest : List String)
  /-- The arguments are over. -/
  | found (found : Found)

/-- What comes of a value if there is one; without it the command line is not well-formed. -/
def Scanned.after {α : Type} (value : Option α) (go : α → Scanned) : Scanned :=
  match value with
  | some value => go value
  | none => .misuse

/-- What is known of a scope: the options, the names of the values that belong to none, and
whether such a value is a command. -/
structure Scope where
  options : List OptionSpec
  names : List String := []
  leadsToCommand : Bool := false

/-- Adds values, each of which is looked at. -/
def Scope.addValues (scope : Scope) (found : Found) : List String → Option Found
  | [] => some found
  | value :: rest => (found.addValue scope.names value).bind (scope.addValues · rest)

/-- Goes through the arguments of a scope. -/
def Scope.scan (scope : Scope) (found : Found) (pending : Pending) : List String → Scanned
  | [] => .after (found.settle scope.names pending) .found
  | argument :: rest =>
    let settled := found.settle scope.names pending
    match shape argument with
    | .dashes =>
      .after settled fun found => .after (scope.addValues found rest) fun found =>
        if scope.leadsToCommand then .misuse else .found found
    | .short => .misuse
    | .help => .after settled fun _ => .help
    | .long name value =>
      .after settled fun found => .after (scope.options.find? (·.name == name)) fun option =>
        match value with
        | some value =>
          .after (found.addOption option (some value)) fun found => scope.scan found .nothing rest
        | none => scope.scan found (.waiting option) rest
    | .value =>
      match pending with
      | .waiting option => scope.scan found (.option option argument) rest
      | _ =>
        if scope.leadsToCommand then .command found pending argument rest
        else .after settled fun found => scope.scan found (.value argument) rest

/-- The value of an option that stands for a default when it is missing. -/
def Found.orDefault {α : Type} (found : Found) (name : String) (read : String → Option α)
    (default : α) : Option α :=
  match found.value? name with
  | some text => read text
  | none => some default

/-- The trace that is asked for, if any. -/
def Found.trace? (found : Found) : Option (Option String) :=
  match found.options.lookup "trace" with
  | none => some none
  | some none => some (some defaultTrace)
  | some (some text) => (path? text).map some

/-- The command of a name with its values and options. -/
def command? (name : String) (found : Found) : Option Command :=
  match name, found.values with
  | "boot", [image] => do pure (.boot (← path? image))
  | "console", [] => do pure (.console (← found.orDefault "root" path? "."))
  | "peek", [address] => do pure (.peek (← word? address))
  | "poke", [address, value] => do pure (.poke (← word? address) (← word? value))
  | "tile-write", [file] => do pure (.tileWrite (← path? file))
  | "tile-read", [file] => do pure (.tileRead (← path? file))
  | "rasterize", [] => some .rasterize
  | "sim", [model] => do
    let rom ← path? (← found.value? "rom")
    let cycles ← found.orDefault "cycles" cycles? systemCycles
    pure (.sim (← path? model) rom cycles (← found.trace?))
  | "sim-ddr3", [model] => do
    let cycles ← found.orDefault "cycles" cycles? memoryTestCycles
    pure (.simDdr3 (← path? model) cycles (← found.trace?))
  | _, _ => none

/-- The texts that an option of the connection is read from, the one that wins first. The
environment is looked at wherever the option is missing. -/
def candidates (environment : List (String × String)) (before behind : Found)
    (option key : String) : List String :=
  let fallback := environment.lookup key
  ([behind, before].filterMap (·.value? option)) ++
    (if [behind, before].all (·.value? option |>.isSome) then [] else fallback.toList)

/-- How to reach the board. Every text that was looked at has to be sound. -/
def connection? (environment : List (String × String)) (before behind : Found) :
    Option Connection := do
  let ports := candidates environment before behind "port" "XW_PORT"
  let rates ← (candidates environment before behind "baud" "XW_BAUD").mapM baudRate?
  pure ⟨ports.head?, rates.headD Terminal.defaultBaudRate⟩

/-- What help is wanted about, given the arguments of the command that gives help. -/
def helpTopic? : List String → Option HelpTopic
  | [] => some .program
  | ["help"] => some .help
  | [name] => (commandNamed? name).map .command
  | _ => none

/-- Goes on with a value, or else the command line is not well-formed. -/
def orMisuse {α : Type} (value : Option α) : Except Interruption α :=
  match value with
  | some value => .ok value
  | none => .error .misuse

/-- Reads the arguments of a command, which stand behind `before` and what is pending there. -/
def invocationOf (environment : List (String × String)) (before : Found) (pending : Pending)
    (spec : CommandSpec) (arguments : List String) : Except Interruption Invocation := do
  let scope : Scope := { options := connectionOptions ++ spec.options, names := spec.values }
  match scope.scan {} .nothing arguments with
  | .help => throw (.help (.command spec))
  | .found behind =>
    let before ← orMisuse (before.settle [] pending)
    let command ← orMisuse (command? spec.name behind)
    let connection ← orMisuse (connection? environment before behind)
    pure ⟨connection, command⟩
  | _ => throw .misuse

/-- Reads a command line. -/
def invocation (environment : List (String × String)) (arguments : List String) :
    Except Interruption Invocation := do
  let scope : Scope := { options := connectionOptions, leadsToCommand := true }
  match scope.scan {} .nothing arguments with
  | .help => throw (.help .program)
  | .command before pending name rest =>
    if name = "help" then throw (.help (← orMisuse (helpTopic? rest)))
    invocationOf environment before pending (← orMisuse (commandNamed? name)) rest
  | _ => throw .misuse

end Bringup.CommandLine
