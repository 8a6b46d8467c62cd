import Bringup.CommandLine.Run
/-!
# The program

A command is a function of the files and of the bytes that the board has sent. The program
runs it on what is known, and again whenever a file that it asked for or a byte from the
board has become known. A longer input only makes more of the same output, so each time what
is new of it is written out. A serial port is used at the rate that it is set to.
-/

namespace Bringup.CommandLine

/-- What is known of the world, and how much of the output was written out. -/
structure Live where
  files : FileTree
  known : List String := []
  port : Option (String × IO.FS.Handle) := none
  input : List UInt8 := []
  sent : Nat := 0
  shown : Nat := 0
  remarked : Nat := 0
  elapsed : String := ""

/-- The variables that commands look at. -/
def keys : List String :=
  ["RUST_LOG", "XW_PORT", "XW_BAUD", "LD_LIBRARY_PATH", "NO_COLOR", "CLICOLOR_FORCE"]

/-- The names that lead from the top to a path. -/
def absolute (directory : List String) (path : String) : List String :=
  (Path.components path).foldl (fun place name =>
    if name = "" || name = "." then place
    else if name = ".." then place.dropLast
    else place ++ [name]) (if Path.isAbsolute path then [] else directory)

/-- Looks a path up in the world and adds what is there, or else the directory that it would
lie in. -/
def learn (files : FileTree) (path : String) : IO FileTree := do
  let place := absolute files.workingDirectory path
  try
    let content ← IO.FS.readBinFile path
    pure (files.put place content.toList)
  catch _ =>
    let isDirectory (directory : List String) : IO Bool := do
      try
        let _ ← IO.FS.Handle.mk ("/" ++ "/".intercalate (directory ++ ["."])) .read
        pure true
      catch _ => pure false
    if ← isDirectory place then pure (files.put (place ++ [""]) [])
    else if ← isDirectory place.dropLast then pure (files.put (place.dropLast ++ [""]) [])
    else pure files

/-- Writes bytes out. -/
def writeBytes (stream : IO.FS.Stream) (bytes : List UInt8) : IO Unit := do
  unless bytes.isEmpty do
    stream.write ⟨bytes.toArray⟩
    stream.flush

/-- Writes out what is new at a desk. -/
def writeNews (live : Live) (desk : Desk) : IO Live := do
  writeBytes (← IO.getStdout) (desk.shown.toList.drop live.shown)
  for remark in desk.remarks.toList.drop live.remarked do
    IO.eprint remark.text
  if let some (_, handle) := live.port then
    let news := desk.terminal.received.toList.drop live.sent
    unless news.isEmpty do
      handle.write ⟨news.toArray⟩
      handle.flush
  pure { live with
    shown := desk.shown.size, remarked := desk.remarks.size, sent := desk.terminal.received.size }

/-- The next bytes of a serial port, none when it has ended. -/
def nextBytes (live : Live) : IO (List UInt8) :=
  match live.port with
  | some (_, handle) => do
    try pure (← handle.read 1).toList catch _ => pure []
  | none => pure []

/-- Runs a command line until it needs nothing more; answers its exit code. -/
partial def runLive (environment : List (String × String)) (arguments : List String)
    (live : Live) : IO UInt32 := do
  let begun ← IO.monoMsNow
  let desk := Desk.fresh { files := live.files } (live.port.map Prod.fst) live.input live.elapsed
  let (ending, desk) := run environment arguments desk
  match desk.asked.toList.find? (!live.known.contains ·) with
  | some path =>
    let files ← learn live.files path
    runLive environment arguments { live with files, known := path :: live.known }
  | none =>
    if live.elapsed.isEmpty then
      let elapsed := toString ((← IO.monoMsNow) - begun) ++ "ms"
      runLive environment arguments { live with elapsed }
    else
      let live ← writeNews live desk
      let more ← if desk.terminal.starved then nextBytes live else pure []
      if more.isEmpty then
        for (path, content) in desk.written do
          IO.FS.writeBinFile path ⟨content.toArray⟩
        for line in ending.report do
          IO.eprintln line
        if ending = .misuse then IO.eprintln usage
        pure (UInt32.ofNat ending.code)
      else runLive environment arguments { live with input := live.input ++ more }
where
  /-- How the program is used. -/
  usage : String := "Usage: xw [--port PORT] [--baud BAUD] COMMAND ..."

/-- Opens the serial port that a command line names, if it is none of the usual files. -/
def openLive (invocation : Except Interruption Invocation) :
    IO (Option (String × IO.FS.Handle)) := do
  match invocation.toOption.bind (·.connection.port) with
  | none => pure none
  | some path =>
    try pure (some (path, ← IO.FS.Handle.mk path .readWrite)) catch _ => pure none

end Bringup.CommandLine

/-- Runs the command line that the program was given. -/
def main (arguments : List String) : IO UInt32 := do
  let environment ← Bringup.CommandLine.keys.filterMapM fun name => do
    pure ((← IO.getEnv name).map fun value => (name, value))
  let directory := ((← IO.currentDir).toString.splitOn "/").filter (!·.isEmpty)
  let port ← Bringup.CommandLine.openLive
    (Bringup.CommandLine.invocation environment arguments)
  Bringup.CommandLine.runLive environment arguments { files := ⟨directory, []⟩, port }
