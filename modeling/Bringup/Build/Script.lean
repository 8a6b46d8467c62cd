import Bringup.Files.Tree
import Bringup.Header.Settings
import Bringup.Part
/-!
# Build scripts

Before an image is compiled, its script tells the build tool where to look for linker files
and what to watch, and the calibrator's writes out the settings. A script prints its
directives as it goes, so those before a failure are printed all the same, and what it writes
is in the tree of files behind it.
-/

namespace Bringup.Build

/-- The images that have a script, and the board support they share. -/
inductive Script where
  | calibrator
  | bootrom
  | monitor
  | demo
  | board
  deriving DecidableEq, Repr

/-- The name of a script: the directory it stands in. -/
def Script.name : Script → String
  | .calibrator => "calibrator"
  | .bootrom => "bootrom"
  | .monitor => "monitor"
  | .demo => "demo"
  | .board => "libboard_xw"

/-- The script of a name. -/
def Script.named? (name : String) : Option Script :=
  [calibrator, bootrom, monitor, demo, board].find? (·.name == name)

/-- Environment variables. -/
abbrev Environment : Type := List (String × String)

/-- Why a script gave up. -/
inductive BuildError where
  /-- A variable that has to be set is not. -/
  | unset
  /-- A header named in the environment cannot be read. -/
  | unreadable (path : String) (error : FileError)
  /-- The header beside the script cannot be read, or the settings cannot be written. -/
  | inaccessible (error : FileError)
  | settings (error : SettingsError)
  deriving DecidableEq, Repr

/-- The beginning of a message about a result that was taken for granted. -/
def takenForGranted : String := "called `Result::unwrap()` on an `Err` value: "

/-- A file error in full detail. -/
def fileErrorDetail (error : FileError) : String :=
  let quoted := "message: \"" ++ error.reason ++ "\" \x7d"
  let os (number kind : String) :=
    "Os \x7b code: " ++ number ++ ", kind: " ++ kind ++ ", " ++ quoted
  match error with
  | .notFound => os "2" "NotFound"
  | .isDirectory => os "21" "IsADirectory"
  | .notDirectory => os "20" "NotADirectory"
  | .nameTooLong => os "36" "InvalidFilename"
  | .zeroInPath => "Error \x7b kind: InvalidInput, " ++ quoted
  | .invalidText => "Error \x7b kind: InvalidData, " ++ quoted

/-- The wording of a build error. -/
def BuildError.message : BuildError → String
  | .unset => takenForGranted ++ "NotPresent"
  | .unreadable path error => "cannot read " ++ path ++ ": " ++ error.message
  | .inaccessible error => takenForGranted ++ fileErrorDetail error
  | .settings error => error.message

/-- A part of a script that writes no files: it prints lines and may give up. -/
abbrev Run (α : Type) : Type := EStateM BuildError (Array String) α

/-- Prints a directive for the build tool. -/
def directive (name value : String) : Run Unit :=
  modify (·.push ("cargo:" ++ name ++ "=" ++ value))

/-- Says that the script has to run again when a file changes. -/
def watchFile (path : String) : Run Unit := directive "rerun-if-changed" path

/-- Says that the script has to run again when a variable changes. -/
def watchVariable (name : String) : Run Unit := directive "rerun-if-env-changed" name

/-- The value of a variable that has to be set. -/
def variableOf (environment : Environment) (name : String) : Run String :=
  match environment.lookup name with
  | some value => pure value
  | none => throw .unset

/-- The directives for an image that links against the board support. -/
def linkBoard (directory : String) : Run Unit := do
  let board := Path.join directory "../libboard_xw"
  directive "rustc-link-search" board
  directive "rustc-link-arg-bins" "-Tprogram.ld"
  watchFile (Path.join board "program.ld")

/-- Reads headers one after the other. -/
def readHeaders (files : FileTree) (defines : Defines) : List String → Run Defines
  | [] => pure defines
  | path :: rest => do
    watchFile path
    match files.readText path with
    | .ok text => readHeaders files (defines.merge (Defines.parse text)) rest
    | .error error => throw (.unreadable path error)

/-- The constants of the headers: those named in the environment, or the one in the
directory of the script. -/
def headers (environment : Environment) (files : FileTree) (directory : String) :
    Run Defines := do
  watchVariable "SEQUENCER_DEFINES"
  match environment.lookup "SEQUENCER_DEFINES" with
  | some paths => readHeaders files .empty (paths.splitOn ":")
  | none =>
    let path := Path.join directory "sequencer_defines.h"
    watchFile path
    match files.readText path with
    | .ok text => pure (Defines.parse text)
    | .error error => throw (.inaccessible error)

/-- The program that the boot ROM asks for unless it is told otherwise. -/
def defaultProgram : String := "program.bin"

/-- The name of the file that settings are written to. -/
def settingsFile : String := "sequencer_config.rs"

/-- What a script works on. -/
structure Workspace where
  files : FileTree
  /-- The lines that were printed. -/
  printed : Array String

/-- The lines of a workspace. -/
def Workspace.lines : Part Workspace (Array String) :=
  ⟨fun space => (space.printed, fun lines => { space with printed := lines })⟩

/-- What a script does: it prints lines, writes files and may give up. -/
abbrev Work (α : Type) : Type := EStateM BuildError Workspace α

/-- A part of a script that writes no files. -/
def printing {α : Type} (part : Run α) : Work α := Workspace.lines.run part

/-- Goes on with settings, or gives up. -/
def settled {α : Type} : Except SettingsError α → Work α
  | .ok value => pure value
  | .error error => throw (.settings error)

/-- Writes a file. -/
def writeFile (path : String) (content : List UInt8) : Work Unit := fun space =>
  match space.files.write path content with
  | .ok files => .ok () { space with files }
  | .error error => .error (.inaccessible error) space

/-- Runs a script. -/
def run (environment : Environment) : Script → Work Unit
  | .calibrator => do
    let directory ← printing (variableOf environment "CARGO_MANIFEST_DIR")
    printing (linkBoard directory)
    let defines ← printing (headers environment (← get).files directory)
    settled (Settings.inspect defines)
    -- The directory is looked up before the settings are made.
    let out ← printing (variableOf environment "OUT_DIR")
    let settings ← settled (Settings.generate defines)
    writeFile (Path.join out settingsFile) (Text.utf8Bytes settings.render)
  | .bootrom => printing do
    let directory ← variableOf environment "CARGO_MANIFEST_DIR"
    directive "rustc-link-search" directory
    directive "rustc-link-arg-bins" "-Tlink.ld"
    watchFile "link.ld"
    watchVariable "XW_PROGRAM"
    directive "rustc-env" ("XW_PROGRAM=" ++ (environment.lookup "XW_PROGRAM").getD defaultProgram)
  | .monitor | .demo => printing do
    linkBoard (← variableOf environment "CARGO_MANIFEST_DIR")
  | .board => printing do
    let _ ← variableOf environment "TARGET"

end Bringup.Build
