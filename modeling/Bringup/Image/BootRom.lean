import Bringup.Image.Platform
import Bringup.Wire.Program
/-!
# The boot ROM

The boot ROM greets, asks the host for a program, shows each byte of it on the LEDs as it
arrives, and jumps into it. If the program is not accepted it says why and halts.
-/

namespace Bringup.BootRom

variable {σ ε : Type}

/-- The greeting. -/
def banner : List String :=
  ["", "__  ____      __", "\\ \\/ /\\ \\ /\\ / /", " >  <  \\ V  V / ", "/_/\\_\\  \\_/\\_/  ", "",
    "xw online"]

/-- Puts a byte of the program into memory and shows it. -/
def storeByte (platform : Platform σ ε) (index : Nat) (byte : UInt8) :
    EStateM (Halt ε) σ Unit := do
  Board.access (platform.storeProgram index byte)
  platform.setLeds byte

/-- Asks for a program and receives it. -/
def load (platform : Platform σ ε) (program : String) :
    EStateM (Program.LoadError (Halt ε)) σ Nat := do
  EStateM.adaptExcept Program.LoadError.transfer
    (Program.request platform.uart (Text.utf8Bytes program))
  Program.load platform.uart platform.programSize (storeByte platform)

/-- What to do when a program was not accepted. -/
def refuse (platform : Platform σ ε) (program : String) :
    Program.LoadError (Halt ε) → EStateM (Halt ε) σ Unit
  | .transfer (.device halt) => throw halt
  | error => platform.printLines
      ["cannot load " ++ program ++ ": " ++ error.message (fun _ => ""), "Halting."]

/-- Runs the boot ROM. -/
def run (platform : Platform σ ε) (program : String) : EStateM (Halt ε) σ Unit := do
  platform.printLines banner
  let state ← get
  match load platform program state with
  | .ok length state =>
    set state
    platform.printLine ("program read successful (" ++ Text.decimal length ++ " bytes)")
    platform.setLeds 0
    Board.access platform.jump
  | .error error state =>
    set state
    refuse platform program error

end Bringup.BootRom
