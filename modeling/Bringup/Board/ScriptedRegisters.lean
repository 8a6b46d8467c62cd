import Bringup.Board.Console
import Bringup.Board.Panel
import Bringup.Calibration.Run
import Bringup.Wire.Program
/-!
# Registers with a script

Each register gives the values of its script one after the other, the last of them for ever.
Every access is recorded, and bytes loaded into memory are kept.
-/

namespace Bringup

/-- Registers that follow a script. -/
structure ScriptedRegisters where
  /-- The values to come; a register that is absent gives zero. -/
  scripts : List (UInt32 × List UInt32)
  accesses : Array Access := #[]
  counter : ReadingCounter := ⟨0⟩
  memory : Array UInt8 := #[]

namespace ScriptedRegisters

/-- Scripts by register; a UART that nothing is said about is ready. -/
def ofScripts (scripts : List (UInt32 × List UInt32)) : ScriptedRegisters where
  scripts := scripts ++ [(Board.uartSendStatus, [1]), (Board.uartReceiveStatus, [1])]

/-- The script after its next value was read. -/
def advance (address : UInt32) : List (UInt32 × List UInt32) → List (UInt32 × List UInt32)
  | [] => []
  | (place, values) :: rest =>
    if place = address then
      match values with
      | _ :: next :: others => (place, next :: others) :: rest
      | _ => (place, values) :: rest
    else (place, values) :: advance address rest

/-- The next value of a register. -/
def next (state : ScriptedRegisters) (address : UInt32) : UInt32 :=
  ((state.scripts.lookup address).getD []).headD 0

/-- Reads the next value of a register. -/
def fetch {ε : Type} (address : UInt32) : EStateM ε ScriptedRegisters UInt32 := fun state =>
  let value := state.next address
  .ok value { state with
    scripts := advance address state.scripts
    accesses := state.accesses.push (.read address value) }

/-- Records a write. -/
def store {ε : Type} (address value : UInt32) : EStateM ε ScriptedRegisters Unit :=
  modify fun state => { state with accesses := state.accesses.push (.write address value) }

/-- The scripted registers as registers; a byte register uses the low byte of its values. -/
def registers {ε : Type} : Registers ScriptedRegisters ε where
  readByte address := UInt32.toUInt8 <$> fetch address
  writeByte address value := store address value.toUInt32
  readWord := fetch
  writeWord := store

/-- The clock beside the registers. -/
def clock {ε : Type} : Clock ScriptedRegisters ε :=
  ReadingCounter.clock.onPart
    ⟨fun ⟨scripts, accesses, counter, memory⟩ =>
      (counter, fun counter => ⟨scripts, accesses, counter, memory⟩)⟩

/-- The low bytes that were written. -/
def writtenBytes (state : ScriptedRegisters) : List UInt8 :=
  state.accesses.toList.filterMap fun
    | .write _ value => some value.toUInt8
    | .read _ _ => none

/-- More polls than a script has values. -/
def patience : Nat := 1000000

/-- The UART as a stream. It never ends. -/
def uart {ε : Type} : ByteStream ScriptedRegisters (Halt ε) :=
  Uart.stream registers patience fun _ => 0

/-- Shows the second of two fresh frames, and after a swap the first. -/
def showFresh {ε : Type} (vsync : Bool) : EStateM (Halt ε) ScriptedRegisters Unit := do
  let scanout : Scanout ScriptedRegisters ε := Panel.scanout registers
  let frame (address : UInt32) : EStateM (Halt ε) ScriptedRegisters Frame :=
    Board.checked (Display.frameOf address (Array.replicate screenPixels 0))
  let display ← Display.start scanout (← frame 0) (← frame 1)
  let _ ← display.swap scanout patience vsync

/-- Keeps a byte of a program and shows it on the LEDs. -/
def keep {ε : Type} (index : Nat) (byte : UInt8) : EStateM (Halt ε) ScriptedRegisters Unit := do
  modify fun state => { state with memory := state.memory.setIfInBounds index byte }
  Board.setLeds registers byte

/-- Asks for a program over the UART and receives it into fresh memory. -/
def fetchProgram {ε : Type} (name : List UInt8) (capacity : Nat) :
    EStateM (Program.LoadError (Halt ε)) ScriptedRegisters Nat := do
  modify fun state => { state with memory := Array.replicate capacity 0 }
  EStateM.adaptExcept Program.LoadError.transfer (Program.request uart name)
  Program.load uart capacity keep

/-- A sequencer on these registers. -/
def sequencer {ε : Type} (config : Calibration.Config) :
    Except Fault (Calibration.Sequencer ScriptedRegisters ε) :=
  Calibration.Sequencer.create (Board.wordBus registers) .silent config

/-- Carries out a procedure of a fresh sequencer; answers the status that it leaves, too. -/
def calibrating {ε α : Type} (config : Calibration.Config)
    (procedure : Calibration.Sequencer ScriptedRegisters ε →
      Calibration.Procedure ScriptedRegisters ε α) :
    EStateM (Trap ε) ScriptedRegisters (α × Calibration.Status) := fun state =>
  match sequencer config with
  | .ok sequencer => (procedure sequencer).fromStart state
  | .error fault => .error (.fault fault) state

end ScriptedRegisters

end Bringup
