import Bringup.Bus
import Bringup.Calibration.Delay
import Bringup.Calibration.Registers
import Bringup.Calibration.Status
/-!
# The sequencer

The sequencer programs the managers over a register bus. Its state is its status beside the
state of the bus. An address that does not fit a word is a fault, found before the access.
-/

namespace Bringup.Calibration

/-- A sequencer over a bus with state `σ`. -/
structure Sequencer (σ ε : Type) where
  bus : Bus σ ε
  config : Config
  masks : Masks
  log : Logger σ ε

/-- The status of the calibration beside the state of the bus. -/
structure Progress (σ : Type) where
  status : Status
  device : σ

/-- A program of the sequencer. -/
abbrev Procedure (σ ε α : Type) : Type := EStateM (Trap ε) (Progress σ) α

/-- Lifts an action on the device. -/
def Procedure.device {σ ε α : Type} (action : EStateM ε σ α) : Procedure σ ε α :=
  fun ⟨status, device⟩ =>
    match action device with
    | .ok value device => .ok value ⟨status, device⟩
    | .error error device => .error (.device error) ⟨status, device⟩

/-- Goes on with a computed value, or ends with its fault. -/
def Procedure.checked {σ ε α : Type} (value : Except Fault α) : Procedure σ ε α :=
  match value with
  | .ok value => pure value
  | .error fault => throw (.fault fault)

/-- Changes the status. -/
def Procedure.updateStatus {σ ε : Type} (change : Status → Status) : Procedure σ ε Unit :=
  fun ⟨status, device⟩ => .ok () ⟨change status, device⟩

/-- Runs a procedure that begins with no status; answers the status that it leaves, too. -/
def Procedure.fromStart {σ ε α : Type} (procedure : Procedure σ ε α) :
    EStateM (Trap ε) σ (α × Status) := fun state =>
  match procedure ⟨.initial, state⟩ with
  | .ok value ⟨status, device⟩ => .ok (value, status) device
  | .error error ⟨_, device⟩ => .error error device

/-- The status at this point. -/
def Procedure.status {σ ε : Type} : Procedure σ ε Status := fun progress =>
  .ok progress.status progress

open Procedure (checked device updateStatus)

/-- The part of the system that calibrates, as the log names it. -/
def logTarget : String := "sequencer::sequencer"

namespace Sequencer

variable {σ ε : Type}

/-- A sequencer for a configuration. -/
def create (bus : Bus σ ε) (log : Logger σ ε) (config : Config) :
    Except Fault (Sequencer σ ε) := do
  let masks ← Masks.ofGeometry config.geometry
  pure ⟨bus, config, masks, log⟩

/-- Writes a line to the log. -/
def note (sequencer : Sequencer σ ε) (level : Level) (message : String) : Procedure σ ε Unit :=
  device (sequencer.log ⟨level, logTarget, message⟩)

/-- Writes a register of the read-write manager. -/
def writeRw (sequencer : Sequencer σ ε) (offset value : UInt32) : Procedure σ ε Unit := do
  let address ← checked (Word.add32 sequencer.config.layout.rwManager offset)
  device (sequencer.bus.write address value)

/-- Writes a register of the PHY manager. -/
def writePhy (sequencer : Sequencer σ ε) (offset value : UInt32) : Procedure σ ε Unit := do
  let address ← checked (Word.add32 sequencer.config.layout.phyManager offset)
  device (sequencer.bus.write address value)

/-- Where a program of the instruction memory begins. -/
def entry (sequencer : Sequencer σ ε) (program : RomProgram) : UInt32 :=
  sequencer.config.programs program

/-- Runs a program of the instruction memory. -/
def run (sequencer : Sequencer σ ε) (program : RomProgram) : Procedure σ ε Unit :=
  sequencer.writeRw RwManager.runSingleGroup (sequencer.entry program)

/-- Sets one of the four loop counters. -/
def setCounter (sequencer : Sequencer σ ε) (counter : LoopCounter) (count : UInt32) :
    Procedure σ ε Unit :=
  sequencer.writeRw (RwManager.loadCounter + counter.offset) count

/-- Sets the jump target that belongs to a loop counter. -/
def setJump (sequencer : Sequencer σ ε) (counter : LoopCounter) (target : RomProgram) :
    Procedure σ ε Unit :=
  sequencer.writeRw (RwManager.loadJump + counter.offset) (sequencer.entry target)

/-- Sets a loop counter and its jump target. -/
def load (sequencer : Sequencer σ ε) (counter : LoopCounter) (count : UInt32)
    (target : RomProgram) : Procedure σ ε Unit := do
  sequencer.setCounter counter count
  sequencer.setJump counter target

/-- Records that a group failed. -/
def fail (group : UInt32) (substage : Substage) : Procedure σ ε Unit :=
  updateStatus fun status => { status with stage := .vfifo, substage := substage, group := group }

/-- Restarts the managers. -/
def softReset (sequencer : Sequencer σ ε) : Procedure σ ε Unit :=
  sequencer.writeRw RwManager.softReset 0

/-- Takes the path to the memory: read latency at its largest, the memory clock not stable
yet, no result published. -/
def takeOwnership (sequencer : Sequencer σ ε) : Procedure σ ε Unit := do
  sequencer.writePhy PhyManager.readLatency 0xf
  sequencer.writePhy PhyManager.muxSelect 1
  sequencer.writePhy PhyManager.memoryStable 0
  sequencer.writePhy PhyManager.calibrationStatus 0

/-- Selects one rank, with no on-die termination. -/
def setRankAndOdtMask (sequencer : Sequencer σ ε) (rank : UInt32) : Procedure σ ε Unit := do
  let bit ← checked (Word.bit32 rank)
  sequencer.writeRw RwManager.setRankAndOdtMask (0xff &&& ~~~bit)

/-- Runs a program several times. -/
def runTimes (sequencer : Sequencer σ ε) (program : RomProgram) :
    (times : Nat) → Procedure σ ε Unit
  | 0 => pure ()
  | times + 1 => do
    sequencer.run program
    runTimes sequencer program times

/-- Waits a number of memory clocks. A short wait uses the inner idle loop alone. -/
def delayClocks (sequencer : Sequencer σ ε) (clocks : UInt32) : Procedure σ ε Unit := do
  let covered ← checked (controllerClocks clocks (sequencer.config.geometry .afiRateRatio))
  let counters := DelayCounters.ofControllerClocks covered
  if covered ≤ 0x100 then
    sequencer.load .one counters.inner.toUInt32 .idleLoop1
    sequencer.run .idleLoop1
  else
    sequencer.setCounter .zero counters.inner.toUInt32
    sequencer.setCounter .one counters.outer.toUInt32
    sequencer.setJump .zero .idleLoop2
    sequencer.setJump .one .idleLoop2
    sequencer.runTimes .idleLoop2 (counters.repeats.toNat + 1)

/-- Waits a number of nanoseconds. -/
def delayNanoseconds (sequencer : Sequencer σ ε) (nanoseconds : UInt32) :
    Procedure σ ε Unit := do
  let clocks ← checked (memoryClocks nanoseconds sequencer.config.geometry)
  sequencer.delayClocks clocks

/-- Runs programs one after the other. -/
def runAll (sequencer : Sequencer σ ε) : List RomProgram → Procedure σ ε Unit
  | [] => pure ()
  | program :: rest => do
    sequencer.run program
    runAll sequencer rest

end Sequencer

end Bringup.Calibration
