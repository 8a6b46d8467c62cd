import Bringup.Calibration.Run
import Bringup.Calibration.Scan
import Bringup.Image.Platform
/-!
# The calibration image

The calibrator calibrates the memory of its configuration and says how that went. It may
print a map of the phases of each group afterwards.
-/

namespace Bringup.Calibrator

open Calibration

variable {σ ε : Type}

/-- The image, as the log names it. -/
def logTarget : String := "calibrator"

/-- The managers of the board as a bus. -/
def bus (platform : Platform σ ε) : Bus σ (Halt ε) where
  read address := Board.access (platform.registers.readWord address)
  write address value := Board.access (platform.registers.writeWord address value)

/-- Prints on the console what a scan prints. -/
def printer (platform : Platform σ ε) : Sequencer.Printer σ (Halt ε) := some fun text => do
  platform.print text
  pure true

/-- Scans every phase of each group. -/
def scanGroups (sequencer : Sequencer σ (Halt ε)) (platform : Platform σ ε) :
    List UInt32 → Procedure σ (Halt ε) Unit
  | [] => pure ()
  | group :: rest => do
    let _ ← sequencer.scan (printer platform) group maxPhaseSteps
    scanGroups sequencer platform rest

/-- Calibrates and says how that went. -/
def calibrate (platform : Platform σ ε) (sequencer : Sequencer σ (Halt ε)) (scans : Bool) :
    Procedure σ (Halt ε) Unit := do
  let say (level : Level) (message : String) : Procedure σ (Halt ε) Unit :=
    Procedure.device (platform.log ⟨level, logTarget, message⟩)
  sequencer.softReset
  let pass ← sequencer.calibrate
  let status ← Procedure.status
  if pass then
    say .info ("calibration passed, write latency " ++ Text.decimal status.writeLatency.toNat)
    if scans then scanGroups sequencer platform sequencer.config.groups.groups
  else say .error status.failureText

/-- Why a procedure of the board ended early. -/
def haltOf : Trap (Halt ε) → Halt ε
  | .fault fault => .fault fault
  | .device halt => halt

/-- Runs the calibrator. -/
def run (platform : Platform σ ε) (config : Config) (scans : Bool) : EStateM (Halt ε) σ Unit := do
  platform.printLine "xw DDR3 calibration"
  let sequencer ← Board.checked (Sequencer.create (bus platform) platform.log config)
  let _ ← EStateM.adaptExcept haltOf (calibrate platform sequencer scans).fromStart

end Bringup.Calibrator
