import Bringup.Calibration.PhaseSearch
import Bringup.Calibration.Startup
/-!
# A calibration run

The sequencer takes the path to the memory, starts the memory, centers every group of the
layout, hands the memory over and publishes the result.
-/

namespace Bringup.Calibration.Sequencer

open Procedure (checked device updateStatus)

variable {σ ε : Type}

/-- Calibrates groups one after the other, also after a failure. Says whether all passed. -/
def calibrateGroups (sequencer : Sequencer σ ε) : List UInt32 → Procedure σ ε Bool
  | [] => pure true
  | group :: rest => do
    let pass ← sequencer.findDqsEnablePhase group
    let others ← calibrateGroups sequencer rest
    pure (pass && others)

/-- Calibrates every group of the layout. -/
def calibrateVfifo (sequencer : Sequencer σ ε) : Procedure σ ε Bool := do
  sequencer.loadReadPatterns
  sequencer.calibrateGroups sequencer.config.groups.groups

/-- Precharges all banks and activates row 0 in the first and the last bank. -/
def prechargeAndActivate (sequencer : Sequencer σ ε) : Procedure σ ε Unit := do
  sequencer.run .prechargeAll
  sequencer.load .zero 0x0f .activateWait1
  sequencer.load .one 0x0f .activateWait2
  sequencer.run .activate

/-- The write latency of the controller for that of the memory. -/
def writeLatencyFor (memoryLatency : UInt32) : UInt32 :=
  (if memoryLatency = 0 then 0 else memoryLatency - 1) / 2 + 1

/-- Sets the write latency that the memory asks for. -/
def configureMemory (sequencer : Sequencer σ ε) : Procedure σ ε Unit := do
  let address ← checked
    (Word.add32 sequencer.config.layout.phyManager PhyManager.memoryWriteLatency)
  let memoryLatency ← device (sequencer.bus.read address)
  let latency := writeLatencyFor memoryLatency
  updateStatus fun status => { status with writeLatency := latency }
  sequencer.writePhy PhyManager.afiWriteLatency (latency - 1)
  sequencer.prechargeAndActivate

/-- Calibrates a memory that was started. -/
def calibrateMemory (sequencer : Sequencer σ ε) : Procedure σ ε Bool := do
  updateStatus fun _ => Status.initial
  sequencer.configureMemory
  sequencer.calibrateVfifo

/-- Starts, calibrates and hands over the memory. Says whether every group was calibrated;
the status says more. -/
def calibrate (sequencer : Sequencer σ ε) : Procedure σ ε Bool := do
  sequencer.note .info ("calibrating " ++ sequencer.config.protocol.name ++ " memory")
  sequencer.takeOwnership
  sequencer.setRankAndOdtMask 0
  sequencer.startMemory
  let pass ← sequencer.calibrateMemory
  sequencer.prechargeAndActivate
  sequencer.writePhy PhyManager.fifoReset 0
  sequencer.handOff
  sequencer.writePhy PhyManager.muxSelect 0
  sequencer.writePhy PhyManager.calibrationStatus
    (if pass then PhyManager.calibrationSuccess else PhyManager.calibrationFailure)
  pure pass

end Bringup.Calibration.Sequencer
