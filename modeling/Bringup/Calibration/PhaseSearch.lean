import Bringup.Calibration.ReadTest
/-!
# Centering the DQS enable phase

The search first finds a position of the read-valid FIFO and a clock phase at which every bit
reads well. From there it steps down until reads fail and then up across the whole window
until they fail again, and goes back half of the way. Every sweep is bounded, so the search
ends whatever the memory answers.
-/

namespace Bringup.Calibration.Sequencer

open Procedure (checked device updateStatus)

variable {σ ε : Type}

/-- Moves a capture clock by one step. An LPDDR2 memory has a second clock beside it. -/
def stepClock (sequencer : Sequencer σ ε) (clock command : UInt32) : Procedure σ ε Unit := do
  let base := sequencer.config.layout.pllManager
  let address ← checked (Word.add32 base (clock <<< 2))
  device (sequencer.bus.write address command)
  if sequencer.config.protocol = .lpddr2 then
    let second ← checked do
      let beside ← Word.add32 base clock
      Word.add32 beside 4
    device (sequencer.bus.write second command)

/-- Moves the capture clock of a group one step up. -/
def phaseUp (sequencer : Sequencer σ ε) (group : UInt32) : Procedure σ ε Unit :=
  sequencer.stepClock (captureClock group) PllManager.increment

/-- Moves the capture clock of a group one step down. -/
def phaseDown (sequencer : Sequencer σ ε) (group : UInt32) : Procedure σ ε Unit :=
  sequencer.stepClock (captureClock group) PllManager.decrement

/-- Moves the capture clock of a group several steps down. -/
def phaseDownBy (sequencer : Sequencer σ ε) (group : UInt32) : (steps : Nat) → Procedure σ ε Unit
  | 0 => pure ()
  | steps + 1 => do
    sequencer.phaseDown group
    phaseDownBy sequencer group steps

/-- Whether any bit of a group reads well. -/
def anyBitReads (sequencer : Sequencer σ ε) (group : UInt32) : Procedure σ ε Bool :=
  Prod.fst <$> sequencer.readTest group false false

/-- Tries FIFO positions until every bit of a group reads well. -/
def tryPositions (sequencer : Sequencer σ ε) (group : UInt32) :
    (positions : Nat) → Procedure σ ε Bool
  | 0 => pure false
  | positions + 1 => do
    let (pass, _) ← sequencer.readTest group true false
    if pass then pure true
    else
      sequencer.writePhy PhyManager.incrementVfifo group
      tryPositions sequencer group positions

/-- Tries all FIFO positions at one phase after the other. Answers the steps taken to the
phase at which one works. -/
def findPosition (sequencer : Sequencer σ ε) (group : UInt32) :
    (rounds steps : Nat) → Procedure σ ε (Option Nat)
  | 0, _ => pure none
  | rounds + 1, steps => do
    if ← sequencer.tryPositions group vfifoPositions then pure (some steps)
    else
      sequencer.phaseUp group
      findPosition sequencer group rounds (steps + 1)

/-- Steps down to the first phase at which reads fail. Says whether there is one. -/
def findLowerEdge (sequencer : Sequencer σ ε) (group : UInt32) :
    (rounds : Nat) → Procedure σ ε Bool
  | 0 => pure false
  | rounds + 1 => do
    sequencer.phaseDown group
    if ← sequencer.anyBitReads group then findLowerEdge sequencer group rounds else pure true

/-- Steps up to the next phase at which reads fail. Answers the steps taken to it. -/
def findUpperEdge (sequencer : Sequencer σ ε) (group : UInt32) :
    (rounds steps : Nat) → Procedure σ ε (Option Nat)
  | 0, _ => pure none
  | rounds + 1, steps => do
    sequencer.phaseUp group
    if ← sequencer.anyBitReads group then findUpperEdge sequencer group rounds (steps + 1)
    else pure (some (steps + 1))

/-- The beginning of every log line about a group. -/
def groupText (group : UInt32) : String := "group " ++ Text.decimal group.toNat ++ ": "

/-- Gives up on a group. -/
def giveUp (sequencer : Sequencer σ ε) (group : UInt32) (substage : Substage)
    (reason : String) : Procedure σ ε Bool := do
  sequencer.note .warn (groupText group ++ reason)
  fail group substage
  pure false

/-- Finds a working FIFO position for a group and centers its DQS enable phase. Says whether
that succeeded. -/
def findDqsEnablePhase (sequencer : Sequencer σ ε) (group : UInt32) : Procedure σ ε Bool := do
  match ← sequencer.findPosition group maxPhaseSteps 0 with
  | none => sequencer.giveUp group .dqsEnablePhase "no working VFIFO position"
  | some steps =>
    sequencer.note .debug (groupText group ++ "VFIFO found after " ++ Text.decimal steps
      ++ " phase steps")
    if ← sequencer.findLowerEdge group maxPhaseSteps then
      match ← sequencer.findUpperEdge group maxPhaseSteps 0 with
      | none => sequencer.giveUp group .vfifoCenter "no upper edge of the DQS enable window"
      | some width =>
        sequencer.phaseDownBy group (width / 2)
        sequencer.note .debug (groupText group ++ "DQS enable window is "
          ++ Text.decimal (width - 1) ++ " phase steps wide")
        pure true
    else sequencer.giveUp group .vfifoCenter "no lower edge of the DQS enable window"

end Bringup.Calibration.Sequencer
