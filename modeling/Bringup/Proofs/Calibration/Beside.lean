import Bringup.Calibration.Scan
import Bringup.Proofs.InStep
/-!
# A sequencer beside something else

A bus may be one part of a larger state, with something beside it that the bus does not know of,
such as the page that a map is printed on. The sequencer over the larger state then does on its part
what it does alone, and leaves alone what lies beside it (`Sequencer.beside`). It is shown here of
the read test and of the steps of a clock; what is built from these follows by `InStep.bind`.
-/

namespace Bringup.Calibration

variable {σ ρ ε α : Type}

/-- The larger state is the smaller one with this beside it. -/
def Alongside (extra : ρ) (left : Progress σ) (right : Progress (σ × ρ)) : Prop :=
  right = ⟨left.status, left.device, extra⟩

namespace Procedure

variable {extra : ρ}

/-- A computation needs no state. -/
theorem checked_inStep (result : Except Fault α) :
    Action.InStep (Alongside extra) (checked result : Procedure σ ε α)
      (checked result : Procedure (σ × ρ) ε α) := by
  cases result with
  | ok value => exact .pure value
  | error fault => exact .throw (Trap.fault fault)

/-- An action on the part. -/
theorem device_inStep (action : EStateM ε σ α) :
    Action.InStep (Alongside extra) (device action) (device (Part.first.run action)) := by
  rintro ⟨status, state⟩ right rfl
  cases step : action state with
  | ok value next =>
    have whole : (Part.first : Part (σ × ρ) σ).run action (state, extra) =
        .ok value (next, extra) := Part.run_ok step
    apply Action.Agree.of_ok
    · rw [device, step]
    · rw [device, whole]
    · exact rfl
  | error error next =>
    have whole : (Part.first : Part (σ × ρ) σ).run action (state, extra) =
        .error error (next, extra) := Part.run_error step
    apply Action.Agree.of_error
    · rw [device, step]
    · rw [device, whole]
    · exact rfl

/-- What runs in step and succeeds on the part succeeds on the whole, beside whatever lies there. -/
theorem ok_beside {first : Procedure σ ε α} {second : Procedure (σ × ρ) ε α}
    (inStep : Action.InStep (Alongside extra) first second) {before after : Progress σ} {value : α}
    (ran : first before = .ok value after) :
    second ⟨before.status, before.device, extra⟩ =
      .ok value ⟨after.status, after.device, extra⟩ := by
  obtain ⟨_, _, right, same, whole, rfl⟩ | ⟨_, _, _, fails, _⟩ := (inStep before _ rfl).ends
  · rw [ran] at same
    cases same
    exact whole
  · rw [ran] at fails
    cases fails

end Procedure

namespace Sequencer

open Procedure (checked device checked_inStep device_inStep)

/-- The sequencer over a larger state. -/
def beside (sequencer : Sequencer σ ε) (ρ : Type) : Sequencer (σ × ρ) ε :=
  ⟨sequencer.bus.onPart Part.first, sequencer.config, sequencer.masks,
    sequencer.log.onPart Part.first⟩

variable (sequencer : Sequencer σ ε) (extra : ρ)

/-- Writing a register of the read-write manager. -/
theorem writeRw_inStep (offset value : UInt32) :
    Action.InStep (Alongside extra) (sequencer.writeRw offset value)
      ((sequencer.beside ρ).writeRw offset value) :=
  .bind (checked_inStep _) fun _ => device_inStep _

/-- Writing a register of the PHY manager. -/
theorem writePhy_inStep (offset value : UInt32) :
    Action.InStep (Alongside extra) (sequencer.writePhy offset value)
      ((sequencer.beside ρ).writePhy offset value) :=
  .bind (checked_inStep _) fun _ => device_inStep _

/-- Setting a loop counter and its jump target. -/
theorem load_inStep (counter : LoopCounter) (count : UInt32) (target : RomProgram) :
    Action.InStep (Alongside extra) (sequencer.load counter count target)
      ((sequencer.beside ρ).load counter count target) :=
  .bind (sequencer.writeRw_inStep extra _ count) fun _ =>
    sequencer.writeRw_inStep extra _ (sequencer.entry target)

/-- Reading a virtual group. -/
theorem readVirtualGroup_inStep (base group shift good index : UInt32) :
    Action.InStep (Alongside extra) (sequencer.readVirtualGroup base group shift good index)
      ((sequencer.beside ρ).readVirtualGroup base group shift good index) := by
  refine .bind (sequencer.writePhy_inStep extra _ 0) fun _ => ?_
  refine .bind (sequencer.writeRw_inStep extra _ 0) fun _ => ?_
  refine .bind (checked_inStep _) fun slot => ?_
  refine .bind (checked_inStep _) fun offset => ?_
  refine .bind (sequencer.writeRw_inStep extra offset (sequencer.entry .readBackToBack)) fun _ => ?_
  exact .bind (device_inStep _) fun errors => .pure _

/-- Reading virtual groups. -/
theorem readVirtualGroups_inStep (base group shift : UInt32) (count : Nat) (good : UInt32) :
    Action.InStep (Alongside extra) (sequencer.readVirtualGroups base group shift count good)
      ((sequencer.beside ρ).readVirtualGroups base group shift count good) := by
  induction count generalizing good with
  | zero => exact .pure good
  | succ count ih =>
    apply Action.InStep.bind
    · exact sequencer.readVirtualGroup_inStep extra base group shift good (UInt32.ofNat count)
    · exact ih

/-- A read test. -/
theorem readTest_inStep (group : UInt32) (allCorrect allGroups : Bool) :
    Action.InStep (Alongside extra) (sequencer.readTest group allCorrect allGroups)
      ((sequencer.beside ρ).readTest group allCorrect allGroups) := by
  refine .bind (checked_inStep _) fun shift => ?_
  refine .bind (sequencer.load_inStep extra .one 0x10 .readBackToBackWait1) fun _ => ?_
  refine .bind (sequencer.load_inStep extra .two 0x10 .readBackToBackWait2) fun _ => ?_
  refine .bind (sequencer.load_inStep extra .zero _ .readBackToBack) fun _ => ?_
  refine .bind (checked_inStep _) fun rounds => ?_
  refine .bind (sequencer.load_inStep extra .three rounds .readBackToBack) fun _ => ?_
  refine .bind (sequencer.readVirtualGroups_inStep extra _ group shift _ 0) fun good => ?_
  exact .bind (sequencer.writeRw_inStep extra _ _) fun _ => .pure _

/-- A step of a clock. -/
theorem stepClock_inStep (clock command : UInt32) :
    Action.InStep (Alongside extra) (sequencer.stepClock clock command)
      ((sequencer.beside ρ).stepClock clock command) := by
  refine .bind (checked_inStep _) fun address => ?_
  refine .bind (device_inStep _) fun _ => ?_
  show Action.InStep _ (if sequencer.config.protocol = .lpddr2 then _ else _)
    (if sequencer.config.protocol = .lpddr2 then _ else _)
  split
  · exact .bind (checked_inStep _) fun second => device_inStep _
  · exact .pure ()

/-- Going back. -/
theorem phaseDownBy_inStep (group : UInt32) (steps : Nat) :
    Action.InStep (Alongside extra) (sequencer.phaseDownBy group steps)
      ((sequencer.beside ρ).phaseDownBy group steps) := by
  induction steps with
  | zero => exact .pure ()
  | succ steps ih =>
    apply Action.InStep.bind
    · exact sequencer.stepClock_inStep extra _ _
    · exact fun _ => ih

end Sequencer

end Bringup.Calibration
