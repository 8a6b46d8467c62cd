import Bringup.Board.I2c
import Bringup.Proofs.InStep
/-!
# Transfers in step

Two pairs of lines over different states are in step when each call finds the same levels on both
and keeps the states in relation (`Pins.InStep`). A transfer is made of such calls only, so register
transfers on lines in step come to the same result and keep the states in relation, too
(`writeRegister_inStep`, `readRegister_inStep`).
-/

namespace Bringup

variable {σ τ ε α : Type} {relation : σ → τ → Prop}

/-- From states in relation each call has the same answer on both pairs of lines, and the states are
in relation again. -/
structure Pins.InStep (relation : σ → τ → Prop) (pins : Pins σ ε) (other : Pins τ ε) : Prop where
  write : ∀ clock data,
    Action.InStep relation (pins.write clock data) (other.write clock data)
  read : Action.InStep relation pins.read other.read
  delay : Action.InStep relation pins.delay other.delay

namespace I2c

variable {pins : Pins σ ε} {other : Pins τ ε} (inStep : pins.InStep relation other)

include inStep

/-- Driving the lines and waiting. -/
theorem set_inStep (clock data : Bool) :
    Action.InStep relation (set pins clock data) (set other clock data) := by
  refine .bind ((inStep.write clock data).adapt _) fun _ => ?_
  exact inStep.delay.adapt _

/-- A start. -/
theorem start_inStep : Action.InStep relation (start pins) (start other) := by
  refine .bind (set_inStep inStep true true) fun _ => ?_
  refine .bind (set_inStep inStep true false) fun _ => ?_
  exact set_inStep inStep false false

/-- A stop. -/
theorem stop_inStep : Action.InStep relation (stop pins) (stop other) := by
  refine .bind (set_inStep inStep false false) fun _ => ?_
  refine .bind (set_inStep inStep true false) fun _ => ?_
  exact set_inStep inStep true true

/-- Giving up. -/
theorem giveUp_inStep (error : I2cError) :
    Action.InStep relation (do stop pins; throw (.bus error) : Transfer σ ε α)
      (do stop other; throw (.bus error)) := by
  refine .bind (stop_inStep inStep) fun _ => ?_
  exact .throw (I2cTrap.bus error)

/-- Looking whether the clock is high. -/
theorem awaitClock_inStep (polls : Nat) :
    Action.InStep relation (awaitClock pins polls) (awaitClock other polls) := by
  induction polls with
  | zero => exact giveUp_inStep inStep .clockStretchTimeout
  | succ polls ih =>
    refine .bind (inStep.read.adapt _) fun levels => ?_
    obtain ⟨clock, data⟩ := levels
    cases clock with
    | true => exact .pure ()
    | false => exact ih

/-- Sending a bit. -/
theorem writeBit_inStep (bit : Bool) :
    Action.InStep relation (writeBit pins bit) (writeBit other bit) := by
  refine .bind (set_inStep inStep false bit) fun _ => ?_
  refine .bind ((inStep.write true bit).adapt _) fun _ => ?_
  refine .bind (awaitClock_inStep inStep stretchPolls) fun _ => ?_
  refine .bind (inStep.delay.adapt _) fun _ => ?_
  exact set_inStep inStep false bit

/-- Receiving a bit. -/
theorem readBit_inStep : Action.InStep relation (readBit pins) (readBit other) := by
  refine .bind (set_inStep inStep false true) fun _ => ?_
  refine .bind ((inStep.write true true).adapt _) fun _ => ?_
  refine .bind (awaitClock_inStep inStep stretchPolls) fun _ => ?_
  refine .bind (inStep.delay.adapt _) fun _ => ?_
  refine .bind (inStep.read.adapt _) fun levels => ?_
  exact .bind (set_inStep inStep false true) fun _ => .pure levels.2

/-- Sending bits. -/
theorem writeBits_inStep (bits : List Bool) :
    Action.InStep relation (writeBits pins bits) (writeBits other bits) := by
  induction bits with
  | nil => exact .pure ()
  | cons bit rest ih => exact .bind (writeBit_inStep inStep bit) fun _ => ih

/-- Receiving bits. -/
theorem readBits_inStep (count : Nat) (byte : UInt8) :
    Action.InStep relation (readBits pins count byte) (readBits other count byte) := by
  induction count generalizing byte with
  | zero => exact .pure byte
  | succ count ih =>
    apply Action.InStep.bind
    · exact readBit_inStep inStep
    · exact fun bit => ih _

/-- Sending a byte that has to be acknowledged. -/
theorem writeAcknowledged_inStep (byte : UInt8) :
    Action.InStep relation (writeAcknowledged pins byte) (writeAcknowledged other byte) := by
  have sends : Action.InStep relation (write pins byte) (write other byte) := by
    refine .bind (writeBits_inStep inStep (bitsOf byte)) fun _ => ?_
    exact .bind (readBit_inStep inStep) fun released => .pure !released
  refine .bind sends fun acknowledged => ?_
  cases acknowledged with
  | true => exact .pure ()
  | false => exact giveUp_inStep inStep .nack

/-- Writing a register. -/
theorem writeRegister_inStep (address register value : UInt8) :
    Action.InStep relation (writeRegister pins address register value)
      (writeRegister other address register value) := by
  refine .bind (start_inStep inStep) fun _ => ?_
  refine .bind (writeAcknowledged_inStep inStep _) fun _ => ?_
  refine .bind (writeAcknowledged_inStep inStep register) fun _ => ?_
  refine .bind (writeAcknowledged_inStep inStep value) fun _ => ?_
  exact stop_inStep inStep

/-- Reading a register. -/
theorem readRegister_inStep (address register : UInt8) :
    Action.InStep relation (readRegister pins address register)
      (readRegister other address register) := by
  have receives : Action.InStep relation (read pins false) (read other false) := by
    refine .bind (readBits_inStep inStep 8 0) fun byte => ?_
    exact .bind (writeBit_inStep inStep !false) fun _ => .pure byte
  refine .bind (start_inStep inStep) fun _ => ?_
  refine .bind (writeAcknowledged_inStep inStep _) fun _ => ?_
  refine .bind (writeAcknowledged_inStep inStep register) fun _ => ?_
  refine .bind (start_inStep inStep) fun _ => ?_
  refine .bind (writeAcknowledged_inStep inStep _) fun _ => ?_
  refine .bind receives fun value => ?_
  exact .bind (stop_inStep inStep) fun _ => .pure value

end I2c

end Bringup
