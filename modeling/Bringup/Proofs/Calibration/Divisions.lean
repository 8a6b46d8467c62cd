import Bringup.Proofs.Calibration.Chores
/-!
# What a calibration divides by

A procedure avoids a fault if it never ends with it, whatever the bus answers and even where the bus
fails (`Procedure.Avoids`). Avoiding a fault goes through sequences, so that for each part of a
calibration there is one lemma, which names the divisions of that part.

Main statement: a calibration never divides by zero exactly where no number of the configuration
that is divided by is zero (`neverDividesByZero_iff`).
-/

namespace Bringup.Calibration

variable {σ ε α β : Type}

/-- A computation that goes on after another one avoids a fault if both do. -/
theorem bind_avoids {fault : Fault} {first : Except Fault α} {rest : α → Except Fault β}
    (before : first ≠ .error fault) (after : ∀ value, rest value ≠ .error fault) :
    (first >>= rest) ≠ .error fault := by
  cases first with
  | ok value => exact after value
  | error other => exact fun same => before (congrArg Except.error (Except.error.inj same))

/-- A sum does not divide. -/
theorem add32_divides (a b : UInt32) : Word.add32 a b ≠ .error .divideByZero := by
  rw [Word.add32]
  split <;> rintro ⟨⟩

/-- A difference does not divide. -/
theorem sub32_divides (a b : UInt32) : Word.sub32 a b ≠ .error .divideByZero := by
  rw [Word.sub32]
  split <;> rintro ⟨⟩

/-- A product does not divide. -/
theorem mul32_divides (a b : UInt32) : Word.mul32 a b ≠ .error .divideByZero := by
  rw [Word.mul32]
  split <;> rintro ⟨⟩

/-- A product of long words does not divide. -/
theorem mul64_divides (a b : UInt64) : Word.mul64 a b ≠ .error .divideByZero := by
  rw [Word.mul64]
  split <;> rintro ⟨⟩

/-- A shift does not divide. -/
theorem bit32_divides (amount : UInt32) : Word.bit32 amount ≠ .error .divideByZero := by
  rw [Word.bit32]
  split <;> rintro ⟨⟩

/-- A quotient divides by its divisor. -/
theorem div32_divides (a b : UInt32) : Word.div32 a b ≠ .error .divideByZero ↔ b ≠ 0 := by
  rw [Word.div32]
  split <;> simp [*]

/-- The masks of a geometry divide by the virtual groups of a strobe and by the data masks. -/
theorem masks_divide (geometry : Geometry) : Masks.ofGeometry geometry ≠ .error .divideByZero ↔
    geometry .virtualGroupsPerReadDqs ≠ 0 ∧ geometry .dataMaskWidth ≠ 0 := by
  rw [Masks.ofGeometry, Word.div32, Word.div32]
  by_cases groups : geometry .virtualGroupsPerReadDqs = 0
  · rw [if_pos groups]
    exact iff_of_false (fun divides => divides rfl) fun both => both.1 groups
  · rw [if_neg groups]
    by_cases masks : geometry .dataMaskWidth = 0
    · rw [if_pos masks]
      exact iff_of_false (fun divides => divides rfl) fun both => both.2 masks
    · rw [if_neg masks]
      exact iff_of_true (by rintro ⟨⟩) ⟨groups, masks⟩

/-- Controller clocks divide by the ratio of the clocks. -/
theorem controllerClocks_divides (clocks ratio : UInt32) :
    controllerClocks clocks ratio ≠ .error .divideByZero ↔ ratio ≠ 0 := by
  rw [controllerClocks, Word.div32]
  by_cases zero : ratio = 0
  · rw [if_pos zero]
    exact iff_of_false (fun divides => divides rfl) fun nonzero => nonzero zero
  · rw [if_neg zero]
    exact iff_of_true (by rintro ⟨⟩) zero

/-- Loop counters divide by the ratio of the clocks. -/
theorem delayCounters_divides (clocks ratio : UInt32) :
    delayCounters clocks ratio ≠ .error .divideByZero ↔ ratio ≠ 0 := by
  rw [← controllerClocks_divides clocks, delayCounters]
  cases controllerClocks clocks ratio <;> simp [Except.map]

/-- Memory clocks divide by the frequency of the controller's clock and by its period. -/
theorem memoryClocks_divides (nanoseconds : UInt32) (geometry : Geometry) :
    memoryClocks nanoseconds geometry ≠ .error .divideByZero ↔
      geometry .afiClockFrequency ≠ 0 ∧ (geometry .afiClockFrequency).toNat ≤ 1000000 := by
  have same : (geometry .afiClockFrequency).toUInt64 = 0 ↔ geometry .afiClockFrequency = 0 := by
    rw [← UInt64.toNat_inj, ← UInt32.toNat_inj, UInt32.toNat_toUInt64]
    rfl
  rw [memoryClocks, Word.div64]
  by_cases stopped : geometry .afiClockFrequency = 0
  · rw [if_pos (same.2 stopped)]
    exact iff_of_false (fun divides => divides rfl) fun both => both.1 stopped
  · rw [if_neg fun zero => stopped (same.1 zero)]
    show (Word.div64 _ (1000000 / _) >>= _) ≠ _ ↔ _
    rw [Word.div64, ← period_ne_zero stopped]
    by_cases period : 1000000 / (geometry .afiClockFrequency).toUInt64 = 0
    · rw [if_pos period]
      exact iff_of_false (fun divides => divides rfl) fun both => both.2 period
    · rw [if_neg period]
      refine iff_of_true ?_ ⟨stopped, period⟩
      show (Word.mul64 _ _ >>= _) ≠ _
      exact bind_avoids (mul64_divides _ _) fun clocks => by rintro ⟨⟩

namespace Procedure

/-- However a procedure ends, it does not end with this fault. -/
def Avoids (fault : Fault) (procedure : Procedure σ ε α) : Prop :=
  ∀ before after, procedure before ≠ .error (.fault fault) after

namespace Avoids

variable {fault : Fault} {procedure : Procedure σ ε α}

/-- A value alone is no fault. -/
theorem pure (value : α) : Avoids fault (pure value : Procedure σ ε α) := nofun

/-- Procedures in sequence. -/
theorem bind {rest : α → Procedure σ ε β} (first : Avoids fault procedure)
    (later : ∀ value, Avoids fault (rest value)) : Avoids fault (procedure >>= rest) := by
  intro before after ended
  cases step : procedure before with
  | ok value middle =>
    rw [Action.bind_ok step] at ended
    exact later value middle after ended
  | error error middle =>
    rw [Action.bind_error step] at ended
    cases ended
    exact first before after step

/-- A function of the value is no fault. -/
theorem map (avoids : Avoids fault procedure) (change : α → β) :
    Avoids fault (change <$> procedure) :=
  avoids.bind fun _ => pure _

/-- A computation that avoids the fault. -/
theorem checked {result : Except Fault α} (avoids : result ≠ .error fault) :
    Avoids fault (checked result : Procedure σ ε α) := by
  intro before after ended
  cases result with
  | ok value => cases ended
  | error other =>
    cases ended
    exact avoids rfl

/-- What the device does is no fault of the procedure. -/
theorem device (action : EStateM ε σ α) : Avoids fault (device action) := by
  intro before after ended
  obtain ⟨status, state⟩ := before
  rw [Procedure.device] at ended
  cases step : action state with
  | ok value next =>
    rw [step] at ended
    cases ended
  | error error next =>
    rw [step] at ended
    cases ended

/-- Changing the status is no fault. -/
theorem updateStatus (change : Status → Status) :
    Avoids fault (updateStatus change : Procedure σ ε Unit) := nofun

end Avoids

end Procedure

/-- The numbers that a sequencer divides by once it is made are not zero, nor is the period of the
controller's clock in whole picoseconds. -/
structure Config.Measures (config : Config) : Prop where
  virtualGroups : config.geometry .virtualGroupsPerReadDqs ≠ 0
  ratio : config.geometry .afiRateRatio ≠ 0
  frequency : config.geometry .afiClockFrequency ≠ 0
  period : (config.geometry .afiClockFrequency).toNat ≤ 1000000

namespace Sequencer

open Procedure (Avoids)

variable (sequencer : Sequencer σ ε)

/-- Writing a register of the read-write manager does not divide. -/
theorem writeRw_avoids (offset value : UInt32) :
    Avoids .divideByZero (sequencer.writeRw offset value) :=
  .bind (.checked (add32_divides _ _)) fun _ => .device _

/-- Writing a register of the PHY manager does not divide. -/
theorem writePhy_avoids (offset value : UInt32) :
    Avoids .divideByZero (sequencer.writePhy offset value) :=
  .bind (.checked (add32_divides _ _)) fun _ => .device _

/-- Running a program does not divide. -/
theorem run_avoids (program : RomProgram) : Avoids .divideByZero (sequencer.run program) :=
  sequencer.writeRw_avoids _ _

/-- Running programs in order does not divide. -/
theorem runAll_avoids (programs : List RomProgram) :
    Avoids .divideByZero (sequencer.runAll programs) := by
  induction programs with
  | nil => exact .pure ()
  | cons program rest ih => exact .bind (sequencer.run_avoids program) fun _ => ih

/-- Running a program several times does not divide. -/
theorem runTimes_avoids (program : RomProgram) (times : Nat) :
    Avoids .divideByZero (sequencer.runTimes program times) := by
  induction times with
  | zero => exact .pure ()
  | succ times ih => exact .bind (sequencer.run_avoids program) fun _ => ih

/-- Setting a loop counter and its jump target does not divide. -/
theorem load_avoids (counter : LoopCounter) (count : UInt32) (target : RomProgram) :
    Avoids .divideByZero (sequencer.load counter count target) :=
  .bind (sequencer.writeRw_avoids _ _) fun _ => sequencer.writeRw_avoids _ _

/-- Waiting some clocks divides by the ratio of the clocks. -/
theorem delayClocks_avoids (nonzero : sequencer.config.geometry .afiRateRatio ≠ 0)
    (clocks : UInt32) : Avoids .divideByZero (sequencer.delayClocks clocks) := by
  refine .bind (.checked ((controllerClocks_divides _ _).2 nonzero)) fun covered => ?_
  dsimp only
  split
  · exact .bind (sequencer.load_avoids _ _ _) fun _ => sequencer.run_avoids _
  · exact .bind (sequencer.writeRw_avoids _ _) fun _ =>
      .bind (sequencer.writeRw_avoids _ _) fun _ =>
      .bind (sequencer.writeRw_avoids _ _) fun _ =>
      .bind (sequencer.writeRw_avoids _ _) fun _ => sequencer.runTimes_avoids _ _

/-- Waiting some time divides by the numbers that describe the clocks. -/
theorem delayNanoseconds_avoids (measures : sequencer.config.Measures) (nanoseconds : UInt32) :
    Avoids .divideByZero (sequencer.delayNanoseconds nanoseconds) :=
  .bind (.checked ((memoryClocks_divides _ _).2 ⟨measures.frequency, measures.period⟩)) fun _ =>
    sequencer.delayClocks_avoids measures.ratio _

/-- Starting a DDR3 memory divides for its waits. -/
theorem startDdr3_avoids (measures : sequencer.config.Measures) :
    Avoids .divideByZero sequencer.startDdr3 :=
  .bind (sequencer.writeRw_avoids _ _) fun _ =>
  .bind (sequencer.load_avoids _ _ _) fun _ =>
  .bind (sequencer.load_avoids _ _ _) fun _ =>
  .bind (sequencer.run_avoids _) fun _ =>
  .bind (sequencer.writePhy_avoids _ _) fun _ =>
  .bind (sequencer.load_avoids _ _ _) fun _ =>
  .bind (sequencer.load_avoids _ _ _) fun _ =>
  .bind (sequencer.run_avoids _) fun _ =>
  .bind (sequencer.delayClocks_avoids measures.ratio _) fun _ =>
  .bind (sequencer.runAll_avoids _) fun _ => sequencer.delayClocks_avoids measures.ratio _

/-- Starting a DDR2 memory divides for its waits. -/
theorem startDdr2_avoids (measures : sequencer.config.Measures) :
    Avoids .divideByZero sequencer.startDdr2 :=
  .bind (sequencer.load_avoids _ _ _) fun _ =>
  .bind (sequencer.load_avoids _ _ _) fun _ =>
  .bind (sequencer.run_avoids _) fun _ =>
  .bind (sequencer.writePhy_avoids _ _) fun _ =>
  .bind (sequencer.run_avoids _) fun _ =>
  .bind (sequencer.delayNanoseconds_avoids measures _) fun _ =>
  .bind (sequencer.runAll_avoids _) fun _ =>
  .bind (sequencer.delayNanoseconds_avoids measures _) fun _ =>
  .bind (sequencer.run_avoids _) fun _ =>
  .bind (sequencer.delayNanoseconds_avoids measures _) fun _ =>
  .bind (sequencer.runAll_avoids _) fun _ => sequencer.delayClocks_avoids measures.ratio _

/-- Starting an LPDDR2 memory divides for its waits. -/
theorem startLpddr2_avoids (measures : sequencer.config.Measures) :
    Avoids .divideByZero sequencer.startLpddr2 :=
  .bind (sequencer.load_avoids _ _ _) fun _ =>
  .bind (sequencer.run_avoids _) fun _ =>
  .bind (sequencer.delayNanoseconds_avoids measures _) fun _ =>
  .bind (sequencer.writePhy_avoids _ _) fun _ =>
  .bind (sequencer.run_avoids _) fun _ =>
  .bind (sequencer.delayNanoseconds_avoids measures _) fun _ =>
  .bind (sequencer.run_avoids _) fun _ =>
  .bind (sequencer.delayNanoseconds_avoids measures _) fun _ => sequencer.runAll_avoids _

/-- Starting the memory divides for its waits. -/
theorem startMemory_avoids (measures : sequencer.config.Measures) :
    Avoids .divideByZero sequencer.startMemory := by
  rw [startMemory]
  cases sequencer.config.protocol with
  | ddr2 => exact sequencer.startDdr2_avoids measures
  | ddr3 => exact sequencer.startDdr3_avoids measures
  | lpddr2 => exact sequencer.startLpddr2_avoids measures

/-- Reading a virtual group does not divide. -/
theorem readVirtualGroup_avoids (base group shift good index : UInt32) :
    Avoids .divideByZero (sequencer.readVirtualGroup base group shift good index) :=
  .bind (sequencer.writePhy_avoids _ _) fun _ =>
  .bind (sequencer.writeRw_avoids _ _) fun _ =>
  .bind (.checked (bind_avoids (mul32_divides _ _) fun _ => add32_divides _ _)) fun _ =>
  .bind (.checked (add32_divides _ _)) fun _ =>
  .bind (sequencer.writeRw_avoids _ _) fun _ =>
  .bind (.device _) fun _ => .pure _

/-- Reading virtual groups does not divide. -/
theorem readVirtualGroups_avoids (base group shift : UInt32) (count : Nat) (good : UInt32) :
    Avoids .divideByZero (sequencer.readVirtualGroups base group shift count good) := by
  induction count generalizing good with
  | zero => exact .pure good
  | succ count ih => exact .bind (sequencer.readVirtualGroup_avoids _ _ _ _ _) fun _ => ih _

/-- A read test divides by the virtual groups of a strobe. -/
theorem readTest_avoids (groups : sequencer.config.geometry .virtualGroupsPerReadDqs ≠ 0)
    (group : UInt32) (allCorrect allGroups : Bool) :
    Avoids .divideByZero (sequencer.readTest group allCorrect allGroups) := by
  refine .bind (.checked ((div32_divides _ _).2 groups)) fun _ =>
    .bind (sequencer.load_avoids _ _ _) fun _ =>
    .bind (sequencer.load_avoids _ _ _) fun _ =>
    .bind (sequencer.load_avoids _ _ _) fun _ =>
    .bind (.checked ?_) fun _ =>
    .bind (sequencer.load_avoids _ _ _) fun _ =>
    .bind (sequencer.readVirtualGroups_avoids _ _ _ _ _) fun _ =>
    .bind (sequencer.writeRw_avoids _ _) fun _ => .pure _
  split
  · exact bind_avoids (mul32_divides _ _) fun _ => sub32_divides _ _
  · nofun

/-- A read test ends at once where a strobe has no virtual group. -/
theorem readTest_divides (zero : sequencer.config.geometry .virtualGroupsPerReadDqs = 0)
    (group : UInt32) (allCorrect allGroups : Bool) (before : Progress σ) :
    sequencer.readTest group allCorrect allGroups before =
      .error (.fault .divideByZero) before := by
  refine Action.bind_error ?_ _
  rw [Word.div32, if_pos zero]
  rfl

/-- Moving a clock does not divide. -/
theorem stepClock_avoids (clock command : UInt32) :
    Avoids .divideByZero (sequencer.stepClock clock command) := by
  refine .bind (.checked (add32_divides _ _)) fun _ => .bind (.device _) fun _ => ?_
  split
  · exact .bind (.checked (bind_avoids (add32_divides _ _) fun _ => add32_divides _ _)) fun _ =>
      .device _
  · exact .pure ()

/-- Moving a clock several times does not divide. -/
theorem phaseDownBy_avoids (group : UInt32) (steps : Nat) :
    Avoids .divideByZero (sequencer.phaseDownBy group steps) := by
  induction steps with
  | zero => exact .pure ()
  | succ steps ih => exact .bind (sequencer.stepClock_avoids _ _) fun _ => ih

/-- Giving up does not divide. -/
theorem giveUp_avoids (group : UInt32) (substage : Substage) (reason : String) :
    Avoids .divideByZero (sequencer.giveUp group substage reason) :=
  .bind (.device _) fun _ => .bind (.updateStatus _) fun _ => .pure false

section Searches

variable (groups : sequencer.config.geometry .virtualGroupsPerReadDqs ≠ 0) (group : UInt32)

include groups

/-- Trying FIFO positions divides as read tests do. -/
theorem tryPositions_avoids (positions : Nat) :
    Avoids .divideByZero (sequencer.tryPositions group positions) := by
  induction positions with
  | zero => exact .pure false
  | succ positions ih =>
    refine .bind (sequencer.readTest_avoids groups _ _ _) fun (pass, _) => ?_
    cases pass with
    | true => exact .pure true
    | false => exact .bind (sequencer.writePhy_avoids _ _) fun _ => ih

/-- Trying FIFO positions at one phase after the other divides as read tests do. -/
theorem findPosition_avoids (rounds steps : Nat) :
    Avoids .divideByZero (sequencer.findPosition group rounds steps) := by
  induction rounds generalizing steps with
  | zero => exact .pure none
  | succ rounds ih =>
    refine .bind (sequencer.tryPositions_avoids groups group _) fun pass => ?_
    cases pass with
    | true => exact .pure (some steps)
    | false => exact .bind (sequencer.stepClock_avoids _ _) fun _ => ih _

/-- Testing for any bit divides as read tests do. -/
theorem anyBitReads_avoids : Avoids .divideByZero (sequencer.anyBitReads group) :=
  .map (sequencer.readTest_avoids groups _ _ _) _

/-- Stepping down to the lower edge divides as read tests do. -/
theorem findLowerEdge_avoids (rounds : Nat) :
    Avoids .divideByZero (sequencer.findLowerEdge group rounds) := by
  induction rounds with
  | zero => exact .pure false
  | succ rounds ih =>
    refine .bind (sequencer.stepClock_avoids _ _) fun _ =>
      .bind (sequencer.anyBitReads_avoids groups group) fun pass => ?_
    cases pass with
    | true => exact ih
    | false => exact .pure true

/-- Stepping up to the upper edge divides as read tests do. -/
theorem findUpperEdge_avoids (rounds steps : Nat) :
    Avoids .divideByZero (sequencer.findUpperEdge group rounds steps) := by
  induction rounds generalizing steps with
  | zero => exact .pure none
  | succ rounds ih =>
    refine .bind (sequencer.stepClock_avoids _ _) fun _ =>
      .bind (sequencer.anyBitReads_avoids groups group) fun pass => ?_
    cases pass with
    | true => exact ih _
    | false => exact .pure (some (steps + 1))

/-- Centering a group divides as read tests do. -/
theorem findDqsEnablePhase_avoids :
    Avoids .divideByZero (sequencer.findDqsEnablePhase group) := by
  refine .bind (sequencer.findPosition_avoids groups group _ _) fun found => ?_
  cases found with
  | none => exact sequencer.giveUp_avoids _ _ _
  | some steps =>
    refine .bind (.device _) fun _ =>
      .bind (sequencer.findLowerEdge_avoids groups group _) fun lower => ?_
    cases lower with
    | false => exact sequencer.giveUp_avoids _ _ _
    | true =>
      refine .bind (sequencer.findUpperEdge_avoids groups group _ _) fun upper => ?_
      cases upper with
      | none => exact sequencer.giveUp_avoids _ _ _
      | some width =>
        exact .bind (sequencer.phaseDownBy_avoids _ _) fun _ =>
          .bind (.device _) fun _ => .pure true

/-- Centering groups divides as read tests do. -/
theorem calibrateGroups_avoids (groupList : List UInt32) :
    Avoids .divideByZero (sequencer.calibrateGroups groupList) := by
  induction groupList with
  | nil => exact .pure true
  | cons group rest ih =>
    exact .bind (sequencer.findDqsEnablePhase_avoids groups group) fun _ =>
      .bind ih fun _ => .pure _

end Searches

/-- Precharging and activating does not divide. -/
theorem prechargeAndActivate_avoids : Avoids .divideByZero sequencer.prechargeAndActivate :=
  .bind (sequencer.run_avoids _) fun _ =>
  .bind (sequencer.load_avoids _ _ _) fun _ =>
  .bind (sequencer.load_avoids _ _ _) fun _ => sequencer.run_avoids _

/-- Writing the bursts for the read tests does not divide. -/
theorem loadReadPatterns_avoids : Avoids .divideByZero sequencer.loadReadPatterns :=
  .bind (sequencer.load_avoids _ _ _) fun _ =>
  .bind (sequencer.load_avoids _ _ _) fun _ =>
  .bind (sequencer.load_avoids _ _ _) fun _ =>
  .bind (sequencer.load_avoids _ _ _) fun _ => sequencer.run_avoids _

/-- Calibrating a memory that was started divides as read tests do. -/
theorem calibrateMemory_avoids
    (groups : sequencer.config.geometry .virtualGroupsPerReadDqs ≠ 0) :
    Avoids .divideByZero sequencer.calibrateMemory :=
  .bind (.updateStatus _) fun _ =>
  .bind (.bind (.checked (add32_divides _ _)) fun _ => .bind (.device _) fun _ =>
    .bind (.updateStatus _) fun _ => .bind (sequencer.writePhy_avoids _ _) fun _ =>
    sequencer.prechargeAndActivate_avoids) fun _ =>
  .bind sequencer.loadReadPatterns_avoids fun _ =>
  sequencer.calibrateGroups_avoids groups _

/-- A calibration divides for its waits and its read tests. -/
theorem calibrate_avoids (measures : sequencer.config.Measures) :
    Avoids .divideByZero sequencer.calibrate :=
  .bind (.device _) fun _ =>
  .bind (.bind (sequencer.writePhy_avoids _ _) fun _ =>
    .bind (sequencer.writePhy_avoids _ _) fun _ =>
    .bind (sequencer.writePhy_avoids _ _) fun _ => sequencer.writePhy_avoids _ _) fun _ =>
  .bind (.bind (.checked (bit32_divides _)) fun _ => sequencer.writeRw_avoids _ _) fun _ =>
  .bind (sequencer.startMemory_avoids measures) fun _ =>
  .bind (sequencer.calibrateMemory_avoids measures.virtualGroups) fun _ =>
  .bind sequencer.prechargeAndActivate_avoids fun _ =>
  .bind (sequencer.writePhy_avoids _ _) fun _ =>
  .bind (sequencer.runAll_avoids _) fun _ =>
  .bind (sequencer.writePhy_avoids _ _) fun _ =>
  .bind (sequencer.writePhy_avoids _ _) fun _ => .pure _

end Sequencer

/-- What is done with a sequencer of this configuration never divides by zero, whatever the bus
answers: a calibration, a read test, waits in nanoseconds and in clocks. -/
structure Config.RunsSafely (config : Config) : Prop where
  calibrates : ∀ {σ ε : Type} (sequencer : Sequencer σ ε), sequencer.config = config →
    sequencer.calibrate.Avoids .divideByZero
  tests : ∀ {σ ε : Type} (sequencer : Sequencer σ ε), sequencer.config = config →
    ∀ group allCorrect allGroups,
      (sequencer.readTest group allCorrect allGroups).Avoids .divideByZero
  waits : ∀ nanoseconds, memoryClocks nanoseconds config.geometry ≠ .error .divideByZero
  counts : ∀ clocks, delayCounters clocks (config.geometry .afiRateRatio) ≠ .error .divideByZero

/-- Making a sequencer does not divide by zero either. -/
structure Config.NeverDividesByZero (config : Config) : Prop extends config.RunsSafely where
  creates : ∀ {σ ε : Type} (bus : Bus σ ε) (log : Logger σ ε),
    Sequencer.create bus log config ≠ .error .divideByZero

/-- Making a sequencer divides as its masks do. -/
theorem create_divides (bus : Bus σ ε) (log : Logger σ ε) (config : Config) :
    Sequencer.create bus log config ≠ .error .divideByZero ↔
      Masks.ofGeometry config.geometry ≠ .error .divideByZero := by
  rw [Sequencer.create]
  cases Masks.ofGeometry config.geometry with
  | ok masks => exact iff_of_true nofun nofun
  | error fault => exact not_congr ⟨fun same => congrArg _ (Except.error.inj same),
      fun same => congrArg _ (Except.error.inj same)⟩

/-- A bus of which nothing is asked. -/
def idleBus : Bus Unit Empty := ⟨fun _ => pure 0, fun _ _ => pure ()⟩

/-- What is done with a sequencer never divides by zero exactly where the numbers that it divides by
are not zero. -/
theorem runsSafely_iff (config : Config) : config.RunsSafely ↔ config.Measures := by
  constructor
  · intro safe
    obtain ⟨frequency, period⟩ := (memoryClocks_divides 0 config.geometry).1 (safe.waits 0)
    refine ⟨fun zero => ?_, (delayCounters_divides 0 _).1 (safe.counts 0), frequency, period⟩
    let sequencer : Sequencer Unit Empty := ⟨idleBus, config, ⟨0, 0, 0, 0, 0⟩, fun _ => pure ()⟩
    exact safe.tests sequencer rfl 0 true true ⟨.initial, ()⟩ _
      (sequencer.readTest_divides zero 0 true true _)
  · intro measures
    constructor
    · rintro _ _ sequencer rfl
      exact sequencer.calibrate_avoids measures
    · rintro _ _ sequencer rfl group allCorrect allGroups
      exact sequencer.readTest_avoids measures.virtualGroups group allCorrect allGroups
    · exact fun _ => (memoryClocks_divides _ _).2 ⟨measures.frequency, measures.period⟩
    · exact fun _ => (delayCounters_divides _ _).2 measures.ratio

/-- Nothing divides by zero exactly where no number of the configuration that is divided by is zero,
nor the period of the controller's clock. -/
theorem neverDividesByZero_iff (config : Config) : config.NeverDividesByZero ↔ config.Divides := by
  constructor
  · intro safe
    have created := (create_divides idleBus (fun _ => pure ()) config).1 (safe.creates _ _)
    have measures := (runsSafely_iff config).1 safe.toRunsSafely
    exact ⟨measures.virtualGroups, ((masks_divide _).1 created).2, measures.ratio,
      measures.frequency, measures.period⟩
  · rintro ⟨groups, masks, ratio, frequency, period⟩
    refine ⟨(runsSafely_iff config).2 ⟨groups, ratio, frequency, period⟩, fun bus log => ?_⟩
    exact (create_divides bus log config).2 ((masks_divide _).2 ⟨groups, masks⟩)

end Bringup.Calibration
