import Bringup.Board.Breather
import Bringup.Proofs.Zigzag
import Bringup.Word.LittleEndian
/-!
# A breathing LED never stops

The duty stays the same for a period of 256 ticks, and goes back and forth between zero and the
highest duty from one period to the next. One tick takes a breather from where some ticks have led
it to where one more leads it (`Breather.tick_after`), whether or not the phase has wrapped in
between: a wrapped word has the low byte of the number that it was counted up to. In each period the
lit ticks come first, and there are as many of them as the duty says (`Breather.countP_period`).
-/

namespace Bringup.Breather

/-- A duty that is not zero falls by one, and turns around at zero. -/
theorem moveDuty_falling {breather : Breather} (falling : breather.falling = true)
    (positive : 0 < breather.duty.toNat) : ∃ duty, breather.moveDuty =
      .ok { breather with duty, falling := decide (duty.toNat ≠ 0) } ∧
      duty.toNat + 1 = breather.duty.toNat := by
  have least : 1 ≤ breather.duty := UInt32.le_iff_toNat_le.2 positive
  have lowered : (breather.duty - 1).toNat = breather.duty.toNat - 1 :=
    UInt32.toNat_sub_of_le _ _ least
  have turned : (breather.duty - 1 != 0) = decide ((breather.duty - 1).toNat ≠ 0) := by
    rw [Bool.eq_iff_iff, bne_iff_ne, decide_eq_true_eq, Ne, ← UInt32.toNat_inj]
    rfl
  refine ⟨breather.duty - 1, ?_, by omega⟩
  rw [moveDuty, if_pos falling, Word.sub32, if_pos least, ← turned]
  rfl

/-- A duty below the highest one rises by one, and turns around there. -/
theorem moveDuty_rising {breather : Breather} (rising : breather.falling = false)
    (room : breather.duty.toNat < 256) : ∃ duty, breather.moveDuty =
      .ok { breather with duty, falling := decide (duty.toNat = 256) } ∧
      duty.toNat = breather.duty.toNat + 1 := by
  have held : breather.duty.toNat + (1 : UInt32).toNat < UInt32.size :=
    Nat.lt_trans (Nat.add_lt_add_right room 1) (by decide)
  have raised : (breather.duty + 1).toNat = breather.duty.toNat + 1 := by
    rw [UInt32.toNat_add]
    exact Nat.mod_eq_of_lt held
  have turned : (breather.duty + 1 == fullDuty) = decide ((breather.duty + 1).toNat = 256) := by
    rw [Bool.eq_iff_iff, beq_iff_eq, decide_eq_true_eq, ← UInt32.toNat_inj]
    rfl
  have up : ¬breather.falling = true := by
    rw [rising]
    exact Bool.false_ne_true
  refine ⟨breather.duty + 1, ?_, raised⟩
  rw [moveDuty, if_neg up, Word.add32, if_pos held, ← turned]
  rfl

/-- A breather in a period, with this phase. A round of its duty takes 512 periods, and the duty
falls in the second half of them. -/
def inPeriod (period : Nat) (phase : UInt32) : Breather where
  phase
  duty := .ofNat (zigzag 256 period)
  falling := 256 ≤ period % 512

/-- A breather after so many ticks. -/
def after (count : Nat) : Breather := inPeriod (count / 256) (.ofNat count)

/-- Whether the LED is lit during a tick. -/
def litAt (tick : Nat) : Bool := tick % 256 < zigzag 256 (tick / 256)

/-- No duty is too large for its word. -/
theorem toNat_duty (period : Nat) (phase : UInt32) :
    (inPeriod period phase).duty.toNat = zigzag 256 period := by
  have bound := zigzag_le 256 period
  exact UInt32.toNat_ofNat_of_lt (Nat.lt_of_le_of_lt bound (by decide))

/-- A breather with the duty and the direction of a period is in that period. -/
theorem eq_inPeriod {period : Nat} {phase duty : UInt32} {falling : Bool}
    (height : duty.toNat = zigzag 256 period) (side : falling = true ↔ 256 ≤ period % 512) :
    (⟨phase, duty, falling⟩ : Breather) = inPeriod period phase := by
  have same : duty = .ofNat (zigzag 256 period) := by rw [← height, UInt32.ofNat_toNat]
  have direction : falling = decide (256 ≤ period % 512) :=
    Bool.eq_iff_iff.2 (side.trans decide_eq_true_iff.symm)
  rw [inPeriod, same, direction]

/-- The end of a period moves the duty on to that of the next one. It is never lowered below zero
nor raised past the highest duty, because it turns around at both. -/
theorem moveDuty_inPeriod (period : Nat) (phase : UInt32) :
    (inPeriod period phase).moveDuty = .ok (inPeriod (period + 1) phase) := by
  have now : zigzag 256 period = min (period % 512) (512 - period % 512) :=
    zigzag_of_room (by decide) period
  have next : zigzag 256 (period + 1) = min ((period + 1) % 512) (512 - (period + 1) % 512) :=
    zigzag_of_room (by decide) (period + 1)
  have duty := toNat_duty period phase
  by_cases late : 256 ≤ period % 512
  · have falling : (inPeriod period phase).falling = true := decide_eq_true late
    have positive : 0 < (inPeriod period phase).duty.toNat := by omega
    obtain ⟨lower, moved, height⟩ := moveDuty_falling falling positive
    have lowered : lower.toNat = zigzag 256 (period + 1) := by omega
    have turned : lower.toNat ≠ 0 ↔ 256 ≤ (period + 1) % 512 := by omega
    rw [moved, ← eq_inPeriod lowered (decide_eq_true_iff.trans turned)]
    rfl
  · have rising : (inPeriod period phase).falling = false := decide_eq_false late
    have room : (inPeriod period phase).duty.toNat < 256 := by omega
    obtain ⟨higher, moved, height⟩ := moveDuty_rising rising room
    have raised : higher.toNat = zigzag 256 (period + 1) := by omega
    have turned : higher.toNat = 256 ↔ 256 ≤ (period + 1) % 512 := by omega
    rw [moved, ← eq_inPeriod raised (decide_eq_true_iff.trans turned)]
    rfl

/-- The low byte of a counted word is that of the number, also when the word has wrapped. -/
theorem toNat_lowByte (count : Nat) : (UInt32.ofNat count &&& 0xff).toNat = count % 256 := by
  have wrapped : (UInt32.ofNat count).toNat = count % UInt32.size := UInt32.toNat_ofNat'
  rw [LittleEndian.toNat_and_byte, wrapped]
  exact Nat.mod_mod_of_dvd count (by decide)

/-- One tick leads from where so many ticks have led to where one more leads. -/
theorem tick_after (count : Nat) : (after count).tick = .ok (litAt count, after (count + 1)) := by
  have low := toNat_lowByte count
  have duty := toNat_duty (count / 256) (.ofNat count)
  have lit : decide ((after count).phase &&& 0xff < (after count).duty) = litAt count := by
    rw [litAt, decide_eq_decide, UInt32.lt_iff_toNat_lt, ← low, ← duty]
    rfl
  have phase : (after count).phase + 1 = .ofNat (count + 1) := (UInt32.ofNat_add count 1).symm
  have ended : UInt32.ofNat (count + 1) &&& 0xff = 0 ↔ (count + 1) % 256 = 0 := by
    rw [← UInt32.toNat_inj, toNat_lowByte]
    rfl
  rw [tick, lit, phase]
  by_cases last : (count + 1) % 256 = 0
  · have period : count / 256 + 1 = (count + 1) / 256 := by omega
    have moved := moveDuty_inPeriod (count / 256) (.ofNat (count + 1))
    rw [period] at moved
    simp only [ended, last, if_true]
    exact congrArg (· >>= fun next => pure (litAt count, next)) moved
  · have period : count / 256 = (count + 1) / 256 := by omega
    simp only [ended, last, if_false]
    rw [after, after, inPeriod, period]
    rfl

/-- Adding a tick to a run counts it if it is lit. -/
theorem Breath.lit_add (breath : Breath) (index : Nat) (lit : Bool) :
    (breath.add index lit).lit = breath.lit + if lit then 1 else 0 := by
  cases lit <;> rfl

/-- A run of ticks leads to where they lead, and counts those that are lit. -/
theorem run_after (before count index : Nat) (breath : Breath) :
    ∃ shown, run count index breath (after before) = .ok (shown, after (before + count)) ∧
      shown.lit = breath.lit + (List.range' before count).countP litAt := by
  induction count generalizing before index breath with
  | zero => exact ⟨breath, rfl, rfl⟩
  | succ count ih =>
    obtain ⟨shown, ran, lit⟩ := ih (before + 1) (index + 1) (breath.add index (litAt before))
    refine ⟨shown, ?_, ?_⟩
    · rw [run, tick_after]
      dsimp only
      rw [ran, Nat.add_right_comm, Nat.add_assoc]
    · rw [lit, Breath.lit_add, List.range'_succ, List.countP_cons]
      omega

/-- As many ticks of a period are lit as its duty says. -/
theorem countP_period (period : Nat) :
    (List.range' (256 * period) 256).countP litAt = zigzag 256 period := by
  have bound := zigzag_le 256 period
  have place {tick : Nat} (begun : 256 * period ≤ tick) (within : tick < 256 * period + 256) :
      litAt tick = decide (tick < 256 * period + zigzag 256 period) := by
    have same : tick / 256 = period := by omega
    rw [litAt, same, decide_eq_decide]
    omega
  -- The lit ticks come first, so the period is cut behind the last of them.
  have split : List.range' (256 * period) 256 =
      List.range' (256 * period) (zigzag 256 period) ++
        List.range' (256 * period + zigzag 256 period) (256 - zigzag 256 period) := by
    rw [List.range'_append_1, Nat.add_sub_cancel' bound]
  have lit : (List.range' (256 * period) (zigzag 256 period)).countP litAt =
      (List.range' (256 * period) (zigzag 256 period)).length := by
    rw [List.countP_eq_length]
    intro tick among
    rw [List.mem_range'_1] at among
    rw [place among.1 (by omega), decide_eq_true among.2]
  have dark : (List.range' (256 * period + zigzag 256 period)
      (256 - zigzag 256 period)).countP litAt = 0 := by
    rw [List.countP_eq_zero]
    intro tick among
    rw [List.mem_range'_1] at among
    rw [place (by omega) (by omega), decide_eq_true_eq]
    omega
  rw [split, List.countP_append, lit, dark, List.length_range', Nat.add_zero]

/-- Before its first tick a breather is dark and about to rise. -/
theorem after_zero : after 0 = initial := rfl

/-- A breathing LED breathes for ever. However many ticks a breather takes from the start, every one
of them can be taken, and its duty has then gone back and forth once for every 512 periods of 256
ticks. The next tick is lit exactly if the period has come less far than the duty, and a whole
period that begins here is lit for as many ticks as the duty says. The phase counts the ticks and
wraps, and that changes none of this. -/
theorem breathes_for_ever (count : Nat) : ∃ shown breather,
    run count 0 {} initial = .ok (shown, breather) ∧ breather.phase.toNat = count % UInt32.size ∧
      breather.duty.toNat = zigzag 256 (count / 256) ∧
      (∃ next, breather.tick = .ok (decide (count % 256 < breather.duty.toNat), next)) ∧
      (256 ∣ count → ∃ period next, run 256 0 {} breather = .ok (period, next) ∧
        period.lit = breather.duty.toNat) := by
  obtain ⟨shown, ran, -⟩ := run_after 0 count 0 {}
  rw [after_zero, Nat.zero_add] at ran
  have duty : (after count).duty.toNat = zigzag 256 (count / 256) :=
    toNat_duty (count / 256) (.ofNat count)
  refine ⟨shown, after count, ran, UInt32.toNat_ofNat', duty, ?_, fun begins => ?_⟩
  · have ticked := tick_after count
    rw [litAt, ← duty] at ticked
    exact ⟨after (count + 1), ticked⟩
  · obtain ⟨period, ticked, lit⟩ := run_after count 256 0 {}
    have start : 256 * (count / 256) = count := Nat.mul_div_cancel' begins
    have number := countP_period (count / 256)
    rw [start] at number
    refine ⟨period, after (count + 256), ticked, ?_⟩
    rw [lit, number, duty]
    exact Nat.zero_add _

/-- In the period that begins 76800 ticks after the phase has wrapped, the LED is lit for 212
ticks. -/
theorem wrappedPhase_breathes : ∃ shown breather period next,
    run (UInt32.size + 76800) 0 {} initial = .ok (shown, breather) ∧
      breather.phase.toNat = 76800 ∧ 256 ∣ UInt32.size + 76800 ∧ breather.duty.toNat = 212 ∧
      run 256 0 {} breather = .ok (period, next) ∧ period.lit = 212 := by
  obtain ⟨shown, breather, ran, phase, duty, -, lit⟩ := breathes_for_ever (UInt32.size + 76800)
  have begins : 256 ∣ UInt32.size + 76800 := by decide
  obtain ⟨period, next, ticked, lit⟩ := lit begins
  have height : zigzag 256 ((UInt32.size + 76800) / 256) = 212 := by decide
  rw [height] at duty
  rw [duty] at lit
  exact ⟨shown, breather, period, next, ran, phase, begins, duty, ticked, lit⟩

end Bringup.Breather
