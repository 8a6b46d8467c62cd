import Mathlib.Algebra.Order.Floor.Div
import Bringup.Calibration.Delay
/-!
# Counting the clocks of a wait

What the counts of a wait come to as numbers. Nanoseconds are counted in whole periods of the
controller's clock, rounded down, and these in memory clocks (`Geometry.Ticks.memoryClocks_eq`).
Memory clocks are counted in the controller's clocks, rounded up (`controllerClocks_eq`).
-/

namespace Bringup.Calibration

/-- A word that is not zero is a positive number. -/
theorem toNat_pos {word : UInt32} (nonzero : word ≠ 0) : 0 < word.toNat :=
  Nat.pos_of_ne_zero fun zero => nonzero (UInt32.toNat_inj.1 zero)

/-- A quotient rounded up is the least that is not too small. -/
theorem eq_ceilDiv {number ratio quotient : Nat} (positive : 0 < ratio)
    (least : ratio * quotient < number + ratio) (enough : number ≤ ratio * quotient) :
    quotient = number ⌈/⌉ ratio := by
  rw [Nat.ceilDiv_eq_add_pred_div, eq_comm, Nat.div_eq_iff positive, Nat.mul_comm quotient]
  omega

/-- The controller clocks that cover some memory clocks are their quotient, rounded up. -/
theorem controllerClocks_eq (clocks : UInt32) {ratio : UInt32} (nonzero : ratio ≠ 0) :
    ∃ covered, controllerClocks clocks ratio = .ok covered ∧
      covered.toNat = clocks.toNat ⌈/⌉ ratio.toNat := by
  have positive := toNat_pos nonzero
  have divided := Nat.div_add_mod clocks.toNat ratio.toNat
  have rest : clocks % ratio = 0 ↔ clocks.toNat % ratio.toNat = 0 := by
    rw [← UInt32.toNat_inj, UInt32.toNat_mod]
    rfl
  refine ⟨if clocks % ratio = 0 then clocks / ratio else clocks / ratio + 1, ?_, ?_⟩
  · rw [controllerClocks, Word.div32, if_neg nonzero]
    rfl
  · by_cases divides : clocks.toNat % ratio.toNat = 0
    · rw [if_pos (rest.2 divides), UInt32.toNat_div]
      exact eq_ceilDiv positive (by omega) (by omega)
    · -- Only a ratio of two or more leaves a rest, and then the next quotient is a word, too.
      have two : 2 ≤ ratio.toNat := by
        by_contra one
        have single : ratio.toNat = 1 := by omega
        rw [single, Nat.mod_one] at divides
        exact divides rfl
      have half : clocks.toNat / ratio.toNat ≤ clocks.toNat / 2 :=
        Nat.div_le_div_left two (by decide)
      have bound := clocks.toNat_lt
      have number : (clocks / ratio + 1).toNat = clocks.toNat / ratio.toNat + 1 := by
        have one : (1 : UInt32).toNat = 1 := rfl
        rw [UInt32.toNat_add, UInt32.toNat_div, one]
        exact Nat.mod_eq_of_lt (by omega)
      have below := Nat.mod_lt clocks.toNat positive
      have product := Nat.mul_add_one ratio.toNat (clocks.toNat / ratio.toNat)
      rw [if_neg fun zero => divides (rest.1 zero), number]
      exact eq_ceilDiv positive (by omega) (by omega)

/-- The counters for some memory clocks are those for the controller clocks that cover them. -/
theorem delayCounters_eq {clocks ratio covered : UInt32}
    (computed : controllerClocks clocks ratio = .ok covered) :
    delayCounters clocks ratio = .ok (.ofControllerClocks covered) := by
  rw [delayCounters, computed]
  rfl

/-- The period of a clock in whole picoseconds is not zero where the clock is slow enough. -/
theorem period_ne_zero {frequency : UInt32} (nonzero : frequency ≠ 0) :
    1000000 / frequency.toUInt64 ≠ 0 ↔ frequency.toNat ≤ 1000000 := by
  have positive := toNat_pos nonzero
  have period : (1000000 / frequency.toUInt64).toNat = 1000000 / frequency.toNat := by
    rw [UInt64.toNat_div, UInt32.toNat_toUInt64]
    rfl
  have zero : 1000000 / frequency.toUInt64 = 0 ↔ 1000000 / frequency.toNat = 0 := by
    rw [← UInt64.toNat_inj, period]
    rfl
  rw [Ne, zero, Nat.div_eq_zero_iff]
  omega

/-- A number that is saturated is cut at the largest word. -/
theorem toNat_saturate32 (number : UInt64) :
    (Word.saturate32 number).toNat = min number.toNat 0xffffffff := by
  rw [Word.saturate32, UInt32.size]
  split
  · next small =>
    have kept : number.toNat % 2 ^ 32 = number.toNat := Nat.mod_eq_of_lt small
    rw [UInt64.toNat_toUInt32, kept]
    omega
  · next large =>
    have most : (0xffffffff : UInt32).toNat = 0xffffffff := rfl
    omega

namespace Geometry

/-- The period of the controller's clock in whole picoseconds. -/
def period (geometry : Geometry) : Nat := 1000000 / (geometry .afiClockFrequency).toNat

/-- How many of these periods fit in so many nanoseconds. -/
def periods (geometry : Geometry) (nanoseconds : UInt32) : Nat :=
  1000 * nanoseconds.toNat / geometry.period

/-- The controller's clock runs, slowly enough for its period to be a picosecond or more. -/
structure Ticks (geometry : Geometry) : Prop where
  frequency : geometry .afiClockFrequency ≠ 0
  slow : (geometry .afiClockFrequency).toNat ≤ 1000000

namespace Ticks

variable {geometry : Geometry} (ticks : geometry.Ticks)

include ticks

/-- The period is not zero. -/
theorem period_pos : 0 < geometry.period :=
  (Nat.one_le_div_iff (toNat_pos ticks.frequency)).2 ticks.slow

/-- The memory clocks in a wait are those of the periods that fit, at most what a word holds, unless
the count leaves 64 bits before it is cut. -/
theorem memoryClocks_eq (nanoseconds : UInt32) : memoryClocks nanoseconds geometry =
    if geometry.periods nanoseconds * (geometry .afiRateRatio).toNat < UInt64.size then
      .ok (.ofNat (min (geometry.periods nanoseconds * (geometry .afiRateRatio).toNat) 0xffffffff))
    else .error .multiplyOverflow := by
  have period : (1000000 / (geometry .afiClockFrequency).toUInt64).toNat = geometry.period := by
    rw [UInt64.toNat_div, UInt32.toNat_toUInt64]
    rfl
  have nonzero := (period_ne_zero ticks.frequency).2 ticks.slow
  have frequency : (geometry .afiClockFrequency).toUInt64 ≠ 0 := by
    intro zero
    apply nonzero
    rw [zero]
    rfl
  have scaled : (1000 * nanoseconds.toUInt64).toNat = 1000 * nanoseconds.toNat := by
    have bound := nanoseconds.toNat_lt
    have thousand : (1000 : UInt64).toNat = 1000 := rfl
    rw [UInt64.toNat_mul, UInt32.toNat_toUInt64, thousand]
    exact Nat.mod_eq_of_lt (by omega)
  have count : (1000 * nanoseconds.toUInt64 /
      (1000000 / (geometry .afiClockFrequency).toUInt64)).toNat =
      geometry.periods nanoseconds := by
    rw [UInt64.toNat_div, scaled, period, periods]
  rw [memoryClocks, Word.div64, if_neg frequency]
  show (Word.div64 _ _ >>= _) = _
  rw [Word.div64, if_neg nonzero]
  show (Word.mul64 _ _ >>= _) = _
  rw [Word.mul64, count, UInt32.toNat_toUInt64]
  by_cases fits : geometry.periods nanoseconds * (geometry .afiRateRatio).toNat < UInt64.size
  · have product : (1000 * nanoseconds.toUInt64 /
        (1000000 / (geometry .afiClockFrequency).toUInt64) *
        (geometry .afiRateRatio).toUInt64).toNat =
        geometry.periods nanoseconds * (geometry .afiRateRatio).toNat := by
      rw [UInt64.toNat_mul, count, UInt32.toNat_toUInt64]
      exact Nat.mod_eq_of_lt fits
    rw [if_pos fits, if_pos fits]
    apply congrArg Except.ok
    apply UInt32.toNat_inj.1
    rw [toNat_saturate32, product, UInt32.toNat_ofNat_of_lt']
    rw [UInt32.size]
    omega
  · rw [if_neg fits, if_neg fits]
    rfl

end Ticks

end Geometry

end Bringup.Calibration
