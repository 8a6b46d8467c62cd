import Mathlib.Tactic.Ring
import Bringup.Proofs.Calibration.IdleLoops
/-!
# How long a wait in nanoseconds lasts

A wait in nanoseconds is counted in whole periods of the controller's clock, and the period is taken
in whole picoseconds. The two roundings pull in opposite directions: a period that is taken too
short makes more of them fit, and the last one that does not fit is dropped. What the second takes
away is made good by the first in some waits and not in others; the wait is never short by a whole
period (`memoryClocks_lasts_iff`).
-/

namespace Bringup.Calibration

namespace Geometry

/-- So many memory clocks last at least so many nanoseconds. There are as many of them in a
microsecond as the frequency of the controller's clock times the ratio says. -/
def Lasts (geometry : Geometry) (clocks : Nat) (nanoseconds : UInt32) : Prop :=
  nanoseconds.toNat * ((geometry .afiClockFrequency).toNat * (geometry .afiRateRatio).toNat) ≤
    clocks * 1000

instance (geometry : Geometry) (clocks : Nat) (nanoseconds : UInt32) :
    Decidable (geometry.Lasts clocks nanoseconds) :=
  inferInstanceAs (Decidable (_ ≤ _))

/-- The controller's clock runs, and there are memory clocks in it. -/
structure Runs (geometry : Geometry) : Prop extends geometry.Ticks where
  ratio : geometry .afiRateRatio ≠ 0

variable {geometry : Geometry}

namespace Runs

/-- The memory clocks of so many periods last as long as the periods do. -/
theorem lasts_iff (runs : geometry.Runs) (count : Nat) (nanoseconds : UInt32) :
    geometry.Lasts (count * (geometry .afiRateRatio).toNat) nanoseconds ↔
      nanoseconds.toNat * (geometry .afiClockFrequency).toNat ≤ count * 1000 := by
  have time : nanoseconds.toNat *
      ((geometry .afiClockFrequency).toNat * (geometry .afiRateRatio).toNat) =
      nanoseconds.toNat * (geometry .afiClockFrequency).toNat *
        (geometry .afiRateRatio).toNat := by ring
  have clocks : count * (geometry .afiRateRatio).toNat * 1000 =
      count * 1000 * (geometry .afiRateRatio).toNat := by ring
  rw [Lasts, time, clocks]
  exact Nat.mul_le_mul_right_iff (toNat_pos runs.ratio)

/-- The periods that fit last long enough when what is left of the wait is made good by what the
period was taken too short. -/
theorem periods_last_iff (runs : geometry.Runs) (nanoseconds : UInt32) :
    geometry.Lasts (geometry.periods nanoseconds * (geometry .afiRateRatio).toNat) nanoseconds ↔
      (geometry .afiClockFrequency).toNat * (1000 * nanoseconds.toNat % geometry.period) ≤
        geometry.periods nanoseconds * (1000000 % (geometry .afiClockFrequency).toNat) := by
  have divided : geometry.period * geometry.periods nanoseconds +
      1000 * nanoseconds.toNat % geometry.period = 1000 * nanoseconds.toNat :=
    Nat.div_add_mod _ _
  have second : (geometry .afiClockFrequency).toNat * geometry.period +
      1000000 % (geometry .afiClockFrequency).toNat = 1000000 := Nat.div_add_mod _ _
  rw [runs.lasts_iff]
  -- Asked for and waited have the product of the whole periods in common; the rest is compared.
  generalize (geometry .afiClockFrequency).toNat = frequency at *
  generalize geometry.periods nanoseconds = count at *
  generalize 1000 * nanoseconds.toNat % geometry.period = left at *
  generalize 1000000 % frequency = short at *
  have asked : 1000 * (nanoseconds.toNat * frequency) =
      count * (frequency * geometry.period) + frequency * left := by
    calc
      1000 * (nanoseconds.toNat * frequency) = 1000 * nanoseconds.toNat * frequency := by ring
      _ = (geometry.period * count + left) * frequency := by rw [divided]
      _ = count * (frequency * geometry.period) + frequency * left := by ring
  have waited : 1000 * (count * 1000) =
      count * (frequency * geometry.period) + count * short := by
    calc
      1000 * (count * 1000) = count * 1000000 := by ring
      _ = count * (frequency * geometry.period + short) := by rw [second]
      _ = count * (frequency * geometry.period) + count * short := by ring
  omega

/-- One more period is always enough. -/
theorem next_period_lasts (runs : geometry.Runs) (nanoseconds : UInt32) :
    geometry.Lasts ((geometry.periods nanoseconds + 1) * (geometry .afiRateRatio).toNat)
      nanoseconds := by
  rw [runs.lasts_iff]
  have fits : 1000 * nanoseconds.toNat < geometry.period * (geometry.periods nanoseconds + 1) :=
    Nat.lt_mul_div_succ _ runs.period_pos
  have second : geometry.period * (geometry .afiClockFrequency).toNat ≤ 1000000 :=
    Nat.div_mul_le_self _ _
  have scaled : 1000 * (nanoseconds.toNat * (geometry .afiClockFrequency).toNat) ≤
      1000 * ((geometry.periods nanoseconds + 1) * 1000) := by
    calc
      1000 * (nanoseconds.toNat * (geometry .afiClockFrequency).toNat) =
          1000 * nanoseconds.toNat * (geometry .afiClockFrequency).toNat := by ring
      _ ≤ geometry.period * (geometry.periods nanoseconds + 1) *
          (geometry .afiClockFrequency).toNat := Nat.mul_le_mul_right _ fits.le
      _ = (geometry.periods nanoseconds + 1) *
          (geometry.period * (geometry .afiClockFrequency).toNat) := by ring
      _ ≤ (geometry.periods nanoseconds + 1) * 1000000 := Nat.mul_le_mul_left _ second
      _ = 1000 * ((geometry.periods nanoseconds + 1) * 1000) := by ring
  omega

/-- The memory clocks in a wait, where they can be computed and fit a word, are those of the periods
that fit. -/
theorem toNat_memoryClocks (runs : geometry.Runs) {nanoseconds clocks : UInt32}
    (computed : memoryClocks nanoseconds geometry = .ok clocks)
    (unsaturated : clocks < 0xffffffff) :
    clocks.toNat = geometry.periods nanoseconds * (geometry .afiRateRatio).toNat := by
  have below : clocks.toNat < 0xffffffff := UInt32.lt_iff_toNat_lt.1 unsaturated
  rw [runs.memoryClocks_eq] at computed
  split at computed
  · have number := Except.ok.inj computed
    rw [← number, UInt32.toNat_ofNat_of_lt' (by rw [UInt32.size]; omega)] at below ⊢
    omega
  · cases computed

/-- The idle loops for the memory clocks of some periods take these periods. -/
theorem idles_cover (runs : geometry.Runs) {clocks : UInt32} {count : Nat}
    (number : clocks.toNat = count * (geometry .afiRateRatio).toNat) :
    ∃ counters, delayCounters clocks (geometry .afiRateRatio) = .ok counters ∧
      counters.idleRuns.Covers count := by
  obtain ⟨covered, computed, quotient⟩ := controllerClocks_eq clocks runs.ratio
  have whole : covered.toNat = count := by
    rw [quotient, number, Nat.mul_comm]
    exact smul_ceilDiv (toNat_pos runs.ratio) count
  have counts := DelayCounters.ofControllerClocks_counts covered
  rw [whole] at counts
  exact ⟨.ofControllerClocks covered, delayCounters_eq computed, counts.covers⟩

end Runs

end Geometry

/-- The memory clocks in a wait, as long as they fit a word, last long enough exactly when what is
left over from the whole periods is made good by what the period was taken too short; those of one
more period always do. The idle loops for them take the whole periods. -/
theorem memoryClocks_lasts_iff {geometry : Geometry} (runs : geometry.Runs)
    {nanoseconds clocks : UInt32} (computed : memoryClocks nanoseconds geometry = .ok clocks)
    (unsaturated : clocks < 0xffffffff) :
    (geometry.Lasts clocks.toNat nanoseconds ↔
      (geometry .afiClockFrequency).toNat * (1000 * nanoseconds.toNat % geometry.period) ≤
        geometry.periods nanoseconds * (1000000 % (geometry .afiClockFrequency).toNat)) ∧
    geometry.Lasts (clocks.toNat + (geometry .afiRateRatio).toNat) nanoseconds ∧
    ∃ counters, delayCounters clocks (geometry .afiRateRatio) = .ok counters ∧
      counters.idleRuns.Covers (geometry.periods nanoseconds) := by
  have count := runs.toNat_memoryClocks computed unsaturated
  have lasts := runs.next_period_lasts nanoseconds
  have idles := runs.idles_cover count
  rw [Nat.add_one_mul] at lasts
  rw [count]
  exact ⟨runs.periods_last_iff nanoseconds, lasts, idles⟩

/-- In the sample geometry the period of 6667 picoseconds is taken as 6666. The sixty periods of 400
nanoseconds make good, to the picosecond, what is left of them. -/
theorem sample_lasts :
    Geometry.sample.Runs ∧ memoryClocks 400 .sample = .ok 120 ∧
      Geometry.sample.Lasts 120 400 := by
  have runs : Geometry.sample.Runs := ⟨⟨by decide, by decide⟩, by decide⟩
  have computed : memoryClocks 400 .sample = .ok 120 := by decide
  have enough := (memoryClocks_lasts_iff runs computed (by decide)).1
  exact ⟨runs, computed, enough.2 (by decide)⟩

/-- The sample geometry with a controller's clock of 133 megahertz. -/
def slowGeometry : Geometry
  | .afiClockFrequency => 133
  | dimension => Geometry.sample dimension

/-- At 133 megahertz the wait of 400 nanoseconds with which a DDR2 memory starts is short: the 106
memory clocks do not last that long, nor do the 53 controller clocks of the idle loop. -/
theorem slowGeometry_short :
    slowGeometry.Runs ∧ memoryClocks 400 slowGeometry = .ok 106 ∧
      ¬ slowGeometry.Lasts 106 400 ∧
      delayCounters 106 (slowGeometry .afiRateRatio) = .ok ⟨52, 0, 0⟩ ∧
      (DelayCounters.idleRuns ⟨52, 0, 0⟩).clocks * 1000 <
        400 * (slowGeometry .afiClockFrequency).toNat :=
  ⟨⟨⟨by decide, by decide⟩, by decide⟩, by decide, by decide, by decide, by decide⟩

end Bringup.Calibration
