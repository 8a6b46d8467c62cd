import Bringup.Calibration.Sample
import Bringup.Proofs.Calibration.ClockCounts
/-!
# Where the count of memory clocks saturates

A count of memory clocks that a word does not hold is cut at the largest word. But it is formed in
64 bits before it is cut, and one that leaves these is refused (`memoryClocks_saturates_iff`). A
controller's clock of a gigahertz never leads there, nor does a ratio of 4294967, and both bounds
are sharp: what is beyond them leaves 64 bits in the longest wait (`longest_wait_overflows`).
-/

namespace Bringup.Calibration

/-- The largest word, as a number of nanoseconds or as a ratio. -/
def largestWord : UInt32 := 0xffffffff

/-- The sample geometry with another controller's clock. -/
def clockedGeometry (frequency ratio : UInt32) : Geometry
  | .afiClockFrequency => frequency
  | .afiRateRatio => ratio
  | dimension => Geometry.sample dimension

/-- A clock with a period of one picosecond runs. -/
theorem fastest_ticks (ratio : UInt32) : (clockedGeometry 1000000 ratio).Ticks where
  frequency := by
    rw [clockedGeometry]
    decide
  slow := by
    rw [clockedGeometry]
    decide

namespace Geometry

/-- The memory clocks in so many nanoseconds, at most what a word holds. -/
def clocksIn (geometry : Geometry) (nanoseconds : UInt32) : Nat :=
  min (geometry.periods nanoseconds * (geometry .afiRateRatio).toNat) 0xffffffff

/-- The memory clocks in so many nanoseconds can be computed, and are cut at the largest word. -/
def Saturates (geometry : Geometry) (nanoseconds : UInt32) : Prop :=
  ∃ clocks, memoryClocks nanoseconds geometry = .ok clocks ∧
    clocks.toNat = geometry.clocksIn nanoseconds

variable {geometry : Geometry}

namespace Ticks

/-- A count saturates exactly if it stays within 64 bits before it is cut. -/
theorem saturates_iff (ticks : geometry.Ticks) (nanoseconds : UInt32) :
    geometry.Saturates nanoseconds ↔
      geometry.periods nanoseconds * (geometry .afiRateRatio).toNat < UInt64.size := by
  rw [Saturates, ticks.memoryClocks_eq]
  constructor
  · rintro ⟨clocks, computed, -⟩
    by_contra large
    rw [if_neg large] at computed
    cases computed
  · intro fits
    refine ⟨_, if_pos fits, ?_⟩
    rw [UInt32.toNat_ofNat_of_lt' (by rw [UInt32.size]; omega), clocksIn]

/-- A count that does not saturate is refused. -/
theorem refuses (ticks : geometry.Ticks) {nanoseconds : UInt32}
    (large : ¬geometry.Saturates nanoseconds) :
    memoryClocks nanoseconds geometry = .error .multiplyOverflow := by
  rw [ticks.memoryClocks_eq, if_neg ((ticks.saturates_iff nanoseconds).not.1 large)]

/-- A clock of at most a gigahertz has no more periods than nanoseconds, so that every count is a
product of two words. -/
theorem saturates_of_frequency (ticks : geometry.Ticks)
    (slow : (geometry .afiClockFrequency).toNat ≤ 1000) (nanoseconds : UInt32) :
    geometry.Saturates nanoseconds := by
  have long : 1000 ≤ geometry.period :=
    (Nat.le_div_iff_mul_le (toNat_pos ticks.frequency)).2 (by omega)
  have few : geometry.periods nanoseconds ≤ nanoseconds.toNat := by
    apply Nat.div_le_of_le_mul
    exact Nat.mul_le_mul_right _ long
  have time := nanoseconds.toNat_lt
  have ratio := (geometry .afiRateRatio).toNat_lt
  rw [ticks.saturates_iff]
  calc geometry.periods nanoseconds * (geometry .afiRateRatio).toNat
      ≤ 0xffffffff * 0xffffffff := Nat.mul_le_mul (by omega) (by omega)
    _ < UInt64.size := by decide

/-- The periods of any clock are at most the picoseconds, and a small ratio of these stays within
64 bits. -/
theorem saturates_of_ratio (ticks : geometry.Ticks)
    (small : (geometry .afiRateRatio).toNat ≤ 4294967) (nanoseconds : UInt32) :
    geometry.Saturates nanoseconds := by
  have few : geometry.periods nanoseconds ≤ 1000 * nanoseconds.toNat := Nat.div_le_self _ _
  have time := nanoseconds.toNat_lt
  rw [ticks.saturates_iff]
  calc geometry.periods nanoseconds * (geometry .afiRateRatio).toNat
      ≤ 1000 * 0xffffffff * 4294967 := Nat.mul_le_mul (by omega) small
    _ < UInt64.size := by decide

/-- A clock of more than a gigahertz with the largest ratio leaves 64 bits in the longest wait. -/
theorem not_saturates_of_frequency (ticks : geometry.Ticks)
    (fast : 1000 < (geometry .afiClockFrequency).toNat)
    (largest : geometry .afiRateRatio = largestWord) : ¬geometry.Saturates largestWord := by
  have short : geometry.period ≤ 999 := by
    have below : geometry.period < 1000 :=
      (Nat.div_lt_iff_lt_mul (toNat_pos ticks.frequency)).2 (by omega)
    omega
  have many : 1000 * 0xffffffff / 999 ≤ geometry.periods largestWord :=
    Nat.div_le_div_left short ticks.period_pos
  rw [ticks.saturates_iff, Nat.not_lt, largest]
  calc UInt64.size ≤ 1000 * 0xffffffff / 999 * 0xffffffff := by decide
    _ ≤ geometry.periods largestWord * 0xffffffff := Nat.mul_le_mul_right _ many

/-- A clock with a period of one picosecond and a larger ratio leaves 64 bits in the longest wait.
-/
theorem not_saturates_of_ratio (ticks : geometry.Ticks)
    (fastest : (geometry .afiClockFrequency).toNat = 1000000)
    (large : 4294967 < (geometry .afiRateRatio).toNat) : ¬geometry.Saturates largestWord := by
  have all : geometry.periods largestWord = 1000 * 0xffffffff := by
    rw [periods, period, fastest]
    rfl
  rw [ticks.saturates_iff, Nat.not_lt, all]
  calc UInt64.size ≤ 1000 * 0xffffffff * 4294968 := by decide
    _ ≤ 1000 * 0xffffffff * (geometry .afiRateRatio).toNat := Nat.mul_le_mul_left _ large

end Ticks

end Geometry

/-- The memory clocks in a wait saturate exactly where their count stays within 64 bits before it is
cut; everywhere else the count is refused. Whatever the ratio, every wait saturates for a clock
exactly if it has at most a gigahertz. Whatever the clock, every wait saturates for a ratio exactly
if this is at most 4294967. -/
theorem memoryClocks_saturates_iff {geometry : Geometry} (ticks : geometry.Ticks) :
    (∀ nanoseconds, (geometry.Saturates nanoseconds ↔
        geometry.periods nanoseconds * (geometry .afiRateRatio).toNat < UInt64.size) ∧
      (¬geometry.Saturates nanoseconds →
        memoryClocks nanoseconds geometry = .error .multiplyOverflow)) ∧
    ((∀ other : Geometry, other .afiClockFrequency = geometry .afiClockFrequency →
        ∀ nanoseconds, other.Saturates nanoseconds) ↔
      (geometry .afiClockFrequency).toNat ≤ 1000) ∧
    ((∀ other : Geometry, other.Ticks → other .afiRateRatio = geometry .afiRateRatio →
        ∀ nanoseconds, other.Saturates nanoseconds) ↔
      (geometry .afiRateRatio).toNat ≤ 4294967) := by
  refine ⟨fun nanoseconds => ⟨ticks.saturates_iff nanoseconds, ticks.refuses⟩, ⟨?_, ?_⟩, ⟨?_, ?_⟩⟩
  · intro all
    by_contra fast
    have alike : (clockedGeometry (geometry .afiClockFrequency) largestWord).Ticks :=
      ⟨ticks.frequency, ticks.slow⟩
    have safe := all (clockedGeometry (geometry .afiClockFrequency) largestWord) rfl largestWord
    exact alike.not_saturates_of_frequency (Nat.lt_of_not_le fast) rfl safe
  · intro slow other same nanoseconds
    have alike : other.Ticks := ⟨same ▸ ticks.frequency, same ▸ ticks.slow⟩
    exact alike.saturates_of_frequency (same ▸ slow) nanoseconds
  · intro all
    by_contra large
    have fastest : (clockedGeometry 1000000 (geometry .afiRateRatio)).Ticks := fastest_ticks _
    have safe := all (clockedGeometry 1000000 (geometry .afiRateRatio)) fastest rfl largestWord
    exact fastest.not_saturates_of_ratio rfl (Nat.lt_of_not_le large) safe
  · intro small other runs same nanoseconds
    exact runs.saturates_of_ratio (same ▸ small) nanoseconds

/-- The fastest clock with the largest safe ratio: the longest wait is counted, and cut at the
largest word. -/
theorem fastestClock_saturates :
    (clockedGeometry 1000000 4294967).Ticks ∧
      (clockedGeometry 1000000 4294967).Saturates largestWord ∧
      (clockedGeometry 1000000 4294967).clocksIn largestWord = 0xffffffff := by
  have ticks := fastest_ticks 4294967
  have safe := (memoryClocks_saturates_iff ticks).2.2.2 (by decide)
  exact ⟨ticks, safe _ ticks rfl largestWord, by decide⟩

/-- The fastest clock with the next ratio: the count of the longest wait leaves 64 bits before it is
cut, and is refused. -/
theorem longest_wait_overflows :
    (clockedGeometry 1000000 4294968).Ticks ∧
      memoryClocks largestWord (clockedGeometry 1000000 4294968) = .error .multiplyOverflow ∧
      (clockedGeometry 1000000 4294968).clocksIn largestWord = 0xffffffff ∧
      ¬(clockedGeometry 1000000 4294968).Saturates largestWord := by
  have ticks := fastest_ticks 4294968
  have large := ticks.not_saturates_of_ratio rfl (by decide)
  exact ⟨ticks, ticks.refuses large, by decide, large⟩

end Bringup.Calibration
