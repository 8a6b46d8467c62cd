import Bringup.Calibration.Config
/-!
# Waiting a number of clocks

The instruction memory has two idle loops, one inside the other. A wait in nanoseconds is
turned into memory clocks, memory clocks into the controller's own clocks, and these into
loop counters. Each loop tests before it counts, so it runs once more than its counter says.
-/

namespace Bringup.Calibration

/-- Counters of the idle loops. -/
structure DelayCounters where
  inner : UInt8
  outer : UInt8
  /-- How often the pair of loops runs again. -/
  repeats : UInt16
  deriving DecidableEq, Repr

/-- Controller clocks that cover so many memory clocks. -/
def controllerClocks (clocks ratio : UInt32) : Except Fault UInt32 := do
  let quotient ← Word.div32 clocks ratio
  pure (if clocks % ratio = 0 then quotient else quotient + 1)

/-- The loop counters for a wait of so many controller clocks. -/
def DelayCounters.ofControllerClocks (clocks : UInt32) : DelayCounters :=
  if clocks = 0 then ⟨0, 0, 0⟩
  else if clocks ≤ 0x100 then ⟨(clocks - 1).toUInt8, 0, 0⟩
  else if clocks ≤ 0x10000 then ⟨0xff, ((clocks - 1) >>> 8).toUInt8, 0⟩
  else ⟨0xff, 0xff, ((clocks - 1) >>> 16).toUInt16⟩

/-- The loop counters for a wait of so many memory clocks. -/
def delayCounters (clocks ratio : UInt32) : Except Fault DelayCounters :=
  (controllerClocks clocks ratio).map .ofControllerClocks

/-- The memory clocks in so many nanoseconds, at most what a word holds. The period of the
controller's clock is taken in whole picoseconds. -/
def memoryClocks (nanoseconds : UInt32) (geometry : Geometry) : Except Fault UInt32 := do
  let period ← Word.div64 1000000 (geometry .afiClockFrequency).toUInt64
  let periods ← Word.div64 (1000 * nanoseconds.toUInt64) period
  let clocks ← Word.mul64 periods (geometry .afiRateRatio).toUInt64
  pure (Word.saturate32 clocks)

end Bringup.Calibration
