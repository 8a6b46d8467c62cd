import Bringup.Part
import Bringup.Word.Checked
/-!
# Time

A clock counts cycles of the processor. Waiting means to read it until enough cycles have
passed. A counter that moves by one on each reading is a clock, on which every wait ends.
-/

namespace Bringup

/-- A clock over a state `σ`. -/
structure Clock (σ ε : Type) where
  cycles : EStateM ε σ UInt64
  /-- Waits at least so many cycles. -/
  spin : UInt64 → EStateM ε σ Unit

namespace Clock

/-- Cycles in a second. -/
def frequency : UInt64 := 100000000

/-- Cycles in a microsecond. -/
def cyclesPerMicrosecond : UInt64 := frequency / 1000000

/-- The cycles in so many microseconds. -/
def ofMicroseconds (microseconds : UInt64) : Except Fault UInt64 :=
  Word.mul64 microseconds cyclesPerMicrosecond

/-- A clock over a part of a state is a clock over the whole. -/
def onPart {σ τ ε : Type} (clock : Clock τ ε) (place : Part σ τ) : Clock σ ε where
  cycles := place.run clock.cycles
  spin interval := place.run (clock.spin interval)

end Clock

/-- A counter that moves by one on each reading. -/
structure ReadingCounter where
  count : UInt64
  deriving DecidableEq, Repr

namespace ReadingCounter

variable {ε : Type}

/-- Reads the counter, which then moves. -/
def read (counter : ReadingCounter) : UInt64 × ReadingCounter :=
  (counter.count, ⟨counter.count + 1⟩)

/-- The readings that a wait takes: one for the start, and then as many as the interval has
cycles, but at least one. -/
def waitReadings (interval : UInt64) : UInt64 := 1 + max 1 interval

/-- The clock made of the counter. -/
def clock : Clock ReadingCounter ε where
  cycles counter := .ok counter.read.1 counter.read.2
  spin interval := modify fun counter => ⟨counter.count + waitReadings interval⟩

end ReadingCounter

end Bringup
