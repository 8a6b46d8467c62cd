import Bringup.Bus
import Bringup.Calibration.Registers
import Bringup.Calibration.Config
import Std.Data.TreeMap
/-!
# A simulated PHY

The PHY counts the phase steps of each clock and the position of each read-valid FIFO. A run
of the read program in a slot leaves error bits that depend on the slot, on the FIFO position
of its group and on the phase of the clock that captures the group.
-/

namespace Bringup.Calibration

/-- A set of operating points and the error bits that reads there leave. An absent condition
holds everywhere. -/
structure Band where
  slot : Option Nat
  position : Option Nat
  lowest : Option Int
  highest : Option Int
  errors : UInt32
  deriving DecidableEq, Repr

/-- Whether an operating point lies in a band. -/
def Band.holds (band : Band) (slot position : Nat) (phase : Int) : Bool :=
  band.slot.all (· == slot) && band.position.all (· == position)
    && band.lowest.all (· ≤ phase) && band.highest.all (phase ≤ ·)

/-- The error bits at an operating point: those of the first band that holds. -/
def Band.errorsAt (bands : List Band) (default : UInt32) (slot position : Nat) (phase : Int) :
    UInt32 :=
  ((bands.find? (·.holds slot position phase)).map (·.errors)).getD default

/-- The simulated PHY. -/
structure Phy where
  layout : Layout
  /-- Where the read program begins. -/
  readProgram : UInt32
  virtualGroups : Nat
  bands : List Band
  defaultErrors : UInt32
  writeLatency : UInt32
  /-- Words that reads of the error register give before the error bits. -/
  queued : List UInt32
  /-- Net steps of each clock register. -/
  phases : Std.TreeMap Nat Int
  /-- The position of each FIFO. -/
  positions : Std.TreeMap Nat Nat
  /-- What the last run left. -/
  errors : UInt32

namespace Phy

/-- A PHY on which nothing was done. -/
def fresh (layout : Layout) (readProgram : UInt32) (virtualGroups : Nat) : Phy :=
  ⟨layout, readProgram, virtualGroups, [], 0xffffffff, 6, [], {}, {}, 0xffffffff⟩

/-- The register that steps a clock. -/
def clockRegister (phy : Phy) (clock : Nat) : Nat := phy.layout.pllManager.toNat + 4 * clock

/-- The error bits of a run in a slot. -/
def errorsOf (phy : Phy) (slot : Nat) : UInt32 :=
  let group := slot / max phy.virtualGroups 1
  let clock := if group = 2 then 1 else group
  Band.errorsAt phy.bands phy.defaultErrors slot (phy.positions.getD group 0)
    (phy.phases.getD (phy.clockRegister clock) 0)

/-- Moves a clock by one step. -/
def stepClock (phy : Phy) (register : Nat) (command : UInt32) : Phy :=
  let phase := phy.phases.getD register 0
  { phy with
    phases := phy.phases.insert register (if command = 1 then phase + 1 else phase - 1) }

/-- Moves a FIFO to its next position. -/
def nextPosition (phy : Phy) (group : Nat) : Phy :=
  { phy with
    positions := phy.positions.insert group ((phy.positions.getD group 0 + 1) % vfifoPositions) }

/-- What a write does. -/
def afterWrite (phy : Phy) (address value : UInt32) : Phy :=
  let place := address.toNat
  let pll := phy.layout.pllManager.toNat
  let rw := phy.layout.rwManager.toNat
  if pll ≤ place ∧ place < pll + 0x100 then phy.stepClock place value
  else if place = phy.layout.phyManager.toNat + PhyManager.incrementVfifo.toNat then
    phy.nextPosition value.toNat
  else if rw ≤ place ∧ place < rw + 0x800 ∧ value = phy.readProgram then
    { phy with errors := phy.errorsOf ((place - rw) % 0x400 / 4) }
  else phy

/-- Net steps of each clock, by the offset of its register. -/
def clockSteps (phy : Phy) : List (Nat × Int) :=
  phy.phases.toList.map fun (register, steps) => (register - phy.layout.pllManager.toNat, steps)

/-- The PHY as a bus. -/
def bus {ε : Type} : Bus Phy ε where
  read address := fun phy =>
    if address = phy.layout.rwManager then
      match phy.queued with
      | value :: rest => .ok value { phy with queued := rest }
      | [] => .ok phy.errors phy
    else if address.toNat =
        phy.layout.phyManager.toNat + PhyManager.memoryWriteLatency.toNat then
      .ok phy.writeLatency phy
    else .ok 0 phy
  write address value := modify (·.afterWrite address value)

end Phy

end Bringup.Calibration
