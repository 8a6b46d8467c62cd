import Bringup.Proofs.Calibration.Search
import Mathlib.Data.Int.Basic
/-!
# Moves on a PHY

A PHY can be tuned (`Tunes`) when the error word of a run depends only on the slot, on the position
of the group's FIFO and on the net phase of the clock that captures the group, and when no other
register touches these two. How the errors depend on them is left open. On such a PHY every move of
the search has one effect: a test reads the errors of the operating point and leaves it, and the
other moves change it by one.
-/

namespace Bringup.Calibration

variable {σ ε : Type}

/-- A position of a read-valid FIFO; after the last comes the first. -/
abbrev Position : Type := Fin 8

/-- A PHY that stands at an operating point: a position of the group's FIFO and a net phase of its
capture clock. The registers are given by their addresses. -/
structure Tunes (bus : Bus σ ε) (config : Config) (group : UInt32)
    (errors : Nat → Position → Int → UInt32)
    (stands : σ → Position → Int → Prop) : Prop where
  up : ∀ {state next position phase}, stands state position phase → ∀ {address : UInt32},
    address.toNat = config.layout.pllManager.toNat + 4 * (captureClock group).toNat →
    bus.write address PllManager.increment state = .ok () next → stands next position (phase + 1)
  down : ∀ {state next position phase}, stands state position phase → ∀ {address : UInt32},
    address.toNat = config.layout.pllManager.toNat + 4 * (captureClock group).toNat →
    bus.write address PllManager.decrement state = .ok () next → stands next position (phase - 1)
  advance : ∀ {state next position phase}, stands state position phase → ∀ {address : UInt32},
    address.toNat = config.layout.phyManager.toNat + PhyManager.incrementVfifo.toNat →
    bus.write address group state = .ok () next → stands next (position + 1) phase
  run : ∀ {state ran next position phase}, stands state position phase →
    ∀ {slot index : Nat} {address word : UInt32},
    index < (config.geometry .virtualGroupsPerReadDqs).toNat →
    slot = group.toNat * (config.geometry .virtualGroupsPerReadDqs).toNat + index →
    address = config.layout.rwManager + (UInt32.ofNat slot <<< 2) →
    bus.write address (config.programs .readBackToBack) state = .ok () ran →
    bus.read config.layout.rwManager ran = .ok word next →
    word = errors slot position phase ∧ stands next position phase
  other : ∀ {state next position phase}, stands state position phase → ∀ {address value : UInt32},
    address.toNat ≠ config.layout.pllManager.toNat + 4 * (captureClock group).toNat →
    address.toNat ≠ config.layout.phyManager.toNat + PhyManager.incrementVfifo.toNat →
    bus.write address value state = .ok () next → stands next position phase

namespace Sequencer

variable {sequencer : Sequencer σ ε} {group : UInt32}
  {errors : Nat → Position → Int → UInt32} {stands : σ → Position → Int → Prop}
  {state next : σ} {position : Position} {phase : Int}

/-- The error words of so many slots from a first one on, the last slot first. -/
def errorWords (errors : Nat → UInt32) (first : Nat) : (count : Nat) → List UInt32
  | 0 => []
  | count + 1 => errors (first + count) :: errorWords errors first count

/-- The error words that a test of a group reads at an operating point. -/
def wordsAt (sequencer : Sequencer σ ε) (group : UInt32)
    (errors : Nat → Position → Int → UInt32) (position : Position)
    (phase : Int) : List UInt32 :=
  errorWords (fun slot => errors slot position phase)
    (group.toNat * sequencer.virtualGroups.toNat) sequencer.virtualGroups.toNat

/-- A deed that touches neither the group's clock nor its FIFO. -/
def Spares (sequencer : Sequencer σ ε) (group : UInt32) : Deed → Prop
  | .read _ _ => False
  | .write address _ =>
    address.toNat ≠
        sequencer.config.layout.pllManager.toNat + 4 * (captureClock group).toNat ∧
      address.toNat ≠
        sequencer.config.layout.phyManager.toNat + PhyManager.incrementVfifo.toNat
  | .log _ => True

/-- What the moves of the search rely on: a PHY that can be tuned, registers apart from each other,
and a log that leaves the PHY alone. -/
structure Tunable (sequencer : Sequencer σ ε) (group : UInt32)
    (errors : Nat → Position → Int → UInt32)
    (stands : σ → Position → Int → Prop) : Prop where
  three : group ≤ 2
  few : sequencer.virtualGroups.toNat ≤ 64
  separates : sequencer.config.layout.Separates
  tunes : Tunes sequencer.bus sequencer.config group errors stands
  log : ∀ {state next position phase record}, stands state position phase →
    sequencer.log record state = .ok () next → stands next position phase

/-- What the moves of the search rely on wherever the slots lie. -/
structure Steerable (sequencer : Sequencer σ ε) (group : UInt32)
    (errors : Nat → Position → Int → UInt32)
    (stands : σ → Position → Int → Prop) : Prop where
  three : group ≤ 2
  separates : sequencer.config.layout.Separates
  tunes : Tunes sequencer.bus sequencer.config group errors stands
  log : ∀ {state next position phase record}, stands state position phase →
    sequencer.log record state = .ok () next → stands next position phase

/-- Where the slots lie inside their window, the moves rely on no more. -/
theorem Tunable.steerable (tunable : sequencer.Tunable group errors stands) :
    sequencer.Steerable group errors stands where
  three := tunable.three
  separates := tunable.separates
  tunes := tunable.tunes
  log := tunable.log

/-- Slots that are run for a single group lie behind the base of the read-write manager, in the
order of their numbers. -/
theorem runRegister_single (group : UInt32) (index : Nat) :
    sequencer.runRegister (runBase false) group (UInt32.ofNat index) =
      sequencer.config.layout.rwManager +
        (UInt32.ofNat (group.toNat * sequencer.virtualGroups.toNat + index) <<< 2) := by
  have number : sequencer.slot group (UInt32.ofNat index) =
      UInt32.ofNat (group.toNat * sequencer.virtualGroups.toNat + index) := by
    rw [slot, UInt32.ofNat_add, UInt32.ofNat_mul, UInt32.ofNat_toNat, UInt32.ofNat_toNat]
  rw [runRegister, number]
  exact congrArg _ (UInt32.zero_add _)

namespace Steerable

variable (steerable : sequencer.Steerable group errors stands)

include steerable

/-- Deeds that spare the clock and the FIFO leave the operating point. -/
theorem spared {deeds : List Deed} (spare : ∀ deed ∈ deeds, sequencer.Spares group deed)
    (stood : stands state position phase) (trace : Trace sequencer.Step state deeds next) :
    stands next position phase := by
  induction trace with
  | done => exact stood
  | @next _ _ _ deed _ taken _ ih =>
    have first := spare deed List.mem_cons_self
    refine ih (fun other member => spare other (List.mem_cons_of_mem deed member)) ?_
    cases deed with
    | read => exact first.elim
    | write => exact steerable.tunes.other stood first.1 first.2 taken
    | log => exact steerable.log stood taken

/-- No register of the read-write manager steps the clock or the FIFO. -/
theorem spares_rw (offset value : UInt32) (inside : offset.toNat < RwManager.window) :
    sequencer.Spares group (.write (sequencer.config.layout.rwManager + offset) value) := by
  have clock := captureClock_le steerable.three
  have ends := steerable.separates.rw
  have phy := steerable.separates.phyRw
  have pll := steerable.separates.rwPll
  simp only [Apart, RwManager.window, PhyManager.window, PllManager.window] at ends phy pll inside
  have advance := PhyManager.toNat_incrementVfifo
  rw [Spares, UInt32.toNat_add]
  omega

/-- Resetting the FIFO pointers steps neither the clock nor the FIFO. -/
theorem spares_fifoReset (value : UInt32) :
    sequencer.Spares group
      (.write (sequencer.config.layout.phyManager + PhyManager.fifoReset) value) := by
  have clock := captureClock_le steerable.three
  have ends := steerable.separates.phy
  have pll := steerable.separates.phyPll
  simp only [Apart, PhyManager.window, PllManager.window] at ends pll
  have advance := PhyManager.toNat_incrementVfifo
  have reset : PhyManager.fifoReset.toNat = 8 := by decide
  rw [Spares, UInt32.toNat_add]
  omega

/-- The second clock of an LPDDR2 memory lies beside the clock of the group. -/
theorem spares_beside (value : UInt32) :
    sequencer.Spares group
      (.write (sequencer.config.layout.pllManager + captureClock group + 4) value) := by
  have clock := captureClock_le steerable.three
  have ends := steerable.separates.pll
  have phy := steerable.separates.phyPll
  simp only [Apart, PhyManager.window, PllManager.window] at ends phy
  have advance := PhyManager.toNat_incrementVfifo
  have four : (4 : UInt32).toNat = 4 := by decide
  rw [Spares, UInt32.toNat_add, UInt32.toNat_add]
  omega

/-- Setting a loop counter and its jump target steps neither the clock nor the FIFO. -/
theorem spares_load (counter : LoopCounter) (count : UInt32) (target : RomProgram) :
    ∀ deed ∈ sequencer.loadDeeds counter count target, sequencer.Spares group deed := by
  rw [loadDeeds, List.forall_mem_cons, List.forall_mem_singleton]
  exact ⟨steerable.spares_rw _ _ (counter_lt counter), steerable.spares_rw _ _ (jump_lt counter)⟩

/-- Running a slot gives its error word and leaves the operating point. -/
theorem slot_stands {index : Nat} (inside : index < sequencer.virtualGroups.toNat) {word : UInt32}
    (stood : stands state position phase) (trace : Trace sequencer.Step state
      (sequencer.slotDeeds (runBase false) group (UInt32.ofNat index) word) next) :
    word = errors (group.toNat * sequencer.virtualGroups.toNat + index) position phase ∧
      stands next position phase := by
  obtain ⟨reset, before, trace⟩ : ∃ reset, Trace sequencer.Step state
      [.write (sequencer.config.layout.phyManager + PhyManager.fifoReset) 0,
        .write (sequencer.config.layout.rwManager + RwManager.resetReadDatapath) 0] reset ∧
      Trace sequencer.Step reset
        [.write (sequencer.runRegister (runBase false) group (UInt32.ofNat index))
            (sequencer.entry .readBackToBack),
          .read sequencer.config.layout.rwManager word] next := by
    rw [slotDeeds] at trace
    exact Trace.split trace
  have ready : stands reset position phase := by
    refine steerable.spared ?_ stood before
    rw [List.forall_mem_cons, List.forall_mem_singleton]
    exact ⟨steerable.spares_fifoReset 0, steerable.spares_rw _ 0 (by decide)⟩
  cases trace with
  | next ran rest =>
    cases rest with
    | next read rest =>
      cases rest
      exact steerable.tunes.run ready inside rfl (runRegister_single group index) ran read

/-- Reading virtual groups gives the error words of their slots. -/
theorem groups_stand {words : List UInt32} (enough : words.length ≤ sequencer.virtualGroups.toNat)
    (stood : stands state position phase) (trace : Trace sequencer.Step state
      (sequencer.groupDeeds (runBase false) group words) next) :
    words = errorWords (fun slot => errors slot position phase)
        (group.toNat * sequencer.virtualGroups.toNat) words.length ∧
      stands next position phase := by
  induction words generalizing state with
  | nil =>
    cases trace
    exact ⟨rfl, stood⟩
  | cons word rest ih =>
    rw [List.length_cons] at enough
    rw [groupDeeds] at trace
    obtain ⟨middle, first, others⟩ := trace.split
    obtain ⟨read, kept⟩ := steerable.slot_stands enough stood first
    obtain ⟨later, kept⟩ := ih (by omega) kept others
    refine ⟨?_, kept⟩
    rw [List.length_cons, errorWords, ← read, ← later]

/-- A test reads the errors of the operating point and leaves it. -/
theorem tested_stands {words : List UInt32} (length : words.length = sequencer.virtualGroups.toNat)
    (stood : stands state position phase)
    (trace : Trace sequencer.Step state (sequencer.moveDeeds group (.tested words)) next) :
    words = sequencer.wordsAt group errors position phase ∧ stands next position phase := by
  rw [moveDeeds, testDeeds] at trace
  obtain ⟨read, before, cleared⟩ := trace.split
  obtain ⟨ready, setup, groups⟩ := before.split
  have kept : stands ready position phase := by
    refine steerable.spared ?_ stood setup
    simp only [setupDeeds, List.forall_mem_append]
    exact ⟨⟨⟨steerable.spares_load _ _ _, steerable.spares_load _ _ _⟩,
      steerable.spares_load _ _ _⟩, steerable.spares_load _ _ _⟩
  obtain ⟨same, kept⟩ := steerable.groups_stand (Nat.le_of_eq length) kept groups
  rw [length] at same
  refine ⟨same, steerable.spared ?_ kept cleared⟩
  rw [List.forall_mem_singleton]
  exact steerable.spares_rw _ _ (clear_lt steerable.three)

/-- Stepping the group's clock changes the phase as the command says. -/
theorem clock_stands {command : UInt32} {changed : Int}
    (stepped : ∀ {next}, sequencer.bus.write (sequencer.clockRegister group) command state =
      .ok () next → stands next position changed)
    (trace : Trace sequencer.Step state (sequencer.clockDeeds group command) next) :
    stands next position changed := by
  rw [clockDeeds] at trace
  cases trace with
  | next taken rest =>
    refine steerable.spared ?_ (stepped taken) rest
    split
    · rw [List.forall_mem_singleton]
      exact steerable.spares_beside command
    · intro deed member
      exact absurd member List.not_mem_nil

/-- A step up moves the phase up by one. -/
theorem up_stands (stood : stands state position phase)
    (trace : Trace sequencer.Step state (sequencer.moveDeeds group .up) next) :
    stands next position (phase + 1) :=
  steerable.clock_stands
    (fun taken => steerable.tunes.up stood
      (toNat_clockRegister steerable.separates.toFits steerable.three).1 taken) trace

/-- A step down moves the phase down by one. -/
theorem down_stands (stood : stands state position phase)
    (trace : Trace sequencer.Step state (sequencer.moveDeeds group .down) next) :
    stands next position (phase - 1) :=
  steerable.clock_stands
    (fun taken => steerable.tunes.down stood
      (toNat_clockRegister steerable.separates.toFits steerable.three).1 taken) trace

/-- A step of the FIFO moves it to its next position. -/
theorem advanced_stands (stood : stands state position phase)
    (trace : Trace sequencer.Step state (sequencer.moveDeeds group .advanced) next) :
    stands next (position + 1) phase := by
  have ends := steerable.separates.phy
  rw [PhyManager.window] at ends
  have advance := PhyManager.toNat_incrementVfifo
  cases trace with
  | next taken rest =>
    cases rest
    refine steerable.tunes.advance stood ?_ taken
    rw [UInt32.toNat_add]
    omega

/-- A log line leaves the operating point. -/
theorem noted_stands {record : LogRecord} (stood : stands state position phase)
    (trace : Trace sequencer.Step state (sequencer.moveDeeds group (.noted record)) next) :
    stands next position phase := by
  cases trace with
  | next taken rest =>
    cases rest
    exact steerable.log stood taken

end Steerable

end Sequencer

end Bringup.Calibration
