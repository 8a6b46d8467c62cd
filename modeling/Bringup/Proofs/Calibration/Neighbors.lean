import Bringup.Proofs.Calibration.Centering
import Bringup.Proofs.Calibration.Handover
/-!
# Groups that are calibrated one after the other

A group keeps its operating point while deeds go by that touch neither its clock nor its FIFO
(`Sequencer.Ignores`). The search for another group leaves its FIFO alone, but where a memory has a
second clock beside the first, it may move the clock of the group behind it. No search moves the
clock of a group that was searched before (`Trails`). So after the groups of a layout are searched,
each still stands where its own search ended.
-/

namespace Bringup.Calibration

variable {σ ε : Type}

/-- Searching the later group moves neither the clock nor the FIFO of the earlier one. -/
structure Trails (earlier later : UInt32) : Prop where
  groups : later ≠ earlier
  clocks : captureClock later ≠ captureClock earlier
  beside : (captureClock later).toNat + 4 ≠ 4 * (captureClock earlier).toNat

namespace Sequencer

variable {sequencer : Sequencer σ ε} {group other : UInt32}
  {errors : Nat → Position → Int → UInt32} {stands : UInt32 → σ → Position → Int → Prop}
  {state next : σ} {position : Position} {phase : Int} {deed : Deed}

/-- A deed that neither steps the clock of a group nor its FIFO. -/
def Ignores (sequencer : Sequencer σ ε) (group : UInt32) : Deed → Prop
  | .write address value =>
    address.toNat ≠
        sequencer.config.layout.pllManager.toNat + 4 * (captureClock group).toNat ∧
      (address.toNat =
        sequencer.config.layout.phyManager.toNat + PhyManager.incrementVfifo.toNat →
        value ≠ group)
  | _ => True

/-- What a calibration of all groups relies on: registers apart from each other, and a PHY that
stands at an operating point of every group and can be tuned for it. Neither a read nor a log line
nor a step of another group's FIFO moves the point, nor does a run of another group's slot. -/
structure Orderly (sequencer : Sequencer σ ε) (errors : Nat → Position → Int → UInt32)
    (stands : UInt32 → σ → Position → Int → Prop) : Prop where
  separates : sequencer.config.layout.Separates
  tunes : ∀ group ∈ sequencer.config.groups.groups,
    Tunes sequencer.bus sequencer.config group errors (stands group)
  another : ∀ group ∈ sequencer.config.groups.groups, ∀ {state next position phase},
    stands group state position phase → ∀ {address value : UInt32},
    address.toNat =
      sequencer.config.layout.phyManager.toNat + PhyManager.incrementVfifo.toNat →
    value ≠ group → sequencer.bus.write address value state = .ok () next →
    stands group next position phase
  ran : ∀ group ∈ sequencer.config.groups.groups, ∀ other ∈ sequencer.config.groups.groups,
    other ≠ group → ∀ {state next position phase}, stands group state position phase →
    ∀ {index : UInt32}, index.toNat < sequencer.virtualGroups.toNat →
    sequencer.bus.write (sequencer.runRegister (runBase false) other index)
      (sequencer.entry .readBackToBack) state = .ok () next → stands group next position phase
  read : ∀ group ∈ sequencer.config.groups.groups, ∀ {state next position phase},
    stands group state position phase → ∀ {address value : UInt32},
    sequencer.bus.read address state = .ok value next → stands group next position phase
  log : ∀ group ∈ sequencer.config.groups.groups, ∀ {state next position phase record},
    stands group state position phase → sequencer.log record state = .ok () next →
    stands group next position phase

/-- A plain deed ignores every group. -/
theorem Plain.ignores (separates : sequencer.config.layout.Separates) (three : group ≤ 2)
    (plain : sequencer.Plain deed) : sequencer.Ignores group deed := by
  have clock := captureClock_le three
  have advance := PhyManager.toNat_incrementVfifo
  have phyRw := separates.phyRw
  have phyPll := separates.phyPll
  have rwPll := separates.rwPll
  simp only [Apart, PhyManager.window, RwManager.window, PllManager.window] at phyRw phyPll rwPll
  cases plain with
  | log => trivial
  | read => trivial
  | rw value low high =>
    rw [RwManager.window] at high
    exact ⟨by omega, fun here => by omega⟩
  | @phy address offset value among place =>
    have offsets := PhyManager.toNat_plain among
    exact ⟨by omega, fun here => by omega⟩

/-- A deed of the search for another group ignores a group, or it runs a slot of the other, or it is
a step of the group's clock, which the other then moves as its own or as the one beside its own. -/
theorem SearchDeed.touches (separates : sequencer.config.layout.Separates) (three : group ≤ 2)
    (otherThree : other ≤ 2) (apart : other ≠ group) (search : sequencer.SearchDeed other deed) :
    sequencer.Ignores group deed ∨
    (∃ index : UInt32, index.toNat < sequencer.virtualGroups.toNat ∧
      deed = .write (sequencer.runRegister (runBase false) other index)
        (sequencer.entry .readBackToBack)) ∨
    ∃ address command, deed = .write address command ∧
      address.toNat =
        sequencer.config.layout.pllManager.toNat + 4 * (captureClock group).toNat ∧
      (command = PllManager.increment ∨ command = PllManager.decrement) ∧
      (captureClock other = captureClock group ∨
        (captureClock other).toNat + 4 = 4 * (captureClock group).toNat) := by
  have clock := captureClock_le three
  have otherClock := captureClock_le otherThree
  have advance := PhyManager.toNat_incrementVfifo
  have phyPll := separates.phyPll
  simp only [Apart, PhyManager.window, PllManager.window] at phyPll
  cases search with
  | plain plain => exact .inl (plain.ignores separates three)
  | @slot index inside => exact .inr (.inl ⟨index, inside, rfl⟩)
  | advance place => exact .inl ⟨by omega, fun _ => apart⟩
  | @clock address command place known =>
    by_cases same : captureClock other = captureClock group
    · exact .inr (.inr ⟨address, command, rfl, by rw [place, same], known, .inl same⟩)
    · have numbers : (captureClock other).toNat ≠ (captureClock group).toNat :=
        fun equal => same (UInt32.toNat_inj.1 equal)
      exact .inl ⟨by omega, fun here => by omega⟩
  | @beside address command _ place known =>
    by_cases same : (captureClock other).toNat + 4 = 4 * (captureClock group).toNat
    · exact .inr (.inr ⟨address, command, rfl, by omega, known, .inr same⟩)
    · exact .inl ⟨by omega, fun here => by omega⟩

namespace Orderly

variable (orderly : sequencer.Orderly errors stands)

include orderly

/-- Every group can be searched. -/
theorem steerable (among : group ∈ sequencer.config.groups.groups) :
    sequencer.Steerable group errors (stands group) :=
  ⟨GroupLayout.groups_le _ group among, orderly.separates, orderly.tunes group among,
    orderly.log group among⟩

/-- A deed that ignores a group leaves its operating point. -/
theorem ignored_step (among : group ∈ sequencer.config.groups.groups)
    (ignores : sequencer.Ignores group deed) (stood : stands group state position phase)
    (step : sequencer.Step state deed next) : stands group next position phase := by
  cases deed with
  | read => exact orderly.read group among stood step
  | log => exact orderly.log group among stood step
  | write address value =>
    by_cases fifo : address.toNat =
        sequencer.config.layout.phyManager.toNat + PhyManager.incrementVfifo.toNat
    · exact orderly.another group among stood fifo (ignores.2 fifo) step
    · exact (orderly.tunes group among).other stood ignores.1 fifo step

/-- Deeds that ignore a group leave its operating point. -/
theorem ignored (among : group ∈ sequencer.config.groups.groups) {deeds : List Deed}
    (ignore : ∀ deed ∈ deeds, sequencer.Ignores group deed)
    (stood : stands group state position phase)
    (trace : Trace sequencer.Step state deeds next) : stands group next position phase := by
  induction trace with
  | done => exact stood
  | next taken _ ih =>
    obtain ⟨first, others⟩ := List.forall_mem_cons.1 ignore
    exact ih others (orderly.ignored_step among first stood taken)

/-- A deed of the search for another group that does not step a group's clock leaves the group's
operating point. -/
theorem search_step (among : group ∈ sequencer.config.groups.groups)
    (known : other ∈ sequencer.config.groups.groups) (apart : other ≠ group)
    (quiet : sequencer.Ignores group deed ∨
      ∃ index : UInt32, index.toNat < sequencer.virtualGroups.toNat ∧
        deed = .write (sequencer.runRegister (runBase false) other index)
          (sequencer.entry .readBackToBack))
    (stood : stands group state position phase) (step : sequencer.Step state deed next) :
    stands group next position phase := by
  obtain ignores | ⟨index, inside, rfl⟩ := quiet
  · exact orderly.ignored_step among ignores stood step
  · exact orderly.ran group among other known apart stood inside step

/-- The searches of later groups leave the operating point of an earlier one. -/
theorem later_stands (among : group ∈ sequencer.config.groups.groups) {rest : List UInt32}
    (others : ∀ other ∈ rest, other ∈ sequencer.config.groups.groups)
    (trail : ∀ other ∈ rest, Trails group other) {deeds : List Deed}
    (searching : ∀ deed ∈ deeds, ∃ other ∈ rest, sequencer.SearchDeed other deed)
    (stood : stands group state position phase)
    (trace : Trace sequencer.Step state deeds next) : stands group next position phase := by
  induction trace with
  | done => exact stood
  | next taken _ ih =>
    obtain ⟨⟨other, behind, search⟩, later⟩ := List.forall_mem_cons.1 searching
    have known := others other behind
    have order := trail other behind
    refine ih later (orderly.search_step among known order.groups ?_ stood taken)
    obtain ignores | runs | ⟨_, _, _, _, _, same | beside⟩ := search.touches orderly.separates
      (GroupLayout.groups_le _ group among) (GroupLayout.groups_le _ other known) order.groups
    · exact .inl ignores
    · exact .inr runs
    · exact absurd same order.clocks
    · exact absurd beside order.beside

/-- The search of an earlier group leaves the position of a later one, at some phase. -/
theorem earlier_stands (among : group ∈ sequencer.config.groups.groups)
    (before : other ∈ sequencer.config.groups.groups) (apart : other ≠ group) {deeds : List Deed}
    (searching : ∀ deed ∈ deeds, sequencer.SearchDeed other deed)
    (stood : stands group state position phase)
    (trace : Trace sequencer.Step state deeds next) :
    ∃ moved, stands group next position moved := by
  induction trace generalizing phase with
  | done => exact ⟨phase, stood⟩
  | next taken _ ih =>
    obtain ⟨first, rest⟩ := List.forall_mem_cons.1 searching
    obtain ignores | runs | ⟨address, command, rfl, place, rfl | rfl, _⟩ :=
      first.touches orderly.separates (GroupLayout.groups_le _ group among)
        (GroupLayout.groups_le _ other before) apart
    · exact ih rest (orderly.search_step among before apart (.inl ignores) stood taken)
    · exact ih rest (orderly.search_step among before apart (.inr runs) stood taken)
    · exact ih rest ((orderly.tunes group among).up stood place taken)
    · exact ih rest ((orderly.tunes group among).down stood place taken)

end Orderly

end Sequencer

end Bringup.Calibration
