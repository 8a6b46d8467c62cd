import Bringup.Calibration.Phy
import Bringup.Proofs.Calibration.Neighbors
import Bringup.Proofs.Calibration.Turns
/-!
# Net phases on the bus

The net phase of a register is said of the moves of a search. Where every register has an address of
its own, it can be read off the writes that go over the bus (`moves_travels`): nothing but a step of
a clock writes a clock register. So the simulated PHY, which counts the steps of each register, has
counted the net phases of a calibration at its end (`Phy.calibration_counted`).
-/

namespace Bringup.Calibration

/-- How far a deed steps a register. -/
def Deed.travel (register : UInt32) : Deed → Int
  | .write address command =>
    if address = register then (if command = PllManager.increment then 1 else -1) else 0
  | .read _ _ | .log _ => 0

/-- How far deeds step a register. -/
def Deed.travels (register : UInt32) : List Deed → Int
  | [] => 0
  | deed :: rest => deed.travel register + travels register rest

/-- The register is one of those of the capture clocks. -/
structure Layout.Clocks (layout : Layout) (register : UInt32) : Prop where
  low : layout.pllManager.toNat ≤ register.toNat
  high : register.toNat < layout.pllManager.toNat + PllManager.window

namespace Deed

variable {register : UInt32}

/-- Deeds and then deeds. -/
theorem travels_append (first second : List Deed) :
    travels register (first ++ second) = travels register first + travels register second := by
  induction first with
  | nil => exact (Int.zero_add _).symm
  | cons deed rest ih => rw [List.cons_append, travels, travels, ih, Int.add_assoc]

/-- Deeds that step nothing. -/
theorem travels_eq_zero {deeds : List Deed} (still : ∀ deed ∈ deeds, deed.travel register = 0) :
    travels register deeds = 0 := by
  induction deeds with
  | nil => rfl
  | cons deed rest ih =>
    obtain ⟨first, others⟩ := List.forall_mem_cons.1 still
    rw [travels, first, ih others, Int.add_zero]

/-- A command to some registers steps each as often as it is among them. -/
theorem travels_writes (registers : List UInt32) (command : UInt32) :
    travels register (registers.map fun address => .write address command) =
      registers.count register * if command = PllManager.increment then 1 else -1 := by
  induction registers with
  | nil => exact (Int.zero_mul _).symm
  | cons address rest ih =>
    rw [List.map_cons, travels, travel, ih, List.count_cons]
    by_cases same : address = register
    · rw [if_pos same, if_pos (beq_iff_eq.2 same)]
      push_cast
      ring
    · rw [if_neg same, if_neg (fun equal => same (beq_iff_eq.1 equal))]
      push_cast
      ring

end Deed

namespace Sequencer

variable {σ ε : Type} {sequencer : Sequencer σ ε} {group register : UInt32}

/-- The slots of a group are run at no register of a clock and not where a FIFO is moved on. -/
structure Houses (sequencer : Sequencer σ ε) (group : UInt32) : Prop where
  clocks : ∀ index : UInt32, index.toNat < sequencer.virtualGroups.toNat →
    Apart (sequencer.runRegister (runBase false) group index).toNat 1
      sequencer.config.layout.pllManager.toNat PllManager.window
  fifo : ∀ index : UInt32, index.toNat < sequencer.virtualGroups.toNat →
    sequencer.runRegister (runBase false) group index ≠
      sequencer.config.layout.phyManager + PhyManager.incrementVfifo

/-- Slots inside the window in which they are run lie so. -/
theorem houses_of_few (separates : sequencer.config.layout.Separates) (three : group ≤ 2)
    (few : sequencer.virtualGroups.toNat ≤ 64) : sequencer.Houses group := by
  have ends := separates.phy
  have phyRw := separates.phyRw
  have rwPll := separates.rwPll
  have advance := PhyManager.toNat_incrementVfifo
  have base : (runBase false).toNat = 0 := by decide
  simp only [Apart, PhyManager.window, RwManager.window, PllManager.window] at ends phyRw rwPll
  constructor <;> intro index inside <;>
    obtain ⟨_, place, slots⟩ := runRegister?_of_few separates.toFits three few inside false
  · rw [place, Apart, PllManager.window]
    omega
  · intro same
    rw [same, UInt32.toNat_add] at place
    omega

/-- Writes outside the registers of the capture clocks step none of them. -/
theorem write_still (clocks : sequencer.config.layout.Clocks register) {address : UInt32}
    (outside : Apart address.toNat 1 sequencer.config.layout.pllManager.toNat PllManager.window)
    (value : UInt32) : (Deed.write address value).travel register = 0 := by
  have low := clocks.low
  have high := clocks.high
  rw [Apart] at outside
  refine if_neg fun same => ?_
  rw [same] at outside
  omega

section Apart

variable (separates : sequencer.config.layout.Separates)
  (clocks : sequencer.config.layout.Clocks register)

include separates clocks

/-- Neither does a plain deed. -/
theorem Plain.still {deed : Deed} (plain : sequencer.Plain deed) : deed.travel register = 0 := by
  have phyPll := separates.phyPll
  have rwPll := separates.rwPll
  simp only [Apart, PhyManager.window, RwManager.window] at phyPll rwPll
  cases plain with
  | log | read => rfl
  | rw value low high =>
    rw [RwManager.window] at high
    exact write_still clocks (by rw [Apart]; omega) value
  | @phy address offset value among place =>
    have offsets := PhyManager.toNat_plain among
    exact write_still clocks (by rw [Apart]; omega) value

/-- Neither does a deed of a read test, where the slots are apart from the clocks. -/
theorem TestDeed.still (houses : sequencer.Houses group) {deed : Deed}
    (test : sequencer.TestDeed group deed) : deed.travel register = 0 := by
  cases test with
  | plain plain => exact plain.still separates clocks
  | @slot index inside => exact write_still clocks (houses.clocks index inside) _

variable (three : group ≤ 2) (houses : sequencer.Houses group)

include three houses

/-- A move steps a register over the bus as far as is said of it. -/
theorem move_travels {move : Move} (sized : sequencer.Sized move) :
    Deed.travels register (sequencer.moveDeeds group move) =
      sequencer.moveTravel group register move := by
  cases move with
  | tested words =>
    exact Deed.travels_eq_zero fun deed among =>
      (testDeeds_test separates.toFits three sized deed among).still separates clocks houses
  | advanced =>
    have ends := separates.phy
    have phyPll := separates.phyPll
    have advance := PhyManager.toNat_incrementVfifo
    simp only [Apart, PhyManager.window] at ends phyPll
    have place : (sequencer.config.layout.phyManager + PhyManager.incrementVfifo).toNat =
        sequencer.config.layout.phyManager.toNat + 4 := by
      rw [UInt32.toNat_add]
      omega
    exact Deed.travels_eq_zero
      (List.forall_mem_singleton.2 (write_still clocks (by rw [Apart]; omega) group))
  | up =>
    rw [moveDeeds, clockDeeds_eq, Deed.travels_writes, if_pos rfl, Int.mul_one, moveTravel]
  | down =>
    rw [moveDeeds, clockDeeds_eq, Deed.travels_writes, if_neg (by decide), moveTravel]
    ring
  | noted record => rfl

/-- So do moves. -/
theorem moves_travels {moves : List Move} (sized : ∀ move ∈ moves, sequencer.Sized move) :
    Deed.travels register (moves.flatMap (sequencer.moveDeeds group)) =
      sequencer.travel group register moves := by
  induction moves with
  | nil => rfl
  | cons move rest ih =>
    obtain ⟨first, others⟩ := List.forall_mem_cons.1 sized
    rw [List.flatMap_cons, Deed.travels_append, move_travels separates clocks three houses first,
      ih others, travel]

end Apart

end Sequencer

namespace Phy

open Sequencer

variable {ε : Type} {sequencer : Sequencer Phy ε} {register : UInt32} {phy next : Phy}

/-- The net steps of a register. -/
def phase (phy : Phy) (register : UInt32) : Int := phy.phases.getD register.toNat 0

/-- A write steps the register that it goes to. -/
theorem afterWrite_phase (clocks : phy.layout.Clocks register) (address value : UInt32) :
    (phy.afterWrite address value).phase register =
      phy.phase register + (Deed.write address value).travel register := by
  have low := clocks.low
  have high := clocks.high
  rw [PllManager.window] at high
  simp only [afterWrite]
  split
  · rw [phase, stepClock, Std.TreeMap.getD_insert, Deed.travel]
    by_cases same : address = register
    · subst same
      rw [if_pos (Std.compare_eq_iff_eq.2 rfl), if_pos rfl]
      show (if value = PllManager.increment then _ else _) = _
      split <;> rfl
    · have numbers : address.toNat ≠ register.toNat := fun equal => same (UInt32.toNat_inj.1 equal)
      rw [if_neg (fun equal => numbers (Std.compare_eq_iff_eq.1 equal)), if_neg same, Int.add_zero]
      rfl
  · next outside =>
    have other : address ≠ register := by
      rintro rfl
      exact outside ⟨low, by omega⟩
    rw [Deed.travel, if_neg other, Int.add_zero]
    split
    · rfl
    · split <;> rfl

/-- A write moves no manager. -/
theorem afterWrite_layout (phy : Phy) (address value : UInt32) :
    (phy.afterWrite address value).layout = phy.layout := by
  simp only [afterWrite]
  split
  · rfl
  · split
    · rfl
    · split <;> rfl

/-- The PHY keeps the places of its managers and counts some steps of a register. -/
structure Counts (layout : Layout) (register : UInt32) (phy : Phy) (steps : Int) (next : Phy) :
    Prop where
  before : phy.layout = layout
  after : next.layout = layout
  phase : next.phase register = phy.phase register + steps

namespace Counts

variable {layout : Layout} {middle : Phy} {steps others : Int}

/-- Where nothing happens no step is counted. -/
theorem refl (here : phy.layout = layout) : Counts layout register phy 0 phy :=
  ⟨here, here, (Int.add_zero _).symm⟩

/-- Steps and then steps. -/
theorem trans (first : Counts layout register phy steps middle)
    (second : Counts layout register middle others next) :
    Counts layout register phy (steps + others) next :=
  ⟨first.before, second.after, by rw [second.phase, first.phase, Int.add_assoc]⟩

end Counts

section Counting

variable (onBus : sequencer.bus = Phy.bus) (onLog : sequencer.log = Logger.silent)
  (clocks : sequencer.config.layout.Clocks register)

include onBus onLog clocks

/-- What is done to the PHY steps a register as far as is said of the deed. -/
theorem step_counted {deed : Deed} (here : phy.layout = sequencer.config.layout)
    (taken : sequencer.Step phy deed next) :
    Counts sequencer.config.layout register phy (deed.travel register) next := by
  cases deed with
  | read address value =>
    have read : (Phy.bus : Bus Phy ε).read address phy = .ok value next := onBus ▸ taken
    simp only [Phy.bus] at read
    split at read
    · split at read <;> cases read <;> exact ⟨here, here, (Int.add_zero _).symm⟩
    · split at read <;> cases read <;> exact ⟨here, here, (Int.add_zero _).symm⟩
  | write address value =>
    have wrote : (Phy.bus : Bus Phy ε).write address value phy = .ok () next := onBus ▸ taken
    cases wrote
    exact ⟨here, (phy.afterWrite_layout address value).trans here,
      afterWrite_phase (here ▸ clocks) address value⟩
  | log record =>
    have logged : (Logger.silent : Logger Phy ε) record phy = .ok () next := onLog ▸ taken
    cases logged
    exact .refl here

/-- So do deeds. -/
theorem trace_counted {deeds : List Deed} (here : phy.layout = sequencer.config.layout)
    (trace : Trace sequencer.Step phy deeds next) :
    Counts sequencer.config.layout register phy (Deed.travels register deeds) next := by
  induction trace with
  | done => exact .refl here
  | next taken _ ih =>
    have first := step_counted onBus onLog clocks here taken
    exact first.trans (ih first.after)

/-- Where all is plain no step is counted. -/
theorem plain_counted (separates : sequencer.config.layout.Separates) {before after : Progress Phy}
    (here : before.device.layout = sequencer.config.layout)
    (plain : sequencer.PlainRun before after) :
    Counts sequencer.config.layout register before.device 0 after.device := by
  obtain ⟨deeds, trace, plain⟩ := plain.trace
  have counts := trace_counted onBus onLog clocks here trace
  rw [Deed.travels_eq_zero fun deed among => (plain deed among).still separates clocks] at counts
  exact counts

/-- At the end of some turns the PHY has counted the net phase of every register of a clock. -/
theorem turns_counted (separates : sequencer.config.layout.Separates) {groups : List UInt32}
    (inside : ∀ group ∈ groups, group ≤ 2 ∧ sequencer.Houses group)
    {before after : Progress Phy} {turns : List Turn}
    (here : before.device.layout = sequencer.config.layout)
    (had : sequencer.Turns groups before turns after) :
    Counts sequencer.config.layout register before.device (sequencer.netPhase register turns)
      after.device := by
  induction had with
  | done => exact .refl here
  | next _ searches leads _ ih =>
    obtain ⟨⟨three, houses⟩, others⟩ := List.forall_mem_cons.1 inside
    have own := trace_counted onBus onLog clocks here leads
    rw [moves_travels separates clocks three houses searches.sized] at own
    exact own.trans (ih others own.after)

/-- So it has where patterns were loaded before. -/
theorem calibration_counted (separates : sequencer.config.layout.Separates) {groups : List UInt32}
    (inside : ∀ group ∈ groups, group ≤ 2 ∧ sequencer.Houses group)
    {before loaded after : Progress Phy} {turns : List Turn}
    (here : before.device.layout = sequencer.config.layout)
    (loads : sequencer.loadReadPatterns before = .ok () loaded)
    (had : sequencer.Turns groups loaded turns after) :
    after.device.phase register =
      before.device.phase register + sequencer.netPhase register turns := by
  have plain := plain_counted onBus onLog clocks separates here
    (sequencer.loadReadPatterns_chore.plain loads)
  have turned := turns_counted onBus onLog clocks separates inside plain.after had
  rw [(plain.trans turned).phase, Int.zero_add]

end Counting

/-- The phase of a register of a PHY once a procedure has ended on it. -/
def phaseAfter {α : Type} (procedure : Procedure Phy Empty α) (phy : Phy) (register : UInt32) :
    Option Int :=
  match procedure ⟨.initial, phy⟩ with
  | .ok _ after => some (after.device.phase register)
  | .error _ _ => none

/-- A procedure after which there is a phase has ended. -/
theorem ended_of_phaseAfter {α : Type} {procedure : Procedure Phy Empty α} {phy : Phy}
    {register : UInt32} {steps : Int} (phase : phaseAfter procedure phy register = some steps) :
    ∃ value after, procedure ⟨.initial, phy⟩ = .ok value after ∧
      after.device.phase register = steps := by
  rw [phaseAfter] at phase
  split at phase
  · next value after ran => exact ⟨value, after, ran, Option.some.inj phase⟩
  · cases phase

/-- After a search behind the loading of patterns there is the phase that the search left. -/
theorem phaseAfter_search {sequencer : Sequencer Phy Empty} {group register : UInt32} {phy : Phy}
    {loaded middle : Progress Phy} {found : Bool}
    (loads : sequencer.loadReadPatterns ⟨.initial, phy⟩ = .ok () loaded)
    (search : sequencer.findDqsEnablePhase group loaded = .ok found middle) :
    phaseAfter (do
      sequencer.loadReadPatterns
      sequencer.findDqsEnablePhase group) phy register = some (middle.device.phase register) := by
  rw [phaseAfter, Action.bind_ok loads, search]

end Phy

end Bringup.Calibration
