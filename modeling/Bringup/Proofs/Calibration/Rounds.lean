import Bringup.Proofs.Calibration.Ownership
import Bringup.Proofs.Calibration.Search
import Mathlib.Data.List.Zip
/-!
# Calibrating group after group

The groups of a layout are searched one after the other, also after a failure (`Rounds`). Every deed
of a search is plain, runs a slot of the group, steps the group's FIFO or steps its clocks
(`SearchDeed`). The status names the last group that failed, and says that nothing did when every
search succeeded (`Rounds.status`).
-/

namespace Bringup.Calibration.Sequencer

variable {σ ε : Type} {sequencer : Sequencer σ ε} {group : UInt32}

/-- A deed of the search for a group. -/
inductive SearchDeed (sequencer : Sequencer σ ε) (group : UInt32) : Deed → Prop where
  | plain {deed : Deed} : sequencer.Plain deed → SearchDeed sequencer group deed
  | slot {index : UInt32} : index.toNat < sequencer.virtualGroups.toNat →
    SearchDeed sequencer group (.write (sequencer.runRegister (runBase false) group index)
      (sequencer.entry .readBackToBack))
  | advance {address : UInt32} :
    address.toNat =
      sequencer.config.layout.phyManager.toNat + PhyManager.incrementVfifo.toNat →
    SearchDeed sequencer group (.write address group)
  | clock {address command : UInt32} :
    address.toNat =
      sequencer.config.layout.pllManager.toNat + 4 * (captureClock group).toNat →
    command = PllManager.increment ∨ command = PllManager.decrement →
    SearchDeed sequencer group (.write address command)
  | beside {address command : UInt32} : sequencer.config.protocol = .lpddr2 →
    address.toNat =
      sequencer.config.layout.pllManager.toNat + (captureClock group).toNat + 4 →
    command = PllManager.increment ∨ command = PllManager.decrement →
    SearchDeed sequencer group (.write address command)

/-- A deed of a read test of a group. -/
inductive TestDeed (sequencer : Sequencer σ ε) (group : UInt32) : Deed → Prop where
  | plain {deed : Deed} : sequencer.Plain deed → TestDeed sequencer group deed
  | slot {index : UInt32} : index.toNat < sequencer.virtualGroups.toNat →
    TestDeed sequencer group (.write (sequencer.runRegister (runBase false) group index)
      (sequencer.entry .readBackToBack))

/-- The search for a group tests it. -/
theorem TestDeed.search {deed : Deed} (test : sequencer.TestDeed group deed) :
    sequencer.SearchDeed group deed := by
  cases test with
  | plain plain => exact .plain plain
  | slot inside => exact .slot inside

/-- A test among the moves read one error word for each virtual group. -/
def Sized (sequencer : Sequencer σ ε) : Move → Prop
  | .tested words => words.length = sequencer.virtualGroups.toNat
  | _ => True

/-- Trying positions is made of such moves. -/
theorem Tries.sized {positions : Nat} {moves : List Move} {found : Bool}
    (tries : sequencer.Tries positions moves found) : ∀ move ∈ moves, sequencer.Sized move := by
  induction tries with
  | exhausted => exact fun move member => absurd member List.not_mem_nil
  | works verdict => exact List.forall_mem_singleton.2 verdict.1
  | advances verdict _ ih =>
    exact List.forall_mem_cons.2 ⟨verdict.1, List.forall_mem_cons.2 ⟨trivial, ih⟩⟩

/-- So is finding a position. -/
theorem Finds.sized {rounds steps : Nat} {moves : List Move} {found : Option Nat}
    (finds : sequencer.Finds rounds steps moves found) : ∀ move ∈ moves, sequencer.Sized move := by
  induction finds with
  | exhausted => exact fun move member => absurd member List.not_mem_nil
  | works tries => exact tries.sized
  | goesOn tries _ ih =>
    exact List.forall_mem_append.2 ⟨tries.sized, List.forall_mem_cons.2 ⟨trivial, ih⟩⟩

/-- So is a sweep. -/
theorem Sweeps.sized {step : Move} {rounds steps : Nat} {moves : List Move} {found : Option Nat}
    (sweeps : sequencer.Sweeps step rounds steps moves found) (stepped : sequencer.Sized step) :
    ∀ move ∈ moves, sequencer.Sized move := by
  induction sweeps with
  | exhausted => exact fun move member => absurd member List.not_mem_nil
  | fails verdict => exact List.forall_mem_cons.2 ⟨stepped, List.forall_mem_singleton.2 verdict.1⟩
  | goesOn verdict _ ih =>
    exact List.forall_mem_cons.2 ⟨stepped, List.forall_mem_cons.2 ⟨verdict.1, ih⟩⟩

/-- So is a whole search. -/
theorem Searches.sized {moves : List Move} {failure : Option Substage}
    (searches : sequencer.Searches group moves failure) :
    ∀ move ∈ moves, sequencer.Sized move := by
  have noted (record : LogRecord) : ∀ move ∈ [Move.noted record], sequencer.Sized move :=
    List.forall_mem_singleton.2 trivial
  cases searches with
  | nowhere finds => exact List.forall_mem_append.2 ⟨finds.sized, noted _⟩
  | noLowerEdge finds lower =>
    exact List.forall_mem_append.2 ⟨finds.sized, List.forall_mem_cons.2 ⟨trivial,
      List.forall_mem_append.2 ⟨lower.sized trivial, noted _⟩⟩⟩
  | noUpperEdge finds lower upper =>
    exact List.forall_mem_append.2 ⟨finds.sized, List.forall_mem_cons.2 ⟨trivial,
      List.forall_mem_append.2 ⟨lower.sized trivial,
        List.forall_mem_append.2 ⟨upper.sized trivial, noted _⟩⟩⟩⟩
  | centered finds lower upper =>
    refine List.forall_mem_append.2 ⟨finds.sized, List.forall_mem_cons.2 ⟨trivial,
      List.forall_mem_append.2 ⟨lower.sized trivial,
        List.forall_mem_append.2 ⟨upper.sized trivial,
          List.forall_mem_append.2 ⟨?_, noted _⟩⟩⟩⟩⟩
    intro move member
    rw [List.eq_of_mem_replicate member]
    exact trivial

/-- The search of a group fails to find a position or to center. -/
theorem Searches.substage {moves : List Move} {substage : Substage}
    (searches : sequencer.Searches group moves (some substage)) :
    substage = .dqsEnablePhase ∨ substage = .vfifoCenter := by
  cases searches with
  | nowhere => exact .inl rfl
  | noLowerEdge | noUpperEdge => exact .inr rfl

section Deeds

variable (fits : sequencer.config.layout.Fits)

include fits

/-- A write inside the window of the read-write manager is plain. -/
theorem rw_plain (offset value : UInt32) (inside : offset.toNat < RwManager.window) :
    sequencer.Plain (.write (sequencer.config.layout.rwManager + offset) value) := by
  have ends := fits.rw
  have sum : (sequencer.config.layout.rwManager + offset).toNat =
      sequencer.config.layout.rwManager.toNat + offset.toNat := by
    rw [UInt32.toNat_add]
    omega
  exact .rw value (by omega) (by omega)

/-- Setting a loop counter and its jump target is plain. -/
theorem load_plain (counter : LoopCounter) (count : UInt32) (target : RomProgram) :
    ∀ deed ∈ sequencer.loadDeeds counter count target, sequencer.Plain deed := by
  rw [loadDeeds, List.forall_mem_cons, List.forall_mem_singleton]
  exact ⟨rw_plain fits _ _ (counter_lt counter), rw_plain fits _ _ (jump_lt counter)⟩

/-- Reading a virtual group runs its slot. -/
theorem slotDeeds_test {index : Nat} (inside : index < sequencer.virtualGroups.toNat)
    (errors : UInt32) :
    ∀ deed ∈ sequencer.slotDeeds (runBase false) group (UInt32.ofNat index) errors,
      sequencer.TestDeed group deed := by
  have ends := fits.phy
  have reset : PhyManager.fifoReset.toNat = 8 := by decide
  rw [PhyManager.window] at ends
  have fifo : (sequencer.config.layout.phyManager + PhyManager.fifoReset).toNat =
      sequencer.config.layout.phyManager.toNat + PhyManager.fifoReset.toNat := by
    rw [UInt32.toNat_add]
    omega
  have most := sequencer.virtualGroups.toNat_lt
  have number : (UInt32.ofNat index).toNat = index :=
    UInt32.toNat_ofNat_of_lt' (by rw [UInt32.size]; omega)
  simp only [slotDeeds, List.forall_mem_cons, List.not_mem_nil, false_implies, implies_true,
    and_true]
  exact ⟨.plain (.phy 0 (by decide) fifo), .plain (rw_plain fits _ 0 (by decide)),
    .slot (by rwa [number]), .plain (.read _ errors)⟩

/-- Reading virtual groups runs their slots. -/
theorem groupDeeds_test {words : List UInt32}
    (enough : words.length ≤ sequencer.virtualGroups.toNat) :
    ∀ deed ∈ sequencer.groupDeeds (runBase false) group words,
      sequencer.TestDeed group deed := by
  induction words with
  | nil => exact fun deed member => absurd member List.not_mem_nil
  | cons errors rest ih =>
    rw [List.length_cons] at enough
    exact List.forall_mem_append.2 ⟨slotDeeds_test fits enough errors, ih (by omega)⟩

variable (three : group ≤ 2)

include three

/-- A read test sets the loop counters, reads the virtual groups and clears. -/
theorem testDeeds_test {words : List UInt32}
    (length : words.length = sequencer.virtualGroups.toNat) :
    ∀ deed ∈ sequencer.testDeeds group false 0 words, sequencer.TestDeed group deed := by
  have plain (counter : LoopCounter) (count : UInt32) (target : RomProgram) :
      ∀ deed ∈ sequencer.loadDeeds counter count target, sequencer.TestDeed group deed :=
    fun deed member => .plain (load_plain fits counter count target deed member)
  simp only [testDeeds, setupDeeds, List.forall_mem_append, List.forall_mem_singleton]
  exact ⟨⟨⟨⟨⟨plain _ _ _, plain _ _ _⟩, plain _ _ _⟩, plain _ _ _⟩,
    groupDeeds_test fits (Nat.le_of_eq length)⟩,
    .plain (rw_plain fits _ _ (clear_lt three))⟩

/-- Stepping the group's clock steps nothing but its clocks. -/
theorem clockDeeds_search {command : UInt32}
    (known : command = PllManager.increment ∨ command = PllManager.decrement) :
    ∀ deed ∈ sequencer.clockDeeds group command, sequencer.SearchDeed group deed := by
  have clock := captureClock_le three
  have ends := fits.pll
  have four : (4 : UInt32).toNat = 4 := rfl
  rw [PllManager.window] at ends
  have beside : (sequencer.config.layout.pllManager + captureClock group + 4).toNat =
      sequencer.config.layout.pllManager.toNat + (captureClock group).toNat + 4 := by
    rw [UInt32.toNat_add, UInt32.toNat_add]
    omega
  rw [clockDeeds, List.forall_mem_cons]
  refine ⟨.clock (toNat_clockRegister fits three).1 known, ?_⟩
  split
  · next double => exact List.forall_mem_singleton.2 (.beside double beside known)
  · exact fun deed member => absurd member List.not_mem_nil

/-- What a move does. -/
theorem moveDeeds_search {move : Move} (sized : sequencer.Sized move) :
    ∀ deed ∈ sequencer.moveDeeds group move, sequencer.SearchDeed group deed := by
  cases move with
  | tested words => exact fun deed member => (testDeeds_test fits three sized deed member).search
  | advanced =>
    have ends := fits.phy
    have advance := PhyManager.toNat_incrementVfifo
    rw [PhyManager.window] at ends
    refine List.forall_mem_singleton.2 (.advance ?_)
    rw [UInt32.toNat_add]
    omega
  | up => exact clockDeeds_search fits three (.inl rfl)
  | down => exact clockDeeds_search fits three (.inr rfl)
  | noted record => exact List.forall_mem_singleton.2 (.plain (.log record))

/-- What a search does. -/
theorem Searches.deeds {moves : List Move} {failure : Option Substage}
    (searches : sequencer.Searches group moves failure) :
    ∀ deed ∈ moves.flatMap (sequencer.moveDeeds group), sequencer.SearchDeed group deed := by
  intro deed member
  obtain ⟨move, among, done⟩ := List.mem_flatMap.1 member
  exact moveDeeds_search fits three (searches.sized move among) deed done

end Deeds

/-- Searching groups in order is what the calibration of the groups does. -/
theorem calibrateGroups_eq (groups : List UInt32) :
    sequencer.calibrateGroups groups =
      (fun results => results.all id) <$> groups.mapM sequencer.findDqsEnablePhase := by
  induction groups with
  | nil => rfl
  | cons group rest ih =>
    rw [calibrateGroups, ih, List.mapM_cons]
    simp only [map_bind, map_pure, bind_map_left, List.all_cons, id]

/-- A calibration searches the groups of the layout in order, whatever comes of each, and its result
is whether all searches succeeded. -/
theorem calibrate_eq (sequencer : Sequencer σ ε) :
    sequencer.calibrate = (do
      sequencer.prepare
      let results ← sequencer.config.groups.groups.mapM sequencer.findDqsEnablePhase
      sequencer.conclude (results.all id)
      pure (results.all id)) := by
  simp only [calibrate, calibrateMemory, calibrateVfifo, calibrateGroups_eq, prepare, conclude,
    verdict, bind_assoc, bind_map_left]

/-- The groups are searched one after the other, each from where the search before it ended, and
these are the steps that failed. -/
inductive Rounds (sequencer : Sequencer σ ε) :
    List UInt32 → Progress σ → List (Option Substage) → Progress σ → Prop where
  | done (progress : Progress σ) : Rounds sequencer [] progress [] progress
  | next {group : UInt32} {rest : List UInt32} {before after : Progress σ} {moves : List Move}
      {failure : Option Substage} {failures : List (Option Substage)} {middle : σ} :
    sequencer.Searches group moves failure →
    Trace sequencer.Step before.device (moves.flatMap (sequencer.moveDeeds group)) middle →
    Rounds sequencer rest ⟨statusAfter before.status group failure, middle⟩ failures after →
    Rounds sequencer (group :: rest) before (failure :: failures) after

/-- Whatever the bus answers, all groups are searched. -/
theorem mapM_rounds (answers : sequencer.Answers) (divided : sequencer.virtualGroups ≠ 0)
    {groups : List UInt32} (reaches : ∀ group ∈ groups, sequencer.Reaches group)
    (before : Progress σ) :
    ∃ failures after, sequencer.Rounds groups before failures after ∧
      groups.mapM sequencer.findDqsEnablePhase before =
        .ok (failures.map Option.isNone) after := by
  induction groups generalizing before with
  | nil => exact ⟨[], before, .done before, rfl⟩
  | cons group rest ih =>
    obtain ⟨first, others⟩ := List.forall_mem_cons.1 reaches
    obtain ⟨moves, failure, middle, searches, concludes⟩ :=
      findDqsEnablePhase_concludes answers first divided before.device
    obtain ⟨failures, after, rounds, ran⟩ :=
      ih others ⟨statusAfter before.status group failure, middle⟩
    refine ⟨failure :: failures, after, .next searches concludes.trace rounds, ?_⟩
    rw [List.mapM_cons, Action.bind_ok (concludes.runs before.status), Action.bind_ok ran]
    rfl

namespace Rounds

variable {groups : List UInt32} {failures : List (Option Substage)} {before after : Progress σ}

/-- Every group is searched. -/
theorem length_eq (rounds : sequencer.Rounds groups before failures after) :
    failures.length = groups.length := by
  induction rounds with
  | done => rfl
  | next _ _ _ ih => rw [List.length_cons, List.length_cons, ih]

/-- Where every search succeeds the status is as before. -/
theorem status_eq (rounds : sequencer.Rounds groups before failures after)
    (success : failures.all Option.isNone = true) : after.status = before.status := by
  induction rounds with
  | done => rfl
  | @next _ _ _ _ _ failure _ _ _ _ _ ih =>
    rw [List.all_cons, Bool.and_eq_true, Option.isNone_iff_eq_none] at success
    obtain ⟨rfl, others⟩ := success
    exact ih others

/-- Where a search fails the status names the last group that failed, and the step. -/
theorem status_failed (rounds : sequencer.Rounds groups before failures after)
    (failed : failures.all Option.isNone = false) :
    ∃ earlier later group substage,
      groups.zip failures = earlier ++ (group, some substage) :: later ∧
      (∀ entry ∈ later, entry.2 = none) ∧
      (substage = .dqsEnablePhase ∨ substage = .vfifoCenter) ∧
      after.status = { before.status with stage := .vfifo, substage, group } := by
  induction rounds with
  | done => exact absurd failed (by decide)
  | @next group rest before after moves failure failures middle searches _ rounds ih =>
    by_cases others : failures.all Option.isNone = true
    · rw [List.all_cons, others, Bool.and_true, Option.isNone_eq_false_iff,
        Option.isSome_iff_exists] at failed
      obtain ⟨substage, rfl⟩ := failed
      refine ⟨[], rest.zip failures, group, substage, rfl, ?_, searches.substage,
        rounds.status_eq others⟩
      intro entry member
      have among := (List.of_mem_zip member).2
      exact Option.isNone_iff_eq_none.1 (List.all_eq_true.1 others _ among)
    · obtain ⟨earlier, later, last, substage, split, passed, step, same⟩ :=
        ih (Bool.eq_false_iff.2 others)
      refine ⟨(group, failure) :: earlier, later, last, substage, ?_, passed, step, ?_⟩
      · rw [List.zip_cons_cons, split]
        rfl
      · rw [same]
        cases failure <;> rfl

end Rounds

end Bringup.Calibration.Sequencer
