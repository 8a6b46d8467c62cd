import Bringup.Proofs.Calibration.Centering
import Bringup.Proofs.Calibration.CountedPhases
import Bringup.Proofs.Calibration.Handover
/-!
# What bounds the phase search

No bus can keep the search for a group going. Each of its loops makes at most so many tests, and
what it steps is the number of its rounds; this holds of every run of the relations that the search
follows (`Finds.exhausted_counts`, `Finds.found_counts`, `Sweeps.counts`), whatever was read. Main
statement: every search ends within these bounds, the status that it leaves says which loop came to
its limit, and the clock is displaced by the steps of the loops that ran
(`findDqsEnablePhase_bounded`).
-/

namespace Bringup.Calibration

namespace Move

/-- The error words of the tests among some moves, in order. -/
def tests : List Move → List (List UInt32)
  | [] => []
  | .tested words :: rest => words :: tests rest
  | .advanced :: rest | .up :: rest | .down :: rest | .noted _ :: rest => tests rest

/-- The steps up among some moves less the steps down. -/
def netSteps (moves : List Move) : Int := moves.count .up - moves.count .down

/-- The tests of moves in sequence. -/
@[simp] theorem tests_append (first second : List Move) :
    tests (first ++ second) = tests first ++ tests second := by
  induction first with
  | nil => rfl
  | cons move rest ih => cases move <;> simp [tests, ih]

/-- The tests among moves are those that were made. -/
theorem mem_tests {words : List UInt32} {moves : List Move} :
    words ∈ tests moves ↔ .tested words ∈ moves := by
  induction moves with
  | nil => simp [tests]
  | cons move rest ih => cases move <;> simp [tests, ih]

/-- Going back tests nothing. -/
@[simp] theorem tests_replicate_down (steps : Nat) : tests (List.replicate steps .down) = [] := by
  induction steps with
  | zero => rfl
  | succ steps ih => simp [List.replicate_succ, tests, ih]

/-- The net steps of moves in sequence. -/
theorem netSteps_append (first second : List Move) :
    netSteps (first ++ second) = netSteps first + netSteps second := by
  simp only [netSteps, List.count_append]
  omega

end Move

open Move (tests netSteps tests_append)

namespace Sequencer

variable {σ ε : Type} {sequencer : Sequencer σ ε} {group register : UInt32}
  {moves : List Move} {positions rounds steps : Nat}

/-- In all these tests some bit read badly. -/
def AllFailed (sequencer : Sequencer σ ε) (tried : List (List UInt32)) : Prop :=
  ∀ words ∈ tried, sequencer.passes true words = false

/-- Trying positions steps no clock and tests each position at most once. -/
theorem Tries.counts {found : Bool} (tries : sequencer.Tries positions moves found) :
    moves.count .up = 0 ∧ moves.count .down = 0 ∧ (tests moves).length ≤ positions := by
  induction tries with
  | exhausted => simp [tests]
  | works => simp [tests]
  | advances _ _ ih => simpa [tests] using ih

/-- Where no position works, each was tested, and every test failed. -/
theorem Tries.exhausted_counts (tries : sequencer.Tries positions moves false) :
    (tests moves).length = positions ∧ sequencer.AllFailed (tests moves) := by
  generalize outcome : false = found at tries
  induction tries with
  | exhausted => simp [tests, AllFailed]
  | works => cases outcome
  | advances verdict _ ih =>
    obtain ⟨length, failed⟩ := ih outcome
    have first := verdict.2
    simp only [AllFailed] at failed
    simp only [tests, AllFailed, List.length_cons, List.forall_mem_cons]
    exact ⟨by omega, first, failed⟩

/-- Where a position works, one of the tests did not fail. -/
theorem Tries.not_allFailed (tries : sequencer.Tries positions moves true) :
    ¬ sequencer.AllFailed (tests moves) := by
  generalize outcome : true = found at tries
  induction tries with
  | exhausted => cases outcome
  | works verdict =>
    intro failed
    have first := failed _ List.mem_cons_self
    rw [verdict.2] at first
    cases first
  | advances _ _ ih =>
    intro failed
    apply ih outcome
    exact (List.forall_mem_cons.1 failed).2

/-- Looking for a position steps up only, and never makes more tests than there are positions in
the phases that it tries. -/
theorem Finds.counts {found : Option Nat} (finds : sequencer.Finds rounds steps moves found) :
    moves.count .down = 0 ∧ (tests moves).length ≤ vfifoPositions * rounds := by
  induction finds with
  | exhausted => simp [tests]
  | works tries =>
    have ⟨_, downs, few⟩ := tries.counts
    have more := Nat.mul_succ vfifoPositions
    exact ⟨downs, by rw [more]; omega⟩
  | goesOn tries _ ih =>
    have ⟨_, downs, few⟩ := tries.counts
    have more := Nat.mul_succ vfifoPositions
    simp only [tests_append, tests, List.count_append, List.length_append, more]
    simp
    omega

/-- Where nothing is found, every position was tested in every phase, every test failed, and the
clock was stepped up once in each phase. -/
theorem Finds.exhausted_counts (finds : sequencer.Finds rounds steps moves none) :
    moves.count .up = rounds ∧ (tests moves).length = vfifoPositions * rounds ∧
      sequencer.AllFailed (tests moves) := by
  generalize outcome : none = found at finds
  induction finds with
  | exhausted => simp [tests, AllFailed]
  | works => cases outcome
  | goesOn tries _ ih =>
    obtain ⟨ups, length, failed⟩ := ih outcome
    obtain ⟨still, _, _⟩ := tries.counts
    obtain ⟨each, first⟩ := tries.exhausted_counts
    have more := Nat.mul_succ vfifoPositions
    simp only [AllFailed] at failed first
    simp only [tests_append, tests, AllFailed, List.forall_mem_append, List.length_append, more]
    refine ⟨by simp; omega, by omega, first, failed⟩

/-- Where a position is found, the clock was stepped up once in each phase before, and one of the
tests did not fail. -/
theorem Finds.found_counts {total : Nat} (finds : sequencer.Finds rounds steps moves (some total)) :
    moves.count .up < rounds ∧ total = steps + moves.count .up ∧
      ¬ sequencer.AllFailed (tests moves) := by
  generalize outcome : some total = found at finds
  induction finds with
  | exhausted => cases outcome
  | works tries =>
    obtain ⟨still, _, _⟩ := tries.counts
    cases outcome
    exact ⟨by omega, by omega, tries.not_allFailed⟩
  | goesOn tries _ ih =>
    obtain ⟨ups, sum, passed⟩ := ih outcome
    obtain ⟨still, _, _⟩ := tries.counts
    refine ⟨by simp; omega, by simp; omega, ?_⟩
    intro failed
    apply passed
    intro words among
    apply failed words
    rw [tests_append]
    exact List.mem_append_right _ among

/-- A sweep makes one test after each step, and no more steps than it has rounds. Where it finds an
edge it made at least one, and the edge is as far away as it stepped. -/
theorem Sweeps.counts {step : Move} {found : Option Nat}
    (sweeps : sequencer.Sweeps step rounds steps moves found) (way : step = .up ∨ step = .down) :
    (tests moves).length = moves.count step ∧ moves.count step ≤ rounds ∧
      ∀ total, found = some total → 1 ≤ moves.count step ∧ total = steps + moves.count step := by
  have tests_step (rest : List Move) : tests (step :: rest) = tests rest := by
    rcases way with rfl | rfl <;> rfl
  have tested_ne (words : List UInt32) : Move.tested words ≠ step := by
    rcases way with rfl | rfl <;> simp
  induction sweeps with
  | exhausted => simp [tests]
  | fails => simp [tests_step, tests, tested_ne]
  | goesOn _ _ ih =>
    obtain ⟨each, few, edge⟩ := ih
    simp only [tests_step, tests, List.count_cons_self, List.count_cons_of_ne (tested_ne _),
      List.length_cons]
    refine ⟨by omega, by omega, fun total equal => ?_⟩
    have ⟨_, sum⟩ := edge total equal
    omega

/-- A sweep steps one way. -/
theorem Sweeps.count_other {step other : Move} {found : Option Nat}
    (sweeps : sequencer.Sweeps step rounds steps moves found) (apart : step ≠ other)
    (untested : ∀ words, Move.tested words ≠ other) : moves.count other = 0 := by
  induction sweeps with
  | exhausted => rfl
  | fails => simp [apart, untested]
  | goesOn _ _ ih => simp [apart, untested, ih]

section Clocks

variable (fits : sequencer.config.layout.Fits) (three : group ≤ 2)

include fits three

/-- Where the second register that a step writes lies. -/
theorem toNat_besideRegister :
    (sequencer.config.layout.pllManager + captureClock group + 4).toNat =
      sequencer.config.layout.pllManager.toNat + (captureClock group).toNat + 4 := by
  have clock := captureClock_le three
  have ends := fits.pll
  have four : (4 : UInt32).toNat = 4 := rfl
  rw [PllManager.window] at ends
  rw [UInt32.toNat_add, UInt32.toNat_add]
  omega

/-- A step of a clock writes each of its registers once. -/
theorem count_clockRegisters (inside : register ∈ sequencer.clockRegisters group) :
    (sequencer.clockRegisters group).count register = 1 := by
  have clock := captureClock_le three
  have first := (toNat_clockRegister fits three).1
  have second := toNat_besideRegister fits three
  have apart : sequencer.clockRegister group ≠
      sequencer.config.layout.pllManager + captureClock group + 4 := by
    intro same
    have numbers := congrArg UInt32.toNat same
    omega
  apply List.count_eq_one_of_mem _ inside
  rw [clockRegisters]
  split
  · simp [apart]
  · simp

/-- So each of them travels the net steps. -/
theorem travel_eq_netSteps (inside : register ∈ sequencer.clockRegisters group)
    (moves : List Move) : sequencer.travel group register moves = netSteps moves := by
  have once := count_clockRegisters fits three inside
  induction moves with
  | nil => rfl
  | cons move rest ih =>
    rw [travel, ih]
    cases move <;> simp [moveTravel, netSteps, once] <;> omega

/-- The registers of a clock lie in the window of the clocks. -/
theorem clocks_of_mem (inside : register ∈ sequencer.clockRegisters group) :
    sequencer.config.layout.Clocks register := by
  have clock := captureClock_le three
  have first := (toNat_clockRegister fits three).1
  have second := toNat_besideRegister fits three
  rw [clockRegisters, List.mem_cons] at inside
  rcases inside with rfl | beside
  · exact ⟨by omega, by rw [PllManager.window]; omega⟩
  · split at beside
    · obtain rfl := List.mem_singleton.1 beside
      exact ⟨by omega, by rw [PllManager.window]; omega⟩
    · exact absurd beside List.not_mem_nil

end Clocks

/-- The accesses that moves of the search for a group make. -/
def accessesOf (sequencer : Sequencer σ ε) (group : UInt32) (moves : List Move) : List Access :=
  accesses (moves.flatMap (sequencer.moveDeeds group))

/-- The accesses of moves in sequence. -/
theorem accessesOf_append (first second : List Move) :
    sequencer.accessesOf group (first ++ second) =
      sequencer.accessesOf group first ++ sequencer.accessesOf group second := by
  rw [accessesOf, List.flatMap_append, accesses_append, accessesOf, accessesOf]

/-- Without moves there are no accesses. -/
theorem accessesOf_nil : sequencer.accessesOf group [] = [] := rfl

/-- A log line is no access. -/
theorem accessesOf_noted (record : LogRecord) (moves : List Move) :
    sequencer.accessesOf group (.noted record :: moves) = sequencer.accessesOf group moves := rfl

/-- The values that were read in some accesses, in order. -/
def valuesRead (record : List Access) : List UInt32 :=
  record.filterMap fun
    | .read _ value => some value
    | .write _ _ => none

/-- The values read in deeds in sequence. -/
theorem valuesRead_append (first second : List Deed) :
    valuesRead (accesses (first ++ second)) =
      valuesRead (accesses first) ++ valuesRead (accesses second) := by
  rw [accesses_append, valuesRead, List.filterMap_append, valuesRead, valuesRead]

/-- Reading virtual groups reads their error words and nothing else. -/
theorem valuesRead_groupDeeds (base group : UInt32) (words : List UInt32) :
    valuesRead (accesses (sequencer.groupDeeds base group words)) = words := by
  induction words with
  | nil => rfl
  | cons errors rest ih =>
    rw [groupDeeds, valuesRead_append, ih]
    rfl

/-- Moves read the error words of their tests and nothing else. -/
theorem valuesRead_accessesOf (moves : List Move) :
    valuesRead (sequencer.accessesOf group moves) = (tests moves).flatten := by
  have clock (command : UInt32) :
      valuesRead (accesses (sequencer.clockDeeds group command)) = [] := by
    rw [clockDeeds]
    split <;> rfl
  induction moves with
  | nil => rfl
  | cons move rest ih =>
    rw [accessesOf] at ih
    rw [accessesOf, List.flatMap_cons, valuesRead_append, ih]
    cases move with
    | tested words =>
      rw [moveDeeds, testDeeds, valuesRead_append, valuesRead_append, valuesRead_groupDeeds]
      simp [tests, setupDeeds, loadDeeds, clearDeed, accesses, valuesRead, Deed.access?]
    | up | down => rw [moveDeeds, clock]; rfl
    | advanced | noted => rfl

/-- The moves of a search without its log lines: it looks for a position, steps down to the edge
below, steps up to the edge above, and goes back. -/
structure Parts where
  search : List Move
  lower : List Move
  upper : List Move
  back : List Move

namespace Parts

/-- The parts of a search in order. -/
def whole (parts : Parts) : List Move := parts.search ++ parts.lower ++ parts.upper ++ parts.back

/-- On no bus does a part make more tests and steps than this. -/
structure Bounded (parts : Parts) : Prop where
  search : (tests parts.search).length ≤ 4800 ∧ parts.search.count .down = 0
  lower : (tests parts.lower).length = parts.lower.count .down ∧ parts.lower.count .down ≤ 600 ∧
    parts.lower.count .up = 0
  upper : (tests parts.upper).length = parts.upper.count .up ∧ parts.upper.count .up ≤ 600 ∧
    parts.upper.count .down = 0
  back : tests parts.back = [] ∧ parts.back.count .up = 0

/-- What a search did that failed in this step. -/
structure Fails (sequencer : Sequencer σ ε) (substage : Substage) (parts : Parts) : Prop where
  known : substage = .dqsEnablePhase ∨ substage = .vfifoCenter
  nowhere : substage = .dqsEnablePhase ↔
    (tests parts.search).length = 4800 ∧ sequencer.AllFailed (tests parts.search)
  displaced : substage = .dqsEnablePhase → netSteps parts.whole = 600

/-- What a search did that succeeded: in the end the clock is displaced by the steps of all loops,
half of the last one's taken back. -/
structure Centers (parts : Parts) : Prop where
  search : parts.search.count .up ≤ 599
  lower : 1 ≤ parts.lower.count .down
  upper : 1 ≤ parts.upper.count .up
  displaced : netSteps parts.whole =
    parts.search.count .up - parts.lower.count .down + parts.upper.count .up -
      (parts.upper.count .up / 2 : Nat)

/-- So a search makes at most six thousand tests. -/
theorem Bounded.tests_le {parts : Parts} (bounded : parts.Bounded) :
    (tests parts.whole).length ≤ 6000 := by
  have search := bounded.search
  have lower := bounded.lower
  have upper := bounded.upper
  have back := bounded.back
  simp only [whole, tests_append, List.length_append, back.1, List.length_nil]
  omega

end Parts

section Loops

variable {search lower upper : List Move} {found : Option Nat}

/-- The search for a position, with the limits that it has. -/
theorem Finds.bounded (finds : sequencer.Finds maxPhaseSteps 0 search found) :
    (tests search).length ≤ 4800 ∧ search.count .down = 0 := by
  have ⟨downs, few⟩ := finds.counts
  have product : vfifoPositions * maxPhaseSteps = 4800 := rfl
  exact ⟨by omega, downs⟩

/-- The sweep down, with the limit that it has. -/
theorem Sweeps.lower_bounded (sweeps : sequencer.Sweeps .down maxPhaseSteps 0 lower found) :
    (tests lower).length = lower.count .down ∧ lower.count .down ≤ 600 ∧ lower.count .up = 0 := by
  have ⟨each, few, _⟩ := sweeps.counts (.inr rfl)
  exact ⟨each, few, sweeps.count_other (by simp) (by simp)⟩

/-- The sweep up, with the limit that it has. -/
theorem Sweeps.upper_bounded (sweeps : sequencer.Sweeps .up maxPhaseSteps 0 upper found) :
    (tests upper).length = upper.count .up ∧ upper.count .up ≤ 600 ∧ upper.count .down = 0 := by
  have ⟨each, few, _⟩ := sweeps.counts (.inl rfl)
  exact ⟨each, few, sweeps.count_other (by simp) (by simp)⟩

end Loops

/-- The parts of a search: they are its moves but for log lines, they stay within the bounds, and
how the search ended says what they were. -/
theorem Searches.parts {failure : Option Substage}
    (searches : sequencer.Searches group moves failure) :
    ∃ parts : Parts,
      sequencer.accessesOf group moves = sequencer.accessesOf group parts.whole ∧
      (∀ move ∈ parts.whole, sequencer.Sized move) ∧ parts.Bounded ∧
      match failure with
      | some substage => parts.Fails sequencer substage
      | none => parts.Centers := by
  cases searches with
  | @nowhere search finds =>
    have bounded := finds.bounded
    have ⟨ups, all, failed⟩ := finds.exhausted_counts
    refine ⟨⟨search, [], [], []⟩, ?_, ?_, ?_, .inl rfl, ?_, ?_⟩
    · simp [giveUpLine, Parts.whole, accessesOf_append, accessesOf_noted, accessesOf_nil]
    · simpa [Parts.whole] using finds.sized
    · exact ⟨bounded, by simp [tests], by simp [tests], by simp [tests]⟩
    · simp [all, failed, vfifoPositions, maxPhaseSteps]
    · simp [Parts.whole, netSteps, ups, bounded, maxPhaseSteps]
  | @noLowerEdge search lower _ finds sweepsDown =>
    have ⟨_, _, passed⟩ := finds.found_counts
    refine ⟨⟨search, lower, [], []⟩, ?_, ?_, ?_, .inr rfl, ?_, ?_⟩
    · simp [giveUpLine, foundLine, Parts.whole, accessesOf_append, accessesOf_noted,
        accessesOf_nil]
    · simp only [Parts.whole, List.append_nil, List.forall_mem_append]
      exact ⟨finds.sized, sweepsDown.sized trivial⟩
    · exact ⟨finds.bounded, sweepsDown.lower_bounded, by simp [tests], by simp [tests]⟩
    · simp [passed]
    · simp
  | @noUpperEdge search lower upper _ _ finds sweepsDown sweepsUp =>
    have ⟨_, _, passed⟩ := finds.found_counts
    refine ⟨⟨search, lower, upper, []⟩, ?_, ?_, ?_, .inr rfl, ?_, ?_⟩
    · simp [giveUpLine, foundLine, Parts.whole, accessesOf_append, accessesOf_noted,
        accessesOf_nil]
    · simp only [Parts.whole, List.append_nil, List.forall_mem_append]
      exact ⟨⟨finds.sized, sweepsDown.sized trivial⟩, sweepsUp.sized trivial⟩
    · exact ⟨finds.bounded, sweepsDown.lower_bounded, sweepsUp.upper_bounded, by simp [tests]⟩
    · simp [passed]
    · simp
  | @centered search lower upper _ _ width finds sweepsDown sweepsUp =>
    have searchBounded := finds.bounded
    have lowerBounded := sweepsDown.lower_bounded
    have upperBounded := sweepsUp.upper_bounded
    have ⟨ups, _, _⟩ := finds.found_counts
    have ⟨_, _, lowerEdge⟩ := sweepsDown.counts (.inr rfl)
    have ⟨_, _, upperEdge⟩ := sweepsUp.counts (.inl rfl)
    have ⟨someDown, _⟩ := lowerEdge _ rfl
    have ⟨someUp, wide⟩ := upperEdge _ rfl
    have limit : maxPhaseSteps = 600 := rfl
    refine ⟨⟨search, lower, upper, List.replicate (width / 2) .down⟩, ?_, ?_, ?_, ?_⟩
    · simp [windowLine, foundLine, Parts.whole, accessesOf_append, accessesOf_noted,
        accessesOf_nil]
    · simp only [Parts.whole, List.forall_mem_append]
      refine ⟨⟨⟨finds.sized, sweepsDown.sized trivial⟩, sweepsUp.sized trivial⟩, ?_⟩
      intro move among
      rw [List.eq_of_mem_replicate among]
      exact trivial
    · exact ⟨searchBounded, lowerBounded, upperBounded, Move.tests_replicate_down _,
        by simp [List.count_replicate]⟩
    · have near : search.count .up ≤ 599 := by omega
      refine ⟨near, someDown, someUp, ?_⟩
      simp only [Parts.whole, netSteps, List.count_append, List.count_replicate]
      simp
      omega

/-- No bus keeps the search going, and its verdict is that of the status. Whatever a bus that does
not fail answers, from whatever status: the search for a group ends, and its accesses are those of
four parts that stay within fixed bounds, at most six thousand tests in all, each of which reads one
error word for each virtual group; nothing else is read. Where every register has an address of its
own, the clock registers of the group went as far as the parts step. If the search fails, the
status names the group and the step: no position was found exactly if every test of the first part
failed. If it succeeds, the status is as it was. -/
theorem findDqsEnablePhase_bounded {bus : Bus σ ε} (total : bus.Total) {log : Logger σ ε}
    (logs : ∀ record state, ∃ next, log record state = .ok () next)
    {recorder : Sequencer (σ × Array Access) ε} (onBus : recorder.bus = bus.recording)
    (onLog : recorder.log = log.onPart Part.first) (slotted : recorder.Slotted)
    (three : group ≤ 2) (status : Status) (state : σ) (past : Array Access) :
    ∃ (result : Bool) (after : Status) (next : σ) (parts : Parts),
      recorder.findDqsEnablePhase group ⟨status, state, past⟩ =
        .ok result ⟨after, next, past ++ recorder.accessesOf group parts.whole⟩ ∧
      parts.Bounded ∧ (tests parts.whole).length ≤ 6000 ∧
      valuesRead (recorder.accessesOf group parts.whole) = (tests parts.whole).flatten ∧
      (∀ words ∈ tests parts.whole, words.length = recorder.virtualGroups.toNat) ∧
      (recorder.config.layout.Separates → ∀ register ∈ recorder.clockRegisters group,
        Deed.travels register (parts.whole.flatMap (recorder.moveDeeds group)) =
          netSteps parts.whole) ∧
      (result = false → ∃ substage, parts.Fails recorder substage ∧
        after = { status with stage := .vfifo, substage, group }) ∧
      (result = true → parts.Centers ∧ after = status) := by
  have answers : recorder.Answers := recorder_answers logs onLog total onBus
  obtain ⟨moves, failure, ⟨next, kept⟩, searches, concludes⟩ :=
    findDqsEnablePhase_searches answers slotted three (state, past)
  have recorded := recorder_trace logs onLog total onBus concludes.trace
  obtain ⟨parts, same, sized, bounded, ended⟩ := searches.parts
  obtain rfl : kept = past ++ recorder.accessesOf group parts.whole := by
    rw [← same]
    exact recorded
  refine ⟨_, _, next, parts, concludes.runs status, bounded, bounded.tests_le,
    valuesRead_accessesOf _, ?_, ?_, ?_, ?_⟩
  · intro words among
    exact sized _ (Move.mem_tests.1 among)
  · intro separates register inside
    have clocks := clocks_of_mem slotted.fits three inside
    have houses := houses_of_few separates three slotted.few
    rw [moves_travels separates clocks three houses sized]
    exact travel_eq_netSteps slotted.fits three inside _
  · intro failed
    cases failure with
    | none => cases failed
    | some substage => exact ⟨substage, ended, rfl⟩
  · intro succeeded
    cases failure with
    | none => exact ⟨ended, rfl⟩
    | some => cases succeeded

/-- The simulated PHY does not fail. -/
theorem phy_total : (Phy.bus : Bus Phy Empty).Total := ⟨Phy.read_ok, fun _ _ _ => ⟨_, rfl⟩⟩

/-- A log that shows nothing does not fail either. -/
theorem silent_logs (record : LogRecord) (phy : Phy) :
    ∃ next, (Logger.silent : Logger Phy Empty) record phy = .ok () next := ⟨phy, rfl⟩

/-- The small memory with a record. -/
def smallRecorder : Sequencer (Phy × Array Access) Empty :=
  ⟨Phy.bus.recording, smallConfig, smallSequencer.masks, Logger.silent.onPart Part.first⟩

/-- The third group of this memory is found after some steps up, and centered within the bounds. -/
theorem smallRecorder_bounded :
    smallRecorder.Slotted ∧ ∃ (after : Phy) (parts : Parts),
      smallRecorder.findDqsEnablePhase 2 ⟨.initial, smallPhy, #[]⟩ =
        .ok true ⟨.initial, after, (#[] : Array Access) ++ smallRecorder.accessesOf 2 parts.whole⟩ ∧
      parts.Bounded ∧ parts.Centers ∧ (tests parts.whole).length ≤ 6000 ∧
      ∀ register ∈ smallRecorder.clockRegisters 2,
        Deed.travels register (parts.whole.flatMap (smallRecorder.moveDeeds 2)) =
          netSteps parts.whole := by
  have onBus : smallRecorder.bus = Phy.bus.recording := rfl
  have onLog : smallRecorder.log = Logger.silent.onPart Part.first := rfl
  have separates : smallConfig.layout.Separates := small_roomy.toSeparates
  have slotted : smallRecorder.Slotted := ⟨separates.toFits, by decide, by decide⟩
  have three : (2 : UInt32) ≤ 2 := by decide
  have passes : (match smallRecorder.findDqsEnablePhase 2 ⟨.initial, smallPhy, #[]⟩ with
      | .ok pass _ => pass
      | .error _ _ => false) = true := by decide +kernel
  obtain ⟨result, after, next, parts, ran, bounded, few, _, _, moved, _, centers⟩ :=
    findDqsEnablePhase_bounded phy_total silent_logs onBus onLog slotted three .initial smallPhy #[]
  rw [ran] at passes
  obtain rfl : result = true := passes
  obtain ⟨centered, rfl⟩ := centers rfl
  exact ⟨slotted, next, parts, ran, bounded, centered, few, moved separates⟩

end Sequencer

end Bringup.Calibration
