import Bringup.Proofs.Calibration.Chores
import Bringup.Proofs.Calibration.Search
/-!
# The moves behind a search that ended

A bus may fail, and an address may not fit a word, so that a search need not come to its end. Where
it does, whatever the bus, the geometry and the places of the managers, what it did was a search in
the sense of `Searches` (`findDqsEnablePhase_trace`). Each part of the search is followed back from
the end that it came to. The slots of the group can be run then (`findDqsEnablePhase_runnable`).
-/

namespace Bringup.Calibration.Sequencer

open Procedure (checked device)

variable {σ ε α β : Type} {sequencer : Sequencer σ ε} {group : UInt32}
  {before middle after : Progress σ}

/-- The moves lead from one device to the other. -/
def Leads (sequencer : Sequencer σ ε) (group : UInt32) (before : Progress σ) (moves : List Move)
    (after : Progress σ) : Prop :=
  Trace sequencer.Step before.device (moves.flatMap (sequencer.moveDeeds group)) after.device

namespace Leads

/-- Where nothing happens there is no move. -/
theorem refl (progress : Progress σ) : sequencer.Leads group progress [] progress :=
  .done progress.device

/-- Moves and then moves. -/
theorem trans {first second : List Move} (earlier : sequencer.Leads group before first middle)
    (later : sequencer.Leads group middle second after) :
    sequencer.Leads group before (first ++ second) after := by
  rw [Leads, List.flatMap_append]
  exact Trace.append earlier later

/-- A move and then moves. -/
theorem cons {move : Move} {moves : List Move}
    (first : Trace sequencer.Step before.device (sequencer.moveDeeds group move) middle.device)
    (later : sequencer.Leads group middle moves after) :
    sequencer.Leads group before (move :: moves) after :=
  first.append later

/-- One move. -/
theorem single {move : Move}
    (trace : Trace sequencer.Step before.device (sequencer.moveDeeds group move) after.device) :
    sequencer.Leads group before [move] after :=
  cons trace (refl after)

end Leads

/-- A sequence that begins with a computation goes on with what was computed. -/
theorem compute_eq_ok {result : Except Fault α} {rest : α → Procedure σ ε β} {other : β}
    (ran : (checked result >>= rest) before = .ok other after) :
    ∃ value, result = .ok value ∧ rest value before = .ok other after := by
  obtain ⟨value, middle, computed, others⟩ := Action.bind_eq_ok ran
  obtain ⟨same, rfl⟩ := checked_eq_ok computed
  exact ⟨value, same, others⟩

/-- The shift between virtual groups, where it can be computed. -/
theorem shift_eq_ok {shift : UInt32}
    (computed : Word.div32 (sequencer.config.geometry .dqPerReadDqs) sequencer.virtualGroups =
      .ok shift) : shift = sequencer.shift := by
  rw [Word.div32] at computed
  split at computed <;> cases computed
  rfl

/-- A loop counter and its jump target were set. -/
theorem load_trace {counter : LoopCounter} {count : UInt32} {target : RomProgram}
    (ran : sequencer.load counter count target before = .ok () after) :
    Trace sequencer.Step before.device (sequencer.loadDeeds counter count target)
      after.device := by
  obtain ⟨_, middle, counted, jumps⟩ := Action.bind_eq_ok ran
  exact .next (write_eq_ok counted).2.1 (.single (write_eq_ok jumps).2.1)

/-- A virtual group was read, with some errors. -/
theorem readVirtualGroup_trace {allGroups : Bool} {good index value : UInt32}
    (ran : sequencer.readVirtualGroup (runBase allGroups) group sequencer.shift good index before =
      .ok value after) :
    ∃ errors, value = sequencer.addGood good errors ∧
      Trace sequencer.Step before.device
        (sequencer.slotDeeds (runBase allGroups) group index errors) after.device := by
  obtain ⟨_, first, fifo, ran⟩ := Action.bind_eq_ok ran
  obtain ⟨_, second, path, ran⟩ := Action.bind_eq_ok ran
  obtain ⟨_, number, ran⟩ := compute_eq_ok ran
  obtain rfl := slot?_eq_ok number
  obtain ⟨_, place, ran⟩ := compute_eq_ok ran
  obtain ⟨rfl, _⟩ := add32_eq_ok place
  obtain ⟨_, third, runs, ran⟩ := Action.bind_eq_ok ran
  obtain ⟨errors, fourth, reads, ran⟩ := Action.bind_eq_ok ran
  cases ran
  exact ⟨errors, rfl, .next (write_eq_ok fifo).2.1 (.next (write_eq_ok path).2.1
    (.next (write_eq_ok runs).2.1 (.single (device_eq_ok reads).1)))⟩

/-- Virtual groups were read, each with some errors. -/
theorem readVirtualGroups_trace {allGroups : Bool} {count : Nat} {good value : UInt32}
    (ran : sequencer.readVirtualGroups (runBase allGroups) group sequencer.shift count good
      before = .ok value after) :
    ∃ words : List UInt32, words.length = count ∧ value = words.foldl sequencer.addGood good ∧
      Trace sequencer.Step before.device
        (sequencer.groupDeeds (runBase allGroups) group words) after.device := by
  induction count generalizing good before with
  | zero =>
    cases ran
    exact ⟨[], rfl, rfl, .done _⟩
  | succ count ih =>
    obtain ⟨_, middle, reads, ran⟩ := Action.bind_eq_ok ran
    obtain ⟨errors, rfl, first⟩ := readVirtualGroup_trace reads
    obtain ⟨words, length, value, others⟩ := ih ran
    refine ⟨errors :: words, by rw [List.length_cons, length], value, ?_⟩
    rw [groupDeeds, length]
    exact first.append others

/-- A read test did its deeds for the error words that it read, and its result is that of these
words. -/
theorem readTest_trace {allCorrect allGroups : Bool} {result : Bool × UInt32}
    (ran : sequencer.readTest group allCorrect allGroups before = .ok result after) :
    ∃ rounds words, sequencer.readRounds allGroups = .ok rounds ∧
      words.length = sequencer.virtualGroups.toNat ∧
      result = (sequencer.passes allCorrect words, sequencer.goodBits words) ∧
      Trace sequencer.Step before.device (sequencer.testDeeds group allGroups rounds words)
        after.device := by
  obtain ⟨shift, quotient, ran⟩ := compute_eq_ok ran
  obtain ⟨_, first, wait1, ran⟩ := Action.bind_eq_ok ran
  obtain ⟨_, second, wait2, ran⟩ := Action.bind_eq_ok ran
  obtain ⟨_, third, burst, ran⟩ := Action.bind_eq_ok ran
  obtain ⟨rounds, counted, ran⟩ := compute_eq_ok ran
  obtain ⟨_, fourth, repeats, ran⟩ := Action.bind_eq_ok ran
  obtain ⟨good, fifth, reads, ran⟩ := Action.bind_eq_ok ran
  obtain ⟨_, sixth, clears, ran⟩ := Action.bind_eq_ok ran
  cases ran
  obtain rfl := shift_eq_ok quotient
  obtain ⟨words, length, rfl, read⟩ := readVirtualGroups_trace reads
  refine ⟨rounds, words, counted, length, rfl, ?_⟩
  unfold testDeeds setupDeeds
  have loads := ((load_trace wait1).append (load_trace wait2)).append (load_trace burst)
  have setup := loads.append (load_trace repeats)
  exact (setup.append read).append (.single (write_eq_ok clears).2.1)

/-- A read test of a single group was a move, with a verdict on what it read. -/
theorem readTest_move {allCorrect : Bool} {result : Bool × UInt32}
    (ran : sequencer.readTest group allCorrect false before = .ok result after) :
    ∃ words, sequencer.Verdict allCorrect words result.1 ∧
      Trace sequencer.Step before.device (sequencer.moveDeeds group (.tested words))
        after.device := by
  obtain ⟨rounds, words, counted, length, rfl, trace⟩ := readTest_trace ran
  cases counted
  exact ⟨words, ⟨length, rfl⟩, trace⟩

/-- The clocks of a group were stepped. -/
theorem stepClock_trace {command : UInt32}
    (ran : sequencer.stepClock (captureClock group) command before = .ok () after) :
    Trace sequencer.Step before.device (sequencer.clockDeeds group command) after.device := by
  obtain ⟨_, place, ran⟩ := compute_eq_ok ran
  obtain ⟨rfl, _⟩ := add32_eq_ok place
  obtain ⟨_, middle, wrote, ran⟩ := Action.bind_eq_ok ran
  refine .next (device_eq_ok wrote).1 ?_
  by_cases double : sequencer.config.protocol = .lpddr2
  · rw [if_pos double] at ran ⊢
    obtain ⟨_, place, wrote⟩ := compute_eq_ok ran
    cases sum : Word.add32 sequencer.config.layout.pllManager (captureClock group) with
    | error fault =>
      rw [sum] at place
      cases place
    | ok beside =>
      rw [sum] at place
      obtain ⟨rfl, _⟩ := add32_eq_ok sum
      obtain ⟨rfl, _⟩ := add32_eq_ok place
      exact .single (device_eq_ok wrote).1
  · rw [if_neg double] at ran ⊢
    cases ran
    exact .done _

/-- Positions were tried. -/
theorem tryPositions_trace {positions : Nat} {found : Bool}
    (ran : sequencer.tryPositions group positions before = .ok found after) :
    ∃ moves, sequencer.Tries positions moves found ∧
      sequencer.Leads group before moves after := by
  induction positions generalizing before with
  | zero =>
    cases ran
    exact ⟨[], .exhausted, .refl _⟩
  | succ positions ih =>
    obtain ⟨⟨pass, bits⟩, tested, test, ran⟩ := Action.bind_eq_ok ran
    obtain ⟨words, verdict, trace⟩ := readTest_move test
    cases pass with
    | true =>
      cases ran
      exact ⟨_, .works verdict, .single trace⟩
    | false =>
      obtain ⟨_, advanced, advance, ran⟩ := Action.bind_eq_ok ran
      obtain ⟨moves, tries, rest⟩ := ih ran
      exact ⟨_, .advances verdict tries,
        .cons trace (.cons (.single (write_eq_ok advance).2.1) rest)⟩

/-- A position was looked for at one phase after the other. -/
theorem findPosition_trace {rounds steps : Nat} {found : Option Nat}
    (ran : sequencer.findPosition group rounds steps before = .ok found after) :
    ∃ moves, sequencer.Finds rounds steps moves found ∧
      sequencer.Leads group before moves after := by
  induction rounds generalizing steps before with
  | zero =>
    cases ran
    exact ⟨[], .exhausted, .refl _⟩
  | succ rounds ih =>
    obtain ⟨worked, placed, tries, ran⟩ := Action.bind_eq_ok ran
    obtain ⟨moves, tried, trace⟩ := tryPositions_trace tries
    cases worked with
    | true =>
      cases ran
      exact ⟨moves, .works tried, trace⟩
    | false =>
      obtain ⟨_, stepped, step, ran⟩ := Action.bind_eq_ok ran
      obtain ⟨later, finds, rest⟩ := ih ran
      exact ⟨_, .goesOn tried finds, trace.trans (.cons (stepClock_trace step) rest)⟩

/-- The lower edge was looked for. -/
theorem findLowerEdge_trace {rounds steps : Nat} {found : Bool}
    (ran : sequencer.findLowerEdge group rounds before = .ok found after) :
    ∃ moves depth, sequencer.Sweeps .down rounds steps moves depth ∧ depth.isSome = found ∧
      sequencer.Leads group before moves after := by
  induction rounds generalizing steps before with
  | zero =>
    cases ran
    exact ⟨[], none, .exhausted, rfl, .refl _⟩
  | succ rounds ih =>
    obtain ⟨_, stepped, step, ran⟩ := Action.bind_eq_ok ran
    obtain ⟨_, tested, test, ran⟩ := Action.bind_eq_ok ran
    obtain ⟨⟨pass, bits⟩, _, test, same⟩ := Action.bind_eq_ok test
    cases same
    obtain ⟨words, verdict, trace⟩ := readTest_move test
    cases pass with
    | true =>
      obtain ⟨moves, depth, sweeps, found, rest⟩ := ih ran
      exact ⟨_, depth, .goesOn verdict sweeps, found,
        .cons (stepClock_trace step) (.cons trace rest)⟩
    | false =>
      cases ran
      exact ⟨_, _, .fails verdict, rfl, .cons (stepClock_trace step) (.single trace)⟩

/-- The upper edge was looked for. -/
theorem findUpperEdge_trace {rounds steps : Nat} {found : Option Nat}
    (ran : sequencer.findUpperEdge group rounds steps before = .ok found after) :
    ∃ moves, sequencer.Sweeps .up rounds steps moves found ∧
      sequencer.Leads group before moves after := by
  induction rounds generalizing steps before with
  | zero =>
    cases ran
    exact ⟨[], .exhausted, .refl _⟩
  | succ rounds ih =>
    obtain ⟨_, stepped, step, ran⟩ := Action.bind_eq_ok ran
    obtain ⟨_, tested, test, ran⟩ := Action.bind_eq_ok ran
    obtain ⟨⟨pass, bits⟩, _, test, same⟩ := Action.bind_eq_ok test
    cases same
    obtain ⟨words, verdict, trace⟩ := readTest_move test
    cases pass with
    | true =>
      obtain ⟨moves, sweeps, rest⟩ := ih ran
      exact ⟨_, .goesOn verdict sweeps, .cons (stepClock_trace step) (.cons trace rest)⟩
    | false =>
      cases ran
      exact ⟨_, .fails verdict, .cons (stepClock_trace step) (.single trace)⟩

/-- The clock was stepped back. -/
theorem phaseDownBy_trace {steps : Nat}
    (ran : sequencer.phaseDownBy group steps before = .ok () after) :
    sequencer.Leads group before (List.replicate steps .down) after := by
  induction steps generalizing before with
  | zero =>
    cases ran
    exact .refl _
  | succ steps ih =>
    obtain ⟨_, stepped, step, ran⟩ := Action.bind_eq_ok ran
    exact .cons (stepClock_trace step) (ih ran)

/-- A line was logged. -/
theorem note_trace {level : Level} {message : String}
    (ran : sequencer.note level message before = .ok () after) :
    sequencer.Leads group before [.noted (record level message)] after :=
  .single (.single (device_eq_ok ran).1)

/-- A group was given up. -/
theorem giveUp_trace {substage : Substage} {reason : String} {found : Bool}
    (ran : sequencer.giveUp group substage reason before = .ok found after) :
    found = false ∧ sequencer.Leads group before [giveUpLine group reason] after := by
  obtain ⟨_, noted, note, ran⟩ := Action.bind_eq_ok ran
  obtain ⟨_, failed, fails, ran⟩ := Action.bind_eq_ok ran
  have noting : sequencer.Leads group before [giveUpLine group reason] noted := note_trace note
  cases fails
  cases ran
  exact ⟨rfl, noting⟩

/-- What a search that ended did was a search, and it says whether a step of it failed. -/
theorem findDqsEnablePhase_trace {found : Bool}
    (ran : sequencer.findDqsEnablePhase group before = .ok found after) :
    ∃ moves failure, sequencer.Searches group moves failure ∧ found = failure.isNone ∧
      sequencer.Leads group before moves after := by
  obtain ⟨place, placed, find, ran⟩ := Action.bind_eq_ok ran
  obtain ⟨first, finds, found⟩ := findPosition_trace find
  cases place with
  | none =>
    obtain ⟨rfl, givesUp⟩ := giveUp_trace ran
    exact ⟨_, _, .nowhere finds, rfl, found.trans givesUp⟩
  | some steps =>
    obtain ⟨_, noted, note, ran⟩ := Action.bind_eq_ok ran
    obtain ⟨_, below, lower, ran⟩ := Action.bind_eq_ok ran
    obtain ⟨second, depth, lower, rfl, down⟩ := findLowerEdge_trace lower
    cases depth with
    | none =>
      obtain ⟨rfl, givesUp⟩ := giveUp_trace ran
      exact ⟨_, _, .noLowerEdge finds lower, rfl,
        found.trans (.trans (note_trace note) (down.trans givesUp))⟩
    | some depth =>
      obtain ⟨width, above, upper, ran⟩ := Action.bind_eq_ok ran
      obtain ⟨third, upper, up⟩ := findUpperEdge_trace upper
      cases width with
      | none =>
        obtain ⟨rfl, givesUp⟩ := giveUp_trace ran
        exact ⟨_, _, .noUpperEdge finds lower upper, rfl,
          found.trans (.trans (note_trace note) (down.trans (up.trans givesUp)))⟩
      | some width =>
        obtain ⟨_, centered, back, ran⟩ := Action.bind_eq_ok ran
        obtain ⟨_, last, line, ran⟩ := Action.bind_eq_ok ran
        cases ran
        exact ⟨_, _, .centered finds lower upper, rfl, found.trans (.trans (note_trace note)
          (down.trans (up.trans ((phaseDownBy_trace back).trans (note_trace line)))))⟩

end Bringup.Calibration.Sequencer
