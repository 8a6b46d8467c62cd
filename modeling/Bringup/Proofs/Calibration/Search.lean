import Bringup.Calibration.PhaseSearch
import Bringup.Proofs.Calibration.ReadTest
/-!
# What the phase search does

The search for a group is made of moves: read tests, steps of the group's capture clock up and down,
steps of its FIFO, and log lines. Which moves it makes is said by relations that follow the search
(`Tries`, `Finds`, `Sweeps`, `Searches`); they speak of the verdicts of the tests and leave open
what the bus answers. Main statement: on every bus that does not fail the search ends, and what it
did is one of these (`findDqsEnablePhase_searches`).
-/

namespace Bringup.Calibration

/-- One move of the search for a group. -/
inductive Move where
  /-- A read test that read these error words. -/
  | tested (words : List UInt32)
  /-- The FIFO went on to its next position. -/
  | advanced
  | up
  | down
  | noted (record : LogRecord)
  deriving DecidableEq

namespace Sequencer

open Procedure (checked device)

variable {σ ε α β : Type} {sequencer : Sequencer σ ε} {state middle last : σ} {group : UInt32}

/-- The register that steps the capture clock of a group. -/
def clockRegister (sequencer : Sequencer σ ε) (group : UInt32) : UInt32 :=
  sequencer.config.layout.pllManager + (captureClock group <<< 2)

/-- What stepping the capture clock of a group does. -/
def clockDeeds (sequencer : Sequencer σ ε) (group command : UInt32) : List Deed :=
  .write (sequencer.clockRegister group) command ::
    if sequencer.config.protocol = .lpddr2 then
      [.write (sequencer.config.layout.pllManager + captureClock group + 4) command]
    else []

/-- What a move does. -/
def moveDeeds (sequencer : Sequencer σ ε) (group : UInt32) : Move → List Deed
  | .tested words => sequencer.testDeeds group false 0 words
  | .advanced => [.write (sequencer.config.layout.phyManager + PhyManager.incrementVfifo) group]
  | .up => sequencer.clockDeeds group PllManager.increment
  | .down => sequencer.clockDeeds group PllManager.decrement
  | .noted record => [.log record]

/-- The procedure succeeds, leaves the status as it is, and makes these moves. -/
def Makes (sequencer : Sequencer σ ε) (group : UInt32) (procedure : Procedure σ ε α) (state : σ)
    (value : α) (moves : List Move) (next : σ) : Prop :=
  sequencer.Does procedure state value (moves.flatMap (sequencer.moveDeeds group)) next

namespace Makes

/-- A value alone makes no move. -/
theorem pure (value : α) (state : σ) :
    sequencer.Makes group (Pure.pure value) state value [] state :=
  Does.pure value state

/-- Procedures in sequence make the moves of each, in order. -/
theorem bind {procedure : Procedure σ ε α} {rest : α → Procedure σ ε β} {value : α} {other : β}
    {before after : List Move} (first : sequencer.Makes group procedure state value before middle)
    (second : sequencer.Makes group (rest value) middle other after last) :
    sequencer.Makes group (procedure >>= rest) state other (before ++ after) last := by
  rw [Makes, List.flatMap_append]
  exact Does.bind first second

/-- What is done for one move makes the move. -/
theorem single {procedure : Procedure σ ε α} {value : α} {move : Move}
    (does : sequencer.Does procedure state value (sequencer.moveDeeds group move) last) :
    sequencer.Makes group procedure state value [move] last := by
  rw [Makes, List.flatMap_singleton]
  exact does

end Makes

/-- A function of the value changes nothing about the moves. -/
theorem Makes.map {procedure : Procedure σ ε α} {value : α} {moves : List Move}
    (makes : sequencer.Makes group procedure state value moves last) (change : α → β) :
    sequencer.Makes group (change <$> procedure) state (change value) moves last :=
  Does.map makes change

/-- The verdict of a test that read these error words, one for each virtual group. -/
def Verdict (sequencer : Sequencer σ ε) (allCorrect : Bool) (words : List UInt32) (pass : Bool) :
    Prop :=
  words.length = sequencer.virtualGroups.toNat ∧ sequencer.passes allCorrect words = pass

/-- The moves that try FIFO positions until every bit reads well, and whether it does. -/
inductive Tries (sequencer : Sequencer σ ε) : (positions : Nat) → List Move → Bool → Prop where
  | exhausted : Tries sequencer 0 [] false
  | works {positions : Nat} {words : List UInt32} : sequencer.Verdict true words true →
    Tries sequencer (positions + 1) [.tested words] true
  | advances {positions : Nat} {words : List UInt32} {moves : List Move} {found : Bool} :
    sequencer.Verdict true words false → Tries sequencer positions moves found →
    Tries sequencer (positions + 1) (.tested words :: .advanced :: moves) found

/-- The moves that try all FIFO positions at one phase after the other, and the steps up to the
phase at which one works. -/
inductive Finds (sequencer : Sequencer σ ε) :
    (rounds steps : Nat) → List Move → Option Nat → Prop where
  | exhausted {steps : Nat} : Finds sequencer 0 steps [] none
  | works {rounds steps : Nat} {moves : List Move} : sequencer.Tries vfifoPositions moves true →
    Finds sequencer (rounds + 1) steps moves (some steps)
  | goesOn {rounds steps : Nat} {before after : List Move} {found : Option Nat} :
    sequencer.Tries vfifoPositions before false → Finds sequencer rounds (steps + 1) after found →
    Finds sequencer (rounds + 1) steps (before ++ .up :: after) found

/-- The moves that step the clock one way until no bit reads well, and the steps that it took. -/
inductive Sweeps (sequencer : Sequencer σ ε) (move : Move) :
    (rounds steps : Nat) → List Move → Option Nat → Prop where
  | exhausted {steps : Nat} : Sweeps sequencer move 0 steps [] none
  | fails {rounds steps : Nat} {words : List UInt32} : sequencer.Verdict false words false →
    Sweeps sequencer move (rounds + 1) steps [move, .tested words] (some (steps + 1))
  | goesOn {rounds steps : Nat} {words : List UInt32} {moves : List Move} {found : Option Nat} :
    sequencer.Verdict false words true → Sweeps sequencer move rounds (steps + 1) moves found →
    Sweeps sequencer move (rounds + 1) steps (move :: .tested words :: moves) found

/-- The log line for a group that is given up. -/
def giveUpLine (group : UInt32) (reason : String) : Move :=
  .noted (record .warn (groupText group ++ reason))

/-- The log line for a position that was found. -/
def foundLine (group : UInt32) (steps : Nat) : Move :=
  .noted (record .debug
    (groupText group ++ "VFIFO found after " ++ Text.decimal steps ++ " phase steps"))

/-- The log line for a window that was centered. -/
def windowLine (group : UInt32) (width : Nat) : Move :=
  .noted (record .debug (groupText group ++ "DQS enable window is "
    ++ Text.decimal (width - 1) ++ " phase steps wide"))

/-- The moves of a whole search, and the step that failed, if one did. -/
inductive Searches (sequencer : Sequencer σ ε) (group : UInt32) :
    List Move → Option Substage → Prop where
  | nowhere {moves : List Move} : sequencer.Finds maxPhaseSteps 0 moves none →
    Searches sequencer group (moves ++ [giveUpLine group "no working VFIFO position"])
      (some .dqsEnablePhase)
  | noLowerEdge {first second : List Move} {steps : Nat} :
    sequencer.Finds maxPhaseSteps 0 first (some steps) →
    sequencer.Sweeps .down maxPhaseSteps 0 second none →
    Searches sequencer group (first ++ (foundLine group steps :: (second ++
      [giveUpLine group "no lower edge of the DQS enable window"]))) (some .vfifoCenter)
  | noUpperEdge {first second third : List Move} {steps depth : Nat} :
    sequencer.Finds maxPhaseSteps 0 first (some steps) →
    sequencer.Sweeps .down maxPhaseSteps 0 second (some depth) →
    sequencer.Sweeps .up maxPhaseSteps 0 third none →
    Searches sequencer group (first ++ (foundLine group steps :: (second ++ (third ++
      [giveUpLine group "no upper edge of the DQS enable window"])))) (some .vfifoCenter)
  | centered {first second third : List Move} {steps depth width : Nat} :
    sequencer.Finds maxPhaseSteps 0 first (some steps) →
    sequencer.Sweeps .down maxPhaseSteps 0 second (some depth) →
    sequencer.Sweeps .up maxPhaseSteps 0 third (some width) →
    Searches sequencer group (first ++ (foundLine group steps :: (second ++ (third ++
      (List.replicate (width / 2) .down ++ [windowLine group width]))))) none

/-- The status after a search. -/
def statusAfter (status : Status) (group : UInt32) : Option Substage → Status
  | none => status
  | some substage => { status with stage := .vfifo, substage, group }

/-- The procedure makes these moves and says whether it succeeded; the status is that after a search
which failed like this. -/
structure Concludes (sequencer : Sequencer σ ε) (group : UInt32) (procedure : Procedure σ ε Bool)
    (state : σ) (moves : List Move) (failure : Option Substage) (next : σ) : Prop where
  runs : ∀ status, procedure ⟨status, state⟩ =
    .ok failure.isNone ⟨statusAfter status group failure, next⟩
  trace : Trace sequencer.Step state (moves.flatMap (sequencer.moveDeeds group)) next

namespace Concludes

/-- What was done before a procedure that concludes belongs to its moves. -/
theorem after {procedure : Procedure σ ε α} {rest : α → Procedure σ ε Bool} {value : α}
    {before moves : List Move} {failure : Option Substage}
    (first : sequencer.Makes group procedure state value before middle)
    (second : sequencer.Concludes group (rest value) middle moves failure last) :
    sequencer.Concludes group (procedure >>= rest) state (before ++ moves) failure last where
  runs status := (Action.bind_ok (first.runs status) rest).trans (second.runs status)
  trace := by
    rw [List.flatMap_append]
    exact first.trace.append second.trace

/-- A procedure that says yes and leaves the status as it is concludes without a failure. -/
theorem success {procedure : Procedure σ ε Bool} {moves : List Move}
    (makes : sequencer.Makes group procedure state true moves last) :
    sequencer.Concludes group procedure state moves none last where
  runs := makes.runs
  trace := makes.trace

end Concludes

/-- The first three groups have two capture clocks. -/
theorem captureClock_le (three : group ≤ 2) : (captureClock group).toNat ≤ 1 := by
  unfold captureClock
  split
  · decide
  · next other =>
    have groups : group.toNat ≤ 2 := UInt32.le_iff_toNat_le.1 three
    have number : group.toNat ≠ 2 := fun same => other (UInt32.toNat_inj.1 same)
    omega

/-- The registers of the capture clocks lie behind each other. -/
theorem toNat_clockRegister (fits : sequencer.config.layout.Fits) (three : group ≤ 2) :
    (sequencer.clockRegister group).toNat =
        sequencer.config.layout.pllManager.toNat + 4 * (captureClock group).toNat ∧
      sequencer.config.layout.pllManager.toNat + (captureClock group <<< 2).toNat <
        0x100000000 := by
  have clock := captureClock_le three
  have bound := fits.pll
  rw [PllManager.window] at bound
  have scaled : (captureClock group <<< 2).toNat = 4 * (captureClock group).toNat :=
    toNat_fourfold (by omega)
  rw [clockRegister, UInt32.toNat_add]
  omega

section Steps

variable (answers : sequencer.Answers) (fits : sequencer.config.layout.Fits) (three : group ≤ 2)

include answers fits three

/-- Stepping the capture clock of a group does what is said. -/
theorem stepClock_does (command : UInt32) (state : σ) :
    ∃ next, sequencer.Does (sequencer.stepClock (captureClock group) command) state ()
      (sequencer.clockDeeds group command) next := by
  have clock := captureClock_le three
  have bound := fits.pll
  rw [PllManager.window] at bound
  have register := (toNat_clockRegister fits three).2
  obtain ⟨middle, first⟩ :=
    sequencer.write_does answers (sequencer.clockRegister group) command state
  by_cases double : sequencer.config.protocol = .lpddr2
  · rw [clockDeeds, if_pos double]
    have beside : (sequencer.config.layout.pllManager + captureClock group).toNat =
        sequencer.config.layout.pllManager.toNat + (captureClock group).toNat := by
      rw [UInt32.toNat_add]
      omega
    have second : (do
        let beside ← Word.add32 sequencer.config.layout.pllManager (captureClock group)
        Word.add32 beside 4) =
        .ok (sequencer.config.layout.pllManager + captureClock group + 4) := by
      rw [add32_ok (by omega)]
      exact add32_ok (by rw [beside]; show _ + 4 < _; omega)
    obtain ⟨next, writes⟩ := sequencer.write_does answers
      (sequencer.config.layout.pllManager + captureClock group + 4) command middle
    refine ⟨next, .compute (add32_ok register) (first.bind ?_)⟩
    rw [if_pos double]
    exact .compute second writes
  · rw [clockDeeds, if_neg double]
    refine ⟨middle, .compute (add32_ok register) (first.bind ?_)⟩
    rw [if_neg double]
    exact .pure () middle

/-- A step up is a move. -/
theorem phaseUp_makes (state : σ) :
    ∃ next, sequencer.Makes group (sequencer.phaseUp group) state () [.up] next := by
  obtain ⟨next, does⟩ := stepClock_does answers fits three PllManager.increment state
  exact ⟨next, .single does⟩

/-- A step down is a move. -/
theorem phaseDown_makes (state : σ) :
    ∃ next, sequencer.Makes group (sequencer.phaseDown group) state () [.down] next := by
  obtain ⟨next, does⟩ := stepClock_does answers fits three PllManager.decrement state
  exact ⟨next, .single does⟩

/-- Going back makes so many steps down. -/
theorem phaseDownBy_makes (steps : Nat) (state : σ) :
    ∃ next, sequencer.Makes group (sequencer.phaseDownBy group steps) state ()
      (List.replicate steps .down) next := by
  induction steps generalizing state with
  | zero => exact ⟨state, .pure () state⟩
  | succ steps ih =>
    obtain ⟨stepped, step⟩ := phaseDown_makes answers fits three state
    obtain ⟨next, rest⟩ := ih stepped
    exact ⟨next, step.bind rest⟩

omit three in
/-- A step of the FIFO is a move. -/
theorem advance_makes (state : σ) :
    ∃ next, sequencer.Makes group (sequencer.writePhy PhyManager.incrementVfifo group) state ()
      [.advanced] next := by
  obtain ⟨next, does⟩ :=
    writePhy_does answers fits PhyManager.incrementVfifo group (by decide) state
  exact ⟨next, .single does⟩

end Steps

section Moves

variable (answers : sequencer.Answers) (reaches : sequencer.Reaches group)
  (divided : sequencer.virtualGroups ≠ 0)

include answers reaches divided

/-- A read test is a move, with a verdict on what it read. -/
theorem readTest_makes (allCorrect : Bool) (state : σ) :
    ∃ words pass next, sequencer.Verdict allCorrect words pass ∧
      sequencer.Makes group (sequencer.readTest group allCorrect false) state
        (pass, sequencer.goodBits words) [.tested words] next := by
  obtain ⟨words, next, length, does⟩ :=
    readTest_does answers reaches.fits reaches.three divided allCorrect reaches.slots rfl state
  exact ⟨words, _, next, ⟨length, rfl⟩, .single does⟩

/-- Trying positions makes the moves of a try. -/
theorem tryPositions_makes (positions : Nat) (state : σ) :
    ∃ moves found next, sequencer.Tries positions moves found ∧
      sequencer.Makes group (sequencer.tryPositions group positions) state found moves next := by
  induction positions generalizing state with
  | zero => exact ⟨[], false, state, .exhausted, .pure false state⟩
  | succ positions ih =>
    obtain ⟨words, pass, tested, verdict, test⟩ :=
      readTest_makes answers reaches divided true state
    cases pass with
    | true => exact ⟨_, true, tested, .works verdict, test.bind (.pure true tested)⟩
    | false =>
      obtain ⟨advanced, advance⟩ := advance_makes answers reaches.fits tested
      obtain ⟨moves, found, next, tries, rest⟩ := ih advanced
      exact ⟨_, found, next, .advances verdict tries, test.bind (advance.bind rest)⟩

/-- Finding a position makes the moves of such a search. -/
theorem findPosition_makes (rounds steps : Nat) (state : σ) :
    ∃ moves found next, sequencer.Finds rounds steps moves found ∧
      sequencer.Makes group (sequencer.findPosition group rounds steps) state found moves next := by
  induction rounds generalizing steps state with
  | zero => exact ⟨[], none, state, .exhausted, .pure none state⟩
  | succ rounds ih =>
    obtain ⟨moves, found, tried, tries, try_⟩ :=
      tryPositions_makes answers reaches divided vfifoPositions state
    cases found with
    | true =>
      refine ⟨moves ++ [], some steps, tried, ?_, try_.bind (.pure (some steps) tried)⟩
      rw [List.append_nil]
      exact .works tries
    | false =>
      obtain ⟨stepped, step⟩ := phaseUp_makes answers reaches.fits reaches.three tried
      obtain ⟨later, found, next, finds, rest⟩ := ih (steps + 1) stepped
      exact ⟨_, found, next, .goesOn tries finds, try_.bind (step.bind rest)⟩

/-- Looking for the lower edge makes the moves of a sweep down. -/
theorem findLowerEdge_makes (rounds steps : Nat) (state : σ) :
    ∃ moves found next, sequencer.Sweeps .down rounds steps moves found ∧
      sequencer.Makes group (sequencer.findLowerEdge group rounds) state found.isSome moves
        next := by
  induction rounds generalizing steps state with
  | zero => exact ⟨[], none, state, .exhausted, .pure false state⟩
  | succ rounds ih =>
    obtain ⟨stepped, step⟩ := phaseDown_makes answers reaches.fits reaches.three state
    obtain ⟨words, pass, tested, verdict, test⟩ :=
      readTest_makes answers reaches divided false stepped
    cases pass with
    | true =>
      obtain ⟨moves, found, next, sweeps, rest⟩ := ih (steps + 1) tested
      exact ⟨_, found, next, .goesOn verdict sweeps, step.bind ((test.map Prod.fst).bind rest)⟩
    | false =>
      exact ⟨_, some (steps + 1), tested, .fails verdict,
        step.bind ((test.map Prod.fst).bind (.pure true tested))⟩

/-- Looking for the upper edge makes the moves of a sweep up. -/
theorem findUpperEdge_makes (rounds steps : Nat) (state : σ) :
    ∃ moves found next, sequencer.Sweeps .up rounds steps moves found ∧
      sequencer.Makes group (sequencer.findUpperEdge group rounds steps) state found moves
        next := by
  induction rounds generalizing steps state with
  | zero => exact ⟨[], none, state, .exhausted, .pure none state⟩
  | succ rounds ih =>
    obtain ⟨stepped, step⟩ := phaseUp_makes answers reaches.fits reaches.three state
    obtain ⟨words, pass, tested, verdict, test⟩ :=
      readTest_makes answers reaches divided false stepped
    cases pass with
    | true =>
      obtain ⟨moves, found, next, sweeps, rest⟩ := ih (steps + 1) tested
      exact ⟨_, found, next, .goesOn verdict sweeps, step.bind ((test.map Prod.fst).bind rest)⟩
    | false =>
      exact ⟨_, some (steps + 1), tested, .fails verdict,
        step.bind ((test.map Prod.fst).bind (.pure _ tested))⟩

omit reaches divided in
/-- A log line is a move. -/
theorem note_makes (level : Level) (message : String) (state : σ) :
    ∃ next, sequencer.Makes group (sequencer.note level message) state ()
      [.noted (record level message)] next := by
  obtain ⟨next, does⟩ := sequencer.note_does answers level message state
  exact ⟨next, .single does⟩

omit reaches divided in
/-- Giving up logs the reason and concludes with the failure. -/
theorem giveUp_concludes (substage : Substage) (reason : String) (state : σ) :
    ∃ next, sequencer.Concludes group (sequencer.giveUp group substage reason) state
      [giveUpLine group reason] (some substage) next := by
  obtain ⟨next, logs⟩ := note_makes answers .warn (groupText group ++ reason) state
  refine ⟨next, ?_, logs.trace⟩
  intro status
  exact Action.bind_ok (logs.runs status) _

/-- The search ends, whatever the bus answers, and what it did is a search. -/
theorem findDqsEnablePhase_concludes (state : σ) :
    ∃ moves failure next, sequencer.Searches group moves failure ∧
      sequencer.Concludes group (sequencer.findDqsEnablePhase group) state moves failure next := by
  obtain ⟨first, found, placed, finds, find⟩ :=
    findPosition_makes answers reaches divided maxPhaseSteps 0 state
  cases found with
  | none =>
    obtain ⟨next, givesUp⟩ :=
      giveUp_concludes answers .dqsEnablePhase "no working VFIFO position" placed
    exact ⟨_, _, next, .nowhere finds, .after find givesUp⟩
  | some steps =>
    obtain ⟨noted, note⟩ := note_makes answers .debug
      (groupText group ++ "VFIFO found after " ++ Text.decimal steps ++ " phase steps") placed
    obtain ⟨second, depth, below, lower, down⟩ :=
      findLowerEdge_makes answers reaches divided maxPhaseSteps 0 noted
    cases depth with
    | none =>
      obtain ⟨next, givesUp⟩ := giveUp_concludes answers .vfifoCenter
        "no lower edge of the DQS enable window" below
      exact ⟨_, _, next, .noLowerEdge finds lower, .after find (.after note (.after down givesUp))⟩
    | some depth =>
      obtain ⟨third, width, above, upper, up⟩ :=
        findUpperEdge_makes answers reaches divided maxPhaseSteps 0 below
      cases width with
      | none =>
        obtain ⟨next, givesUp⟩ := giveUp_concludes answers .vfifoCenter
          "no upper edge of the DQS enable window" above
        exact ⟨_, _, next, .noUpperEdge finds lower upper,
          .after find (.after note (.after down (.after up givesUp)))⟩
      | some width =>
        obtain ⟨centered, back⟩ :=
          phaseDownBy_makes answers reaches.fits reaches.three (width / 2) above
        obtain ⟨next, logs⟩ := note_makes answers .debug (groupText group ++ "DQS enable window is "
          ++ Text.decimal (width - 1) ++ " phase steps wide") centered
        exact ⟨_, _, next, .centered finds lower upper,
          .after find (.after note (.after down (.after up (.after back
            (.success (logs.bind (.pure true next)))))))⟩

end Moves

/-- The search ends where the slots lie inside their window. -/
theorem findDqsEnablePhase_searches (answers : sequencer.Answers) (slotted : sequencer.Slotted)
    (three : group ≤ 2) (state : σ) :
    ∃ moves failure next, sequencer.Searches group moves failure ∧
      sequencer.Concludes group (sequencer.findDqsEnablePhase group) state moves failure next :=
  findDqsEnablePhase_concludes answers (.of_few slotted.fits three slotted.few) slotted.divided
    state

end Sequencer

end Bringup.Calibration
