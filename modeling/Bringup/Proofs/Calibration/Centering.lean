import Bringup.Proofs.Calibration.SimulatedPhy
import Mathlib.Algebra.Group.Fin.Basic
import Mathlib.Order.Bounds.Basic
import Mathlib.Order.Fin.Basic
import Mathlib.Tactic.IntervalCases
import Mathlib.Tactic.Ring
/-!
# Centering in the read window

On a PHY that can be tuned the phase search is a search over operating points. It takes the first
phase, and at it the first FIFO position, at which every bit reads well (`FirstPass`); around that
phase the reads of the position fail next below at a lower edge and next above that at an upper one
(`Window`). Main statement: the search succeeds exactly when both edges are within reach, and then
it ends half way between them; where it fails, the status and the operating point say how
(`Sequencer.findDqsEnablePhase_centers`).
-/

namespace Bringup.Calibration

variable {σ ε : Type}

/-- The position so many steps after another. -/
def Position.after (start : Position) (steps : Nat) : Position := start + Fin.ofNat 8 steps

/-- No step leads nowhere else. -/
theorem Position.after_zero (start : Position) : start.after 0 = start := add_zero start

/-- A step and then more of them. -/
theorem Position.after_succ (start : Position) (steps : Nat) :
    Position.after (start + 1) steps = start.after (steps + 1) := by
  apply Fin.ext
  simp only [after, Fin.val_add, Fin.val_ofNat]
  omega

/-- A position behind another is some steps after it. -/
theorem Position.after_val (start offset : Position) : start.after offset.val = start + offset := by
  rw [after, Fin.ofNat_val_eq_self]

/-- After as many steps as there are positions comes the same one again. -/
theorem Position.after_all (start : Position) : start.after vfifoPositions = start := add_zero start

/-- The steps to a position that is fewer of them away than there are positions. -/
theorem Position.val_after_sub (start : Position) {steps : Nat} (few : steps < vfifoPositions) :
    (start.after steps - start).val = steps := by
  rw [after, add_sub_cancel_left, Fin.val_ofNat]
  exact Nat.mod_eq_of_lt few

/-- Of so many phases from a start on, the first at which a position passes, and the first position
from the start on that passes at it. -/
structure FirstPass (passes : Position → Int → Prop) (start : Position) (low : Int) (rounds : Nat)
    (position : Position) (phase : Int) : Prop where
  above : low ≤ phase
  below : phase < low + rounds
  works : passes position phase
  phases : ∀ earlier, low ≤ earlier → earlier < phase → ∀ other, ¬ passes other earlier
  positions : ∀ offset < position - start, ¬ passes (start + offset) phase

/-- Where there is a first pass, some position passes at a phase in reach. -/
theorem FirstPass.reached {passes : Position → Int → Prop} {start position : Position}
    {low phase : Int} {rounds : Nat}
    (first : FirstPass passes start low rounds position phase) :
    ¬ ∀ phase, low ≤ phase → phase < low + rounds → ∀ position, ¬ passes position phase :=
  fun never => never phase first.above first.below position first.works

/-- There is only one first pass. -/
theorem FirstPass.unique {passes : Position → Int → Prop} {start position other : Position}
    {low phase later : Int} {rounds : Nat}
    (first : FirstPass passes start low rounds position phase)
    (second : FirstPass passes start low rounds other later) :
    position = other ∧ phase = later := by
  have phases : phase = later := by
    by_contra apart
    obtain before | after := lt_or_gt_of_ne apart
    · exact second.phases phase first.above before position first.works
    · exact first.phases later second.above after other second.works
  subst phases
  refine ⟨?_, rfl⟩
  by_contra apart
  have offsets : position - start ≠ other - start := fun same => apart (sub_left_injective same)
  obtain before | after := lt_or_gt_of_ne offsets
  · have failed := second.positions _ before
    rw [add_sub_cancel] at failed
    exact failed first.works
  · have failed := first.positions _ after
    rw [add_sub_cancel] at failed
    exact failed second.works

/-- Where no position passes at the first phase, the first pass among the phases above it is the
first. -/
theorem FirstPass.of_next {passes : Position → Int → Prop} {start position : Position}
    {low phase : Int} {rounds : Nat} (never : ∀ other, ¬ passes other low)
    (first : FirstPass passes start (low + 1) rounds position phase) :
    FirstPass passes start low (rounds + 1) position phase := by
  have above := first.above
  have below := first.below
  refine ⟨by omega, by push_cast; omega, first.works, ?_, first.positions⟩
  intro earlier reached before
  by_cases here : earlier = low
  · rw [here]
    exact never
  · exact first.phases earlier (by omega) before

/-- The phases next to a phase at which reads fail: the lower is the greatest below it, the upper
the least above the lower. -/
structure Window (reads : Int → Prop) (phase lower upper : Int) : Prop where
  lowerEdge : IsGreatest {below | below < phase ∧ ¬ reads below} lower
  upperEdge : IsLeast {above | lower < above ∧ ¬ reads above} upper

/-- A phase has only one window. -/
theorem Window.unique {reads : Int → Prop} {phase lower upper otherLower otherUpper : Int}
    (window : Window reads phase lower upper) (other : Window reads phase otherLower otherUpper) :
    lower = otherLower ∧ upper = otherUpper := by
  obtain rfl := window.lowerEdge.unique other.lowerEdge
  exact ⟨rfl, window.upperEdge.unique other.upperEdge⟩

/-- Every phase inside a window reads. -/
theorem Window.inside {reads : Int → Prop} {phase lower upper : Int}
    (window : Window reads phase lower upper) {between : Int} (above : lower < between)
    (below : between < upper) : reads between := by
  by_contra fails
  exact absurd (window.upperEdge.2 ⟨above, fails⟩) (not_le.2 below)

/-- The middle of a window, rounded up. -/
def center (lower upper : Int) : Int := lower + (upper - lower + 1) / 2

/-- A window around a phase that reads has room for its middle. -/
theorem Window.center_inside {reads : Int → Prop} {phase lower upper : Int}
    (window : Window reads phase lower upper) (works : reads phase) :
    lower < center lower upper ∧ center lower upper < upper := by
  have below := window.lowerEdge.1.1
  obtain ⟨above, fails⟩ := window.upperEdge.1
  have apart : upper ≠ lower + 1 := by
    rintro rfl
    obtain here | further : phase = lower + 1 ∨ lower + 1 < phase := by omega
    · rw [here] at works
      exact fails works
    · exact absurd (window.lowerEdge.2 ⟨further, fails⟩) (by omega)
  rw [center]
  omega

/-- How a search over operating points ends: the step that failed, if one did, and where. -/
inductive Centers (all any : Position → Int → Prop) (start : Position) (low : Int) (rounds : Nat) :
    Option Substage → Position → Int → Prop where
  | nowhere : (∀ phase, low ≤ phase → phase < low + rounds → ∀ position, ¬ all position phase) →
    Centers all any start low rounds (some .dqsEnablePhase) start (low + rounds)
  | noLowerEdge {position : Position} {phase : Int} :
    FirstPass all start low rounds position phase →
    (∀ below, phase - rounds ≤ below → below < phase → any position below) →
    Centers all any start low rounds (some .vfifoCenter) position (phase - rounds)
  | noUpperEdge {position : Position} {phase lower : Int} :
    FirstPass all start low rounds position phase →
    IsGreatest {below | below < phase ∧ ¬ any position below} lower → phase - lower ≤ rounds →
    (∀ above, lower < above → above ≤ lower + rounds → any position above) →
    Centers all any start low rounds (some .vfifoCenter) position (lower + rounds)
  | centered {position : Position} {phase lower upper : Int} :
    FirstPass all start low rounds position phase →
    Window (any position) phase lower upper → phase - lower ≤ rounds → upper - lower ≤ rounds →
    Centers all any start low rounds none position (center lower upper)

namespace Centers

variable {all any : Position → Int → Prop} {start position first : Position} {low phase found : Int}
  {rounds : Nat} {failure : Option Substage}

/-- Where no position passes at any phase in reach, the search fails behind the last of them. -/
theorem of_none (ends : Centers all any start low rounds failure position phase)
    (never : ∀ phase, low ≤ phase → phase < low + rounds → ∀ position, ¬ all position phase) :
    failure = some .dqsEnablePhase ∧ position = start ∧ phase = low + rounds := by
  cases ends with
  | nowhere => exact ⟨rfl, rfl, rfl⟩
  | noLowerEdge first | noUpperEdge first | centered first =>
    exact absurd never first.reached

variable (pass : FirstPass all start low rounds first found)

include pass

/-- Where a position passes, the search ends at the first that does. -/
theorem position_eq (ends : Centers all any start low rounds failure position phase) :
    position = first := by
  cases ends with
  | nowhere never => exact absurd never pass.reached
  | noLowerEdge other | noUpperEdge other | centered other => exact (other.unique pass).1

/-- Where a position passes, a failure is one to center. -/
theorem failure_eq (ends : Centers all any start low rounds failure position phase)
    (fails : failure ≠ none) : failure = some .vfifoCenter := by
  cases ends with
  | nowhere never => exact absurd never pass.reached
  | noLowerEdge | noUpperEdge => rfl
  | centered => exact absurd rfl fails

/-- The search succeeds exactly when both edges of the window are within reach. -/
theorem success_iff (ends : Centers all any start low rounds failure position phase) :
    failure = none ↔ ∃ lower upper, Window (any first) found lower upper ∧
      found - lower ≤ rounds ∧ upper - lower ≤ rounds := by
  cases ends with
  | nowhere never => exact absurd never pass.reached
  | noLowerEdge other reads =>
    obtain ⟨rfl, rfl⟩ := other.unique pass
    refine iff_of_false (by simp) ?_
    rintro ⟨lower, upper, window, near, _⟩
    obtain ⟨below, fails⟩ := window.lowerEdge.1
    exact fails (reads lower (by omega) below)
  | noUpperEdge other edge near reads =>
    obtain ⟨rfl, rfl⟩ := other.unique pass
    refine iff_of_false (by simp) ?_
    rintro ⟨lower, upper, window, _, narrow⟩
    obtain rfl := edge.unique window.lowerEdge
    obtain ⟨above, fails⟩ := window.upperEdge.1
    exact fails (reads upper above (by omega))
  | centered other window near narrow =>
    obtain ⟨rfl, rfl⟩ := other.unique pass
    exact iff_of_true rfl ⟨_, _, window, near, narrow⟩

/-- A search that succeeds ends in the middle of the window. -/
theorem center_eq (ends : Centers all any start low rounds none position phase)
    {lower upper : Int} (window : Window (any first) found lower upper) :
    phase = center lower upper := by
  cases ends with
  | centered other its =>
    obtain ⟨rfl, rfl⟩ := other.unique pass
    obtain ⟨rfl, rfl⟩ := its.unique window
    rfl

/-- A search without a lower edge in reach ends where the reach does. -/
theorem eq_of_noLowerEdge (ends : Centers all any start low rounds failure position phase)
    (reads : ∀ below, found - rounds ≤ below → below < found → any first below) :
    phase = found - rounds := by
  cases ends with
  | nowhere never => exact absurd never pass.reached
  | noLowerEdge other =>
    obtain ⟨rfl, rfl⟩ := other.unique pass
    rfl
  | noUpperEdge other edge near =>
    obtain ⟨rfl, rfl⟩ := other.unique pass
    exact absurd (reads _ (by omega) edge.1.1) edge.1.2
  | centered other window near =>
    obtain ⟨rfl, rfl⟩ := other.unique pass
    exact absurd (reads _ (by omega) window.lowerEdge.1.1) window.lowerEdge.1.2

/-- A search with a lower edge but without an upper one in reach ends where the reach does. -/
theorem eq_of_noUpperEdge (ends : Centers all any start low rounds failure position phase)
    {lower : Int} (edge : IsGreatest {below | below < found ∧ ¬ any first below} lower)
    (near : found - lower ≤ rounds)
    (reads : ∀ above, lower < above → above ≤ lower + rounds → any first above) :
    phase = lower + rounds := by
  cases ends with
  | nowhere never => exact absurd never pass.reached
  | noLowerEdge other all =>
    obtain ⟨rfl, rfl⟩ := other.unique pass
    exact absurd (all lower (by omega) edge.1.1) edge.1.2
  | noUpperEdge other its =>
    obtain ⟨rfl, rfl⟩ := other.unique pass
    rw [its.unique edge]
  | centered other window _ narrow =>
    obtain ⟨rfl, rfl⟩ := other.unique pass
    obtain rfl := window.lowerEdge.unique edge
    obtain ⟨above, fails⟩ := window.upperEdge.1
    exact absurd (reads _ above (by omega)) fails

end Centers

namespace Sequencer

variable {sequencer : Sequencer σ ε} {group : UInt32} {errors : Nat → Position → Int → UInt32}
  {stands : σ → Position → Int → Prop} {state next : σ} {position : Position} {phase : Int}
  {moves : List Move}

/-- Every bit of a group reads well at an operating point. -/
def AllRead (sequencer : Sequencer σ ε) (group : UInt32) (errors : Nat → Position → Int → UInt32)
    (position : Position) (phase : Int) : Prop :=
  sequencer.passes true (sequencer.wordsAt group errors position phase) = true

/-- Some bit of a group reads well at an operating point. -/
def AnyReads (sequencer : Sequencer σ ε) (group : UInt32) (errors : Nat → Position → Int → UInt32)
    (position : Position) (phase : Int) : Prop :=
  sequencer.passes false (sequencer.wordsAt group errors position phase) = true

instance : Decidable (sequencer.AllRead group errors position phase) :=
  inferInstanceAs (Decidable (_ = true))

instance : Decidable (sequencer.AnyReads group errors position phase) :=
  inferInstanceAs (Decidable (_ = true))

/-- Where there are bits, some read well when all do. -/
theorem AllRead.any (readable : sequencer.masks.read ≠ 0)
    (reads : sequencer.AllRead group errors position phase) :
    sequencer.AnyReads group errors position phase := by
  rw [AllRead, passes, if_pos rfl, beq_iff_eq] at reads
  rw [AnyReads, passes, if_neg (by decide), reads]
  exact bne_iff_ne.2 readable

/-- Where trying positions from one on ends. -/
def Tried (passes : Position → Prop) (start : Position) (count : Nat) (ends : Position → Prop) :
    Bool → Prop
  | false => (∀ offset < count, ¬ passes (start.after offset)) ∧ ends (start.after count)
  | true => ∃ offset < count, (∀ earlier < offset, ¬ passes (start.after earlier)) ∧
    passes (start.after offset) ∧ ends (start.after offset)

/-- Where the search for a position ends. -/
def Found (passes : Position → Int → Prop) (start : Position) (low : Int) (rounds : Nat)
    (ends : Position → Int → Prop) : Option Nat → Prop
  | none => (∀ phase, low ≤ phase → phase < low + rounds → ∀ position, ¬ passes position phase) ∧
    ends start (low + rounds)
  | some _ => ∃ position phase, FirstPass passes start low rounds position phase ∧
    ends position phase

/-- Where a sweep in steps of one size from a phase on ends, with its steps added to others. -/
def Swept (reads : Int → Prop) (start size : Int) (rounds before : Nat) (ends : Int → Prop) :
    Option Nat → Prop
  | none => (∀ steps : Nat, 1 ≤ steps → steps ≤ rounds → reads (start + size * steps)) ∧
    ends (start + size * rounds)
  | some total => ∃ steps : Nat, total = before + steps ∧ 1 ≤ steps ∧ steps ≤ rounds ∧
    (∀ earlier : Nat, 1 ≤ earlier → earlier < steps → reads (start + size * earlier)) ∧
    ¬ reads (start + size * steps) ∧ ends (start + size * steps)

namespace Steerable

variable (steerable : sequencer.Steerable group errors stands)

include steerable

/-- A test with a verdict tells whether the operating point passes. -/
theorem verdict_stands {allCorrect pass : Bool} {words : List UInt32}
    (verdict : sequencer.Verdict allCorrect words pass) (stood : stands state position phase)
    (trace : Trace sequencer.Step state (sequencer.moveDeeds group (.tested words)) next) :
    sequencer.passes allCorrect (sequencer.wordsAt group errors position phase) = pass ∧
      stands next position phase := by
  obtain ⟨same, kept⟩ := steerable.tested_stands verdict.1 stood trace
  rw [← same]
  exact ⟨verdict.2, kept⟩

/-- Trying positions goes through them in order, up to the first that passes. -/
theorem tries_stand {positions : Nat} {found : Bool}
    (tries : sequencer.Tries positions moves found) (stood : stands state position phase)
    (trace : Trace sequencer.Step state (moves.flatMap (sequencer.moveDeeds group)) next) :
    Tried (sequencer.AllRead group errors · phase) position positions (stands next · phase)
      found := by
  induction tries generalizing state position with
  | exhausted =>
    cases trace
    refine ⟨fun offset below => absurd below (Nat.not_lt_zero offset), ?_⟩
    rwa [Position.after_zero]
  | works verdict =>
    rw [List.flatMap_singleton] at trace
    obtain ⟨pass, kept⟩ := steerable.verdict_stands verdict stood trace
    refine ⟨0, Nat.succ_pos _, fun earlier below => absurd below (Nat.not_lt_zero earlier), ?_⟩
    rw [Position.after_zero]
    exact ⟨pass, kept⟩
  | @advances positions words moves found verdict tries ih =>
    rw [List.flatMap_cons, List.flatMap_cons] at trace
    obtain ⟨tested, test, trace⟩ := trace.split
    obtain ⟨advanced, advance, trace⟩ := trace.split
    obtain ⟨fails, kept⟩ := steerable.verdict_stands verdict stood test
    have rest := ih (steerable.advanced_stands kept advance) trace
    have failed : ¬ sequencer.AllRead group errors (position.after 0) phase := by
      rw [Position.after_zero, AllRead, fails]
      exact Bool.false_ne_true
    cases found with
    | false =>
      obtain ⟨others, kept⟩ := rest
      rw [Position.after_succ] at kept
      refine ⟨?_, kept⟩
      rintro (_ | offset) inside
      · exact failed
      · rw [← Position.after_succ]
        exact others offset (Nat.lt_of_succ_lt_succ inside)
    | true =>
      obtain ⟨offset, inside, others, pass, kept⟩ := rest
      rw [Position.after_succ] at pass kept
      refine ⟨offset + 1, Nat.succ_lt_succ inside, ?_, pass, kept⟩
      rintro (_ | earlier) before
      · exact failed
      · rw [← Position.after_succ]
        exact others earlier (Nat.lt_of_succ_lt_succ before)

/-- Finding a position goes through the phases in order, up to the first at which one passes. -/
theorem finds_stand {rounds steps : Nat} {found : Option Nat}
    (finds : sequencer.Finds rounds steps moves found) (stood : stands state position phase)
    (trace : Trace sequencer.Step state (moves.flatMap (sequencer.moveDeeds group)) next) :
    Found (sequencer.AllRead group errors) position phase rounds (stands next) found := by
  induction finds generalizing state phase with
  | exhausted =>
    cases trace
    refine ⟨fun later above below => ?_, ?_⟩
    · rw [Nat.cast_zero, add_zero] at below
      exact absurd above (not_le.2 below)
    · rwa [Nat.cast_zero, add_zero]
  | @works rounds steps moves tries =>
    obtain ⟨offset, inside, earlier, pass, kept⟩ := steerable.tries_stand tries stood trace
    refine ⟨_, phase, ⟨le_refl phase, by omega, pass, ?_, ?_⟩, kept⟩
    · intro before above below
      exact absurd above (not_le.2 below)
    · intro other before
      rw [Fin.lt_def, Position.val_after_sub _ inside] at before
      rw [← Position.after_val]
      exact earlier other.val before
  | @goesOn rounds steps before after found tries finds ih =>
    rw [List.flatMap_append, List.flatMap_cons] at trace
    obtain ⟨tried, first, trace⟩ := trace.split
    obtain ⟨stepped, step, trace⟩ := trace.split
    obtain ⟨fails, kept⟩ := steerable.tries_stand tries stood first
    rw [Position.after_all] at kept
    have never (other : Position) : ¬ sequencer.AllRead group errors other phase := by
      have failed := fails (other - position).val (other - position).isLt
      rwa [Position.after_val, add_sub_cancel] at failed
    have rest := ih (steerable.up_stands kept step) trace
    cases found with
    | none =>
      obtain ⟨others, kept⟩ := rest
      have end_eq : phase + 1 + rounds = phase + (rounds + 1 : Nat) := by
        push_cast
        omega
      rw [end_eq] at others kept
      refine ⟨?_, kept⟩
      intro later above below
      by_cases here : later = phase
      · rw [here]
        exact never
      · exact others later (by omega) below
    | some total =>
      obtain ⟨first, later, pass, kept⟩ := rest
      exact ⟨first, later, pass.of_next never, kept⟩

/-- A sweep goes through the phases in order, up to the first at which no bit reads well. -/
theorem sweeps_stand {move : Move} {size : Int} (moved : ∀ {state next : σ} {phase : Int},
      stands state position phase →
      Trace sequencer.Step state (sequencer.moveDeeds group move) next →
      stands next position (phase + size))
    {rounds steps : Nat} {found : Option Nat}
    (sweeps : sequencer.Sweeps move rounds steps moves found)
    (stood : stands state position phase)
    (trace : Trace sequencer.Step state (moves.flatMap (sequencer.moveDeeds group)) next) :
    Swept (sequencer.AnyReads group errors position) phase size rounds steps (stands next position)
      found := by
  induction sweeps generalizing state phase with
  | exhausted =>
    cases trace
    refine ⟨fun steps above few => absurd (Nat.le_trans above few) (Nat.not_succ_le_zero 0), ?_⟩
    rwa [Nat.cast_zero, mul_zero, add_zero]
  | @fails rounds steps words verdict =>
    rw [List.flatMap_cons, List.flatMap_singleton] at trace
    obtain ⟨stepped, step, test⟩ := trace.split
    obtain ⟨fails, kept⟩ := steerable.verdict_stands verdict (moved stood step) test
    refine ⟨1, rfl, Nat.le_refl 1, Nat.succ_pos rounds, ?_, ?_⟩
    · intro earlier positive before
      omega
    · rw [Nat.cast_one, mul_one, AnyReads, fails]
      exact ⟨Bool.false_ne_true, kept⟩
  | @goesOn rounds steps words moves found verdict sweeps ih =>
    rw [List.flatMap_cons, List.flatMap_cons] at trace
    obtain ⟨stepped, step, trace⟩ := trace.split
    obtain ⟨tested, test, trace⟩ := trace.split
    obtain ⟨reads, kept⟩ := steerable.verdict_stands verdict (moved stood step) test
    have rest := ih kept trace
    have further (steps : Nat) :
        phase + size + size * (steps : Nat) = phase + size * ((steps + 1 : Nat) : Int) := by
      rw [Nat.cast_add, Nat.cast_one]
      ring
    have first : sequencer.AnyReads group errors position (phase + size * (1 : Nat)) := by
      rw [Nat.cast_one, mul_one]
      exact reads
    cases found with
    | none =>
      obtain ⟨others, kept⟩ := rest
      rw [further] at kept
      refine ⟨?_, kept⟩
      rintro (_ | _ | steps) positive inside
      · exact absurd positive (Nat.not_succ_le_zero 0)
      · exact first
      · rw [← further]
        exact others (steps + 1) (Nat.succ_pos steps) (Nat.le_of_succ_le_succ inside)
    | some total =>
      obtain ⟨steps, sum, positive, inside, others, fails, kept⟩ := rest
      rw [further] at fails kept
      refine ⟨steps + 1, by omega, Nat.succ_pos steps, Nat.succ_le_succ inside, ?_, fails, kept⟩
      rintro (_ | _ | earlier) positive before
      · exact absurd positive (Nat.not_succ_le_zero 0)
      · exact first
      · rw [← further]
        exact others (earlier + 1) (Nat.succ_pos earlier) (Nat.lt_of_succ_lt_succ before)

/-- Looking for the lower edge finds the greatest phase below at which no bit reads well. -/
theorem lower_stands {rounds : Nat} {found : Option Nat}
    (sweeps : sequencer.Sweeps .down rounds 0 moves found) (stood : stands state position phase)
    (trace : Trace sequencer.Step state (moves.flatMap (sequencer.moveDeeds group)) next) :
    match found with
    | none => (∀ below, phase - rounds ≤ below → below < phase →
        sequencer.AnyReads group errors position below) ∧ stands next position (phase - rounds)
    | some _ => ∃ lower, IsGreatest {below | below < phase ∧
        ¬ sequencer.AnyReads group errors position below} lower ∧ phase - lower ≤ rounds ∧
        stands next position lower := by
  have swept := steerable.sweeps_stand
    (fun stood step => steerable.down_stands stood step) sweeps stood trace
  cases found with
  | none =>
    obtain ⟨reads, kept⟩ := swept
    have end_eq : phase + -1 * rounds = phase - rounds := by omega
    rw [end_eq] at kept
    refine ⟨?_, kept⟩
    intro below near under
    have read := reads (phase - below).toNat (by omega) (by omega)
    rwa [show phase + -1 * ((phase - below).toNat : Int) = below by omega] at read
  | some total =>
    obtain ⟨steps, _, positive, inside, reads, fails, kept⟩ := swept
    refine ⟨_, ⟨⟨by omega, fails⟩, ?_⟩, by omega, kept⟩
    rintro below ⟨under, failed⟩
    by_contra higher
    have read := reads (phase - below).toNat (by omega) (by omega)
    rw [show phase + -1 * ((phase - below).toNat : Int) = below by omega] at read
    exact failed read

/-- Looking for the upper edge finds the least phase above at which no bit reads well. -/
theorem upper_stands {rounds : Nat} {found : Option Nat}
    (sweeps : sequencer.Sweeps .up rounds 0 moves found) (stood : stands state position phase)
    (trace : Trace sequencer.Step state (moves.flatMap (sequencer.moveDeeds group)) next) :
    match found with
    | none => (∀ above, phase < above → above ≤ phase + rounds →
        sequencer.AnyReads group errors position above) ∧ stands next position (phase + rounds)
    | some width => IsLeast {above | phase < above ∧
        ¬ sequencer.AnyReads group errors position above} (phase + width) ∧ width ≤ rounds ∧
        stands next position (phase + width) := by
  have swept := steerable.sweeps_stand
    (fun stood step => steerable.up_stands stood step) sweeps stood trace
  cases found with
  | none =>
    obtain ⟨reads, kept⟩ := swept
    rw [one_mul] at kept
    refine ⟨?_, kept⟩
    intro above beyond near
    have read := reads (above - phase).toNat (by omega) (by omega)
    rwa [show phase + 1 * ((above - phase).toNat : Int) = above by omega] at read
  | some width =>
    obtain ⟨steps, sum, positive, inside, reads, fails, kept⟩ := swept
    obtain rfl : width = steps := by omega
    rw [one_mul] at fails kept
    refine ⟨⟨⟨by omega, fails⟩, ?_⟩, inside, kept⟩
    rintro above ⟨beyond, failed⟩
    by_contra lower
    have read := reads (above - phase).toNat (by omega) (by omega)
    rw [show phase + 1 * ((above - phase).toNat : Int) = above by omega] at read
    exact failed read

/-- Steps back move the phase down by as many. -/
theorem back_stands (steps : Nat) (stood : stands state position phase)
    (trace : Trace sequencer.Step state
      ((List.replicate steps Move.down).flatMap (sequencer.moveDeeds group)) next) :
    stands next position (phase - steps) := by
  induction steps generalizing state phase with
  | zero =>
    cases trace
    rwa [Nat.cast_zero, sub_zero]
  | succ steps ih =>
    rw [List.replicate_succ, List.flatMap_cons] at trace
    obtain ⟨stepped, step, trace⟩ := trace.split
    have kept := ih (steerable.down_stands stood step) trace
    rwa [show phase - 1 - steps = phase - (steps + 1 : Nat) by push_cast; omega] at kept

/-- A search ends as a search over operating points does. -/
theorem searches_center {failure : Option Substage}
    (searches : sequencer.Searches group moves failure)
    (stood : stands state position phase)
    (trace : Trace sequencer.Step state (moves.flatMap (sequencer.moveDeeds group)) next) :
    ∃ last final, Centers (sequencer.AllRead group errors) (sequencer.AnyReads group errors)
      position phase maxPhaseSteps failure last final ∧ stands next last final := by
  cases searches with
  | nowhere finds =>
    rw [List.flatMap_append, List.flatMap_singleton] at trace
    obtain ⟨placed, find, note⟩ := trace.split
    obtain ⟨never, kept⟩ := steerable.finds_stand finds stood find
    exact ⟨_, _, .nowhere never, steerable.noted_stands kept note⟩
  | noLowerEdge finds lower =>
    rw [List.flatMap_append, List.flatMap_cons, List.flatMap_append,
      List.flatMap_singleton] at trace
    obtain ⟨placed, find, trace⟩ := trace.split
    obtain ⟨noted, note, trace⟩ := trace.split
    obtain ⟨below, down, givenUp⟩ := trace.split
    obtain ⟨first, later, pass, kept⟩ := steerable.finds_stand finds stood find
    obtain ⟨reads, kept⟩ := steerable.lower_stands lower (steerable.noted_stands kept note) down
    exact ⟨_, _, .noLowerEdge pass reads, steerable.noted_stands kept givenUp⟩
  | noUpperEdge finds lower upper =>
    rw [List.flatMap_append, List.flatMap_cons, List.flatMap_append, List.flatMap_append,
      List.flatMap_singleton] at trace
    obtain ⟨placed, find, trace⟩ := trace.split
    obtain ⟨noted, note, trace⟩ := trace.split
    obtain ⟨below, down, trace⟩ := trace.split
    obtain ⟨above, up, givenUp⟩ := trace.split
    obtain ⟨first, later, pass, kept⟩ := steerable.finds_stand finds stood find
    obtain ⟨edge, isEdge, near, kept⟩ :=
      steerable.lower_stands lower (steerable.noted_stands kept note) down
    obtain ⟨reads, kept⟩ := steerable.upper_stands upper kept up
    exact ⟨_, _, .noUpperEdge pass isEdge near reads, steerable.noted_stands kept givenUp⟩
  | @centered _ _ _ _ _ width finds lower upper =>
    rw [List.flatMap_append, List.flatMap_cons, List.flatMap_append, List.flatMap_append,
      List.flatMap_append, List.flatMap_singleton] at trace
    obtain ⟨placed, find, trace⟩ := trace.split
    obtain ⟨noted, note, trace⟩ := trace.split
    obtain ⟨below, down, trace⟩ := trace.split
    obtain ⟨above, up, trace⟩ := trace.split
    obtain ⟨centered, back, logged⟩ := trace.split
    obtain ⟨first, later, pass, kept⟩ := steerable.finds_stand finds stood find
    obtain ⟨edge, isEdge, near, kept⟩ :=
      steerable.lower_stands lower (steerable.noted_stands kept note) down
    obtain ⟨isUpper, narrow, kept⟩ := steerable.upper_stands upper kept up
    have kept := steerable.noted_stands (steerable.back_stands (width / 2) kept back) logged
    have middle : edge + width - (width / 2 : Nat) = center edge (edge + width) := by
      rw [center]
      omega
    rw [middle] at kept
    exact ⟨_, _, .centered pass ⟨isEdge, isUpper⟩ near (by omega), kept⟩

end Steerable

/-- Where the slots lie inside their window, too, a search ends so. -/
theorem Tunable.searches_center (tunable : sequencer.Tunable group errors stands)
    {failure : Option Substage} (searches : sequencer.Searches group moves failure)
    (stood : stands state position phase)
    (trace : Trace sequencer.Step state (moves.flatMap (sequencer.moveDeeds group)) next) :
    ∃ last final, Centers (sequencer.AllRead group errors) (sequencer.AnyReads group errors)
      position phase maxPhaseSteps failure last final ∧ stands next last final :=
  tunable.steerable.searches_center searches stood trace

/-- The search centers in the read window. On whatever PHY that can be tuned, from whatever
operating point: if no position passes at any phase in reach, the search says so and ends behind the
last of them. Otherwise it ends at the first position that passes, and it succeeds exactly when both
edges of the window around the first phase are within reach; then it ends in the middle, inside the
window and among phases that read, and the status is as it was. Where it fails, the status names the
group and the step, and the phase is the last that was tried. -/
theorem findDqsEnablePhase_centers {bus : Bus σ ε} {log : Logger σ ε} {config : Config}
    (created : create bus log config = .ok sequencer) (answers : sequencer.Answers)
    (tunable : sequencer.Tunable group errors stands) (readable : sequencer.masks.read ≠ 0)
    (status : Status) {start : Position} {low : Int} (begins : stands state start low) :
    ∃ result after next position phase,
      sequencer.findDqsEnablePhase group ⟨status, state⟩ = .ok result ⟨after, next⟩ ∧
      stands next position phase ∧
      ((∀ phase, low ≤ phase → phase < low + maxPhaseSteps → ∀ position,
          ¬ sequencer.AllRead group errors position phase) →
        result = false ∧
        after = { status with stage := .vfifo, substage := .dqsEnablePhase, group } ∧
        position = start ∧ phase = low + maxPhaseSteps) ∧
      (∀ first found,
        FirstPass (sequencer.AllRead group errors) start low maxPhaseSteps first found →
        position = first ∧
        (result = true ↔ ∃ lower upper,
          Window (sequencer.AnyReads group errors first) found lower upper ∧
          found - lower ≤ maxPhaseSteps ∧ upper - lower ≤ maxPhaseSteps) ∧
        (result = true → after = status ∧ ∀ lower upper,
          Window (sequencer.AnyReads group errors first) found lower upper →
          phase = center lower upper ∧ lower < phase ∧ phase < upper ∧
          ∀ between, lower < between → between < upper →
            sequencer.AnyReads group errors first between) ∧
        (result = false →
          after = { status with stage := .vfifo, substage := .vfifoCenter, group }) ∧
        ((∀ below, found - maxPhaseSteps ≤ below → below < found →
            sequencer.AnyReads group errors first below) →
          phase = found - maxPhaseSteps) ∧
        (∀ lower, IsGreatest {below | below < found ∧
            ¬ sequencer.AnyReads group errors first below} lower →
          found - lower ≤ maxPhaseSteps →
          (∀ above, lower < above → above ≤ lower + maxPhaseSteps →
            sequencer.AnyReads group errors first above) →
          phase = lower + maxPhaseSteps)) := by
  obtain ⟨_, positive⟩ := of_create created
  have slotted : sequencer.Slotted := ⟨tunable.separates.toFits, positive, tunable.few⟩
  obtain ⟨moves, failure, next, searches, concludes⟩ :=
    findDqsEnablePhase_searches answers slotted tunable.three state
  obtain ⟨position, phase, ends, stood⟩ :=
    tunable.searches_center searches begins concludes.trace
  refine ⟨_, _, next, position, phase, concludes.runs status, stood, ?_, ?_⟩
  · intro never
    obtain ⟨rfl, rfl, rfl⟩ := ends.of_none never
    exact ⟨rfl, rfl, rfl, rfl⟩
  · intro first found pass
    obtain rfl := ends.position_eq pass
    refine ⟨rfl, ?_, ?_, ?_, ends.eq_of_noLowerEdge pass, fun lower edge near reads =>
      ends.eq_of_noUpperEdge pass edge near reads⟩
    · rw [Option.isNone_iff_eq_none]
      exact ends.success_iff pass
    · intro success
      obtain rfl := Option.isNone_iff_eq_none.1 success
      refine ⟨rfl, fun lower upper window => ?_⟩
      obtain rfl := ends.center_eq pass window
      obtain ⟨above, below⟩ := window.center_inside (pass.works.any readable)
      exact ⟨rfl, above, below, fun _ => window.inside⟩
    · intro fails
      have failed : failure ≠ none := by
        rintro rfl
        exact absurd fails (by decide)
      obtain rfl := ends.failure_eq pass failed
      rfl

/-- A memory of eight data lines to a strobe, in two virtual groups. -/
def smallConfig : Config where
  layout := ⟨0x88000, 0x90000, 0x58000⟩
  programs
    | .readBackToBack => 0x3c
    | _ => 0
  geometry
    | .dqPerReadDqs => 8
    | .virtualGroupsPerReadDqs => 2
    | _ => 1
  protocol := .lpddr2
  groups := .x24

/-- At FIFO position 3 every bit reads well in the phases from 5 to 9, and one bit in phase 4. -/
def smallBands : List Band :=
  [⟨none, some 3, some 5, some 9, 0⟩, ⟨some 4, some 3, some 4, some 4, 0xfe⟩]

/-- A PHY with these errors. -/
def smallPhy : Phy := { Phy.fresh smallConfig.layout 0x3c 2 with bands := smallBands }

/-- The sequencer of this memory. -/
def smallSequencer : Sequencer Phy Empty :=
  ⟨Phy.bus, smallConfig, ⟨0xf, 0xf, 0xff, 0x1, 0x1⟩, Logger.silent⟩

/-- The errors of this PHY. -/
def smallErrors (slot : Nat) (position : Position) (phase : Int) : UInt32 :=
  Band.errorsAt smallBands 0xffffffff slot position.val phase

/-- The registers of this memory are apart from each other. -/
theorem small_roomy : Phy.Roomy smallConfig.layout where
  phy := by decide
  rw := by decide
  pll := by decide
  phyRw := by decide
  phyPll := by decide
  rwPll := by decide
  phyRoom := by decide
  rwRoom := by decide

/-- The third group of this memory can be tuned. -/
theorem smallSequencer_tunable : smallSequencer.Tunable 2 smallErrors
    (Phy.Stands smallConfig 2 smallBands 0xffffffff) where
  three := by decide
  few := by decide
  separates := small_roomy.toSeparates
  tunes := Phy.tunes small_roomy (by decide) (by decide)
  log := by
    intro state next position phase record stood logged
    cases logged
    exact stood

/-- The first position that passes is the third, in phase 5. -/
theorem smallSequencer_firstPass :
    FirstPass (smallSequencer.AllRead 2 smallErrors) 0 0 maxPhaseSteps 3 5 where
  above := by decide
  below := by decide
  works := by decide
  phases := by
    intro earlier above below
    interval_cases earlier <;> decide
  positions := by decide

/-- The reads around it fail in phases 3 and 10. -/
theorem smallSequencer_window : Window (smallSequencer.AnyReads 2 smallErrors 3) 5 3 10 where
  lowerEdge := by
    refine ⟨⟨by decide, by decide⟩, ?_⟩
    rintro below ⟨under, fails⟩
    by_contra higher
    obtain rfl : below = 4 := by omega
    exact fails (by decide)
  upperEdge := by
    refine ⟨⟨by decide, by decide⟩, ?_⟩
    rintro above ⟨beyond, fails⟩
    by_contra lower
    have top : above < 10 := by omega
    interval_cases above <;> exact fails (by decide)

/-- The window of this group is centered at phase 7. -/
theorem smallSequencer_centered :
    create Phy.bus Logger.silent smallConfig = .ok smallSequencer ∧
      ∃ next, smallSequencer.findDqsEnablePhase 2 ⟨.initial, smallPhy⟩ = .ok true ⟨.initial, next⟩ ∧
        next.positions.getD 2 0 = 3 ∧ next.phases.getD 0x58004 0 = 7 := by
  have created : create Phy.bus Logger.silent smallConfig = .ok smallSequencer := rfl
  have answers : smallSequencer.Answers :=
    ⟨Phy.read_ok, fun _ _ _ => ⟨_, rfl⟩, fun _ _ => ⟨_, rfl⟩⟩
  have begins : Phy.Stands smallConfig 2 smallBands 0xffffffff smallPhy 0 0 :=
    ⟨rfl, rfl, rfl, rfl, rfl, rfl, rfl, rfl⟩
  refine ⟨created, ?_⟩
  obtain ⟨result, after, next, position, phase, runs, stood, _, centers⟩ :=
    findDqsEnablePhase_centers created answers smallSequencer_tunable (by decide) .initial begins
  obtain ⟨rfl, success, centered, _⟩ := centers 3 5 smallSequencer_firstPass
  obtain rfl := success.2 ⟨3, 10, smallSequencer_window, by decide, by decide⟩
  obtain ⟨rfl, middle⟩ := centered rfl
  obtain ⟨rfl, _⟩ := middle 3 10 smallSequencer_window
  exact ⟨next, runs, stood.position, stood.phase⟩

end Sequencer

end Bringup.Calibration
