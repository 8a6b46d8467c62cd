/-!
# Runs of a labelled system

A system is given by its labelled steps. A run takes one step after the other, and its trace is the
list of their labels. Runs meet where one ends and the next begins.
-/

namespace Bringup

/-- A finite run, from a state through labelled steps to another. -/
inductive Trace {τ α : Type} (step : τ → α → τ → Prop) : τ → List α → τ → Prop where
  | done (state : τ) : Trace step state [] state
  | next {state middle last : τ} {event : α} {rest : List α} :
    step state event middle → Trace step middle rest last → Trace step state (event :: rest) last

namespace Trace

variable {τ α : Type} {step : τ → α → τ → Prop} {state middle last : τ}

/-- One step is a run. -/
theorem single {event : α} (taken : step state event last) : Trace step state [event] last :=
  .next taken (.done last)

/-- A run over two lists of labels is a run over each. -/
theorem split {first second : List α} (trace : Trace step state (first ++ second) last) :
    ∃ middle, Trace step state first middle ∧ Trace step middle second last := by
  induction first generalizing state with
  | nil => exact ⟨state, .done state, trace⟩
  | cons event rest ih =>
    cases trace with
    | next taken trace =>
      obtain ⟨middle, before, after⟩ := ih trace
      exact ⟨middle, .next taken before, after⟩

/-- Runs that meet make one run. -/
theorem append {first second : List α} (before : Trace step state first middle)
    (after : Trace step middle second last) : Trace step state (first ++ second) last := by
  induction before with
  | done => exact after
  | next taken _ ih => exact .next taken (ih after)

end Trace

end Bringup
