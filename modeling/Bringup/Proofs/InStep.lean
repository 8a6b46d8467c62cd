import Bringup.Proofs.Action
/-!
# Two runs in step

Two actions over different states are compared from states in relation. They agree when they come to
the same result and leave states in relation again, whether they succeed or fail (`Agree`). Actions
that agree from all states in relation run in step (`InStep`), and so do programs that are put
together from them in the same way.

A relation may be indexed by what the two states share. Then a step can take the runs from one index
to another, and it is followed with `Agree.bind`.
-/

namespace Bringup.Action

variable {σ τ ε δ α β : Type} {relation later : σ → τ → Prop}
  {first : EStateM ε σ α} {second : EStateM ε τ α} {left nextLeft : σ} {right nextRight : τ}

/-- Two runs end with the same result and in states in relation. -/
def Agree (relation : σ → τ → Prop) (one : Except ε α × σ) (other : Except ε α × τ) : Prop :=
  one.1 = other.1 ∧ relation one.2 other.2

namespace Agree

/-- Actions that succeed with the same value agree. -/
theorem of_ok {value : α} (ran : first left = .ok value nextLeft)
    (otherRan : second right = .ok value nextRight) (related : relation nextLeft nextRight) :
    Agree relation (attempt first left) (attempt second right) := by
  rw [attempt, attempt, ran, otherRan]
  exact ⟨rfl, related⟩

/-- Actions that fail with the same error agree. -/
theorem of_error {error : ε} (ran : first left = .error error nextLeft)
    (otherRan : second right = .error error nextRight) (related : relation nextLeft nextRight) :
    Agree relation (attempt first left) (attempt second right) := by
  rw [attempt, attempt, ran, otherRan]
  exact ⟨rfl, related⟩

/-- Runs that agree both succeed with the same value or both fail with the same error. -/
theorem ends (agree : Agree relation (attempt first left) (attempt second right)) :
    (∃ value nextLeft nextRight, first left = .ok value nextLeft ∧
      second right = .ok value nextRight ∧ relation nextLeft nextRight) ∨
    (∃ error nextLeft nextRight, first left = .error error nextLeft ∧
      second right = .error error nextRight ∧ relation nextLeft nextRight) := by
  obtain ⟨same, related⟩ := agree
  cases ran : first left with
  | ok value nextLeft =>
    cases otherRan : second right with
    | ok other nextRight =>
      simp only [attempt, ran, otherRan] at same related
      cases same
      exact .inl ⟨_, _, _, rfl, rfl, related⟩
    | error other nextRight => simp [attempt, ran, otherRan] at same
  | error error nextLeft =>
    cases otherRan : second right with
    | ok other nextRight => simp [attempt, ran, otherRan] at same
    | error other nextRight =>
      simp only [attempt, ran, otherRan] at same related
      cases same
      exact .inr ⟨_, _, _, rfl, rfl, related⟩

/-- States in relation may be in another relation as well. -/
theorem imp (agree : Agree relation (attempt first left) (attempt second right))
    (weaken : ∀ left right, relation left right → later left right) :
    Agree later (attempt first left) (attempt second right) :=
  ⟨agree.1, weaken _ _ agree.2⟩

/-- Runs that agree go on to agree, if what follows them does. A failure ends them where it
happened. -/
theorem bind {rest : α → EStateM ε σ β} {others : α → EStateM ε τ β}
    (agree : Agree relation (attempt first left) (attempt second right))
    (failed : ∀ left right, relation left right → later left right)
    (follow : ∀ value left right, relation left right →
      Agree later (attempt (rest value) left) (attempt (others value) right)) :
    Agree later (attempt (first >>= rest) left) (attempt (second >>= others) right) := by
  obtain ⟨value, nextLeft, nextRight, ran, otherRan, related⟩ |
    ⟨error, nextLeft, nextRight, ran, otherRan, related⟩ := agree.ends
  · rw [attempt_bind_ok ran, attempt_bind_ok otherRan]
    exact follow value nextLeft nextRight related
  · apply of_error
    · exact bind_error ran rest
    · exact bind_error otherRan others
    · exact failed nextLeft nextRight related

/-- A function of the value keeps runs in agreement. -/
theorem map (agree : Agree relation (attempt first left) (attempt second right))
    (change : α → β) :
    Agree relation (attempt (change <$> first) left) (attempt (change <$> second) right) := by
  obtain ⟨value, nextLeft, nextRight, ran, otherRan, related⟩ |
    ⟨error, nextLeft, nextRight, ran, otherRan, related⟩ := agree.ends
  · exact of_ok (map_ok ran change) (map_ok otherRan change) related
  · exact of_error (map_error ran change) (map_error otherRan change) related

/-- Renaming errors keeps runs in agreement. -/
theorem adapt (agree : Agree relation (attempt first left) (attempt second right))
    (rename : ε → δ) :
    Agree relation (attempt (EStateM.adaptExcept rename first) left)
      (attempt (EStateM.adaptExcept rename second) right) := by
  obtain ⟨value, nextLeft, nextRight, ran, otherRan, related⟩ |
    ⟨error, nextLeft, nextRight, ran, otherRan, related⟩ := agree.ends
  · exact of_ok (adapt_ok ran rename) (adapt_ok otherRan rename) related
  · exact of_error (adapt_error ran rename) (adapt_error otherRan rename) related

end Agree

/-- From states in relation the two actions agree. -/
def InStep (relation : σ → τ → Prop) (first : EStateM ε σ α) (second : EStateM ε τ α) : Prop :=
  ∀ left right, relation left right →
    Agree relation (attempt first left) (attempt second right)

namespace InStep

/-- A value alone leaves the states as they are. -/
theorem pure (value : α) :
    InStep relation (pure value : EStateM ε σ α) (pure value : EStateM ε τ α) :=
  fun _ _ related => ⟨rfl, related⟩

/-- Nothing follows an error. -/
theorem throw_bind (error : ε) {rest : α → EStateM ε σ β} {others : α → EStateM ε τ β} :
    InStep relation (throw error >>= rest : EStateM ε σ β)
      (throw error >>= others : EStateM ε τ β) :=
  fun _ _ related => ⟨rfl, related⟩

/-- An error alone leaves the states as they are. -/
theorem throw (error : ε) :
    InStep relation (throw error : EStateM ε σ α) (throw error : EStateM ε τ α) :=
  fun _ _ related => ⟨rfl, related⟩

/-- Actions in sequence. -/
theorem bind {rest : α → EStateM ε σ β} {others : α → EStateM ε τ β}
    (begins : InStep relation first second)
    (follow : ∀ value, InStep relation (rest value) (others value)) :
    InStep relation (first >>= rest) (second >>= others) :=
  fun left right related =>
    (begins left right related).bind (fun _ _ same => same) fun value => follow value

/-- A function of the value changes nothing about the states. -/
theorem map (inStep : InStep relation first second) (change : α → β) :
    InStep relation (change <$> first) (change <$> second) :=
  fun left right related => (inStep left right related).map change

/-- Renaming errors changes nothing about the states. -/
theorem adapt (inStep : InStep relation first second) (rename : ε → δ) :
    InStep relation (EStateM.adaptExcept rename first) (EStateM.adaptExcept rename second) :=
  fun left right related => (inStep left right related).adapt rename

/-- A relation may be replaced by one that relates the same states. -/
theorem congr (inStep : InStep relation first second)
    (same : ∀ left right, relation left right ↔ later left right) : InStep later first second :=
  fun left right related =>
    (inStep left right ((same left right).2 related)).imp fun left right => (same left right).1

/-- Actions in step for each index are in step for some index. -/
theorem some_index {ι : Sort*} {relations : ι → σ → τ → Prop}
    (inStep : ∀ index, InStep (relations index) first second) :
    InStep (fun left right => ∃ index, relations index left right) first second := by
  rintro left right ⟨index, related⟩
  exact (inStep index left right related).imp fun _ _ same => ⟨index, same⟩

end InStep

end Bringup.Action

namespace Bringup.Part

variable {σ τ ρ ε α : Type} {relation : σ → τ → Prop}

/-- One action on equal parts of two states runs in step, if the relation lets the parts be replaced
by others that are equal. -/
theorem run_inStep {place : Part σ ρ} {other : Part τ ρ}
    (equal : ∀ left right, relation left right → place.get left = other.get right)
    (replaced : ∀ left right part, relation left right →
      relation (place.put left part) (other.put right part)) (action : EStateM ε ρ α) :
    Action.InStep relation (place.run action) (other.run action) := by
  intro left right related
  have same := equal left right related
  cases step : action (place.get left) with
  | ok value part =>
    have otherStep : action (other.get right) = .ok value part := same ▸ step
    exact .of_ok (run_ok step) (run_ok otherStep) (replaced left right part related)
  | error error part =>
    have otherStep : action (other.get right) = .error error part := same ▸ step
    exact .of_error (run_error step) (run_error otherStep) (replaced left right part related)

end Bringup.Part
