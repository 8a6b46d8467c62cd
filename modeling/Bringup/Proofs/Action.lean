import Bringup.Part
import Bringup.Wire.Capture
import Mathlib.Order.Defs.Unbundled
/-!
# Running an action step by step

An action of the state monad is run by running its parts in order. The equations here take one
part at a time: what the part did is a hypothesis, and what remains to be run is the right side.
They let a proof follow a program along the steps that it takes.

Where the steps do not matter, only what they leave alone, an action runs along a relation between
the states before and after it (`Along`), whether it succeeds or fails. A relation that is reflexive
and transitive goes through whole programs.
-/

namespace Bringup.Action

variable {σ τ ε δ α β : Type} {action : EStateM ε σ α} {state next : σ} {value : α} {error : ε}

/-- After a step that succeeds, the rest runs from the state it left. -/
theorem bind_ok (step : action state = .ok value next) (rest : α → EStateM ε σ β) :
    (action >>= rest) state = rest value next := by
  show EStateM.bind action rest state = _
  rw [EStateM.bind, step]

/-- After a step that fails, nothing else runs. -/
theorem bind_error (step : action state = .error error next) (rest : α → EStateM ε σ β) :
    (action >>= rest) state = .error error next := by
  show EStateM.bind action rest state = _
  rw [EStateM.bind, step]

/-- A sequence that succeeds ran its first step and then the rest. -/
theorem bind_eq_ok {rest : α → EStateM ε σ β} {other : β} {last : σ}
    (ran : (action >>= rest) state = .ok other last) :
    ∃ value next, action state = .ok value next ∧ rest value next = .ok other last := by
  cases step : action state with
  | ok value next =>
    rw [bind_ok step] at ran
    exact ⟨value, next, rfl, ran⟩
  | error error next =>
    rw [bind_error step] at ran
    cases ran

/-- A function applied to the value of a step that succeeds. -/
theorem map_ok (step : action state = .ok value next) (change : α → β) :
    (change <$> action) state = .ok (change value) next := by
  show EStateM.map change action state = _
  rw [EStateM.map, step]

/-- A step that fails has no value to apply a function to. -/
theorem map_error (step : action state = .error error next) (change : α → β) :
    (change <$> action) state = .error error next := by
  show EStateM.map change action state = _
  rw [EStateM.map, step]

/-- Renaming errors changes nothing about a step that succeeds. -/
theorem adapt_ok (step : action state = .ok value next) (rename : ε → δ) :
    EStateM.adaptExcept rename action state = .ok value next := by
  rw [EStateM.adaptExcept, step]

/-- Renaming errors renames that of a step that fails. -/
theorem adapt_error (step : action state = .error error next) (rename : ε → δ) :
    EStateM.adaptExcept rename action state = .error (rename error) next := by
  rw [EStateM.adaptExcept, step]

/-- A step that succeeds is an attempt with a value. -/
theorem attempt_ok (step : action state = .ok value next) :
    attempt action state = (.ok value, next) := by
  rw [attempt, step]

/-- A step that fails is an attempt with an error. -/
theorem attempt_error (step : action state = .error error next) :
    attempt action state = (.error error, next) := by
  rw [attempt, step]

/-- An attempt with a value is a step that succeeds. -/
theorem eq_ok_of_attempt (result : (attempt action state).1 = .ok value) :
    action state = .ok value (attempt action state).2 := by
  cases step : action state with
  | ok other next =>
    rw [attempt, step] at result
    cases result
    rw [attempt, step]
  | error error next =>
    rw [attempt, step] at result
    cases result

/-- An attempt with an error is a step that fails. -/
theorem eq_error_of_attempt (result : (attempt action state).1 = .error error) :
    action state = .error error (attempt action state).2 := by
  cases step : action state with
  | ok value next =>
    rw [attempt, step] at result
    cases result
  | error other next =>
    rw [attempt, step] at result
    cases result
    rw [attempt, step]

/-- The state that a step leaves is where the rest begins. -/
theorem attempt_bind_ok (step : action state = .ok value next) (rest : α → EStateM ε σ β) :
    attempt (action >>= rest) state = attempt (rest value) next := by
  rw [attempt, bind_ok step, attempt]

/-- Renaming errors leaves the same state. -/
theorem attempt_adapt (action : EStateM ε σ α) (rename : ε → δ) (state : σ) :
    (attempt (EStateM.adaptExcept rename action) state).2 = (attempt action state).2 := by
  rw [attempt, attempt, EStateM.adaptExcept]
  cases action state <;> rfl

/-- However the action ends, the state that it leaves is in relation to the one it began in. -/
def Along (relation : σ → σ → Prop) (action : EStateM ε σ α) : Prop :=
  ∀ state, relation state (attempt action state).2

namespace Along

variable {relation : σ → σ → Prop} [IsPreorder σ relation]

/-- A value alone leaves the state as it is. -/
theorem pure (value : α) : Along relation (pure value : EStateM ε σ α) :=
  fun state => Std.Refl.refl (r := relation) state

/-- An error alone leaves the state as it is. -/
theorem throw (error : ε) : Along relation (throw error : EStateM ε σ α) :=
  fun state => Std.Refl.refl (r := relation) state

/-- Looking at the state leaves it as it is. -/
theorem get : Along relation (get : EStateM ε σ σ) :=
  fun state => Std.Refl.refl (r := relation) state

omit [IsPreorder σ relation] in
/-- A change of the state that keeps the relation. -/
theorem modify {change : σ → σ} (kept : ∀ state, relation state (change state)) :
    Along relation (modify change : EStateM ε σ PUnit) :=
  kept

/-- What follows an action runs on from the state that the action leaves. -/
theorem bind_end {rest : α → EStateM ε σ β} (action : EStateM ε σ α)
    (later : ∀ value, Along relation (rest value)) (state : σ) :
    relation (attempt action state).2 (attempt (action >>= rest) state).2 := by
  cases step : action state with
  | ok value next =>
    rw [attempt_bind_ok step, attempt, step]
    exact later value next
  | error error next =>
    rw [attempt, attempt, bind_error step, step]
    exact Std.Refl.refl (r := relation) next

/-- Actions in sequence. -/
theorem bind {rest : α → EStateM ε σ β} (first : Along relation action)
    (later : ∀ value, Along relation (rest value)) : Along relation (action >>= rest) :=
  fun state => IsTrans.trans (r := relation) _ _ _ (first state) (bind_end action later state)

omit [IsPreorder σ relation] in
/-- A function of the value changes nothing about the states. -/
theorem map (along : Along relation action) (change : α → β) :
    Along relation (change <$> action) := by
  intro state
  have step := along state
  cases result : action state with
  | ok value next =>
    rw [attempt, result] at step
    rw [attempt, map_ok result]
    exact step
  | error error next =>
    rw [attempt, result] at step
    rw [attempt, map_error result]
    exact step

omit [IsPreorder σ relation] in
/-- Renaming errors changes nothing about the states. -/
theorem adapt (along : Along relation action) (rename : ε → δ) :
    Along relation (EStateM.adaptExcept rename action) := by
  intro state
  rw [attempt_adapt]
  exact along state

end Along

end Bringup.Action

namespace Bringup.Part

variable {σ τ ρ ε α : Type}

/-- The whole with another part in the place of the one it has. -/
def put (place : Part σ τ) (state : σ) (part : τ) : σ := (place.split state).2 part

/-- An action that succeeds on the part succeeds on the whole and puts the part back. -/
theorem run_ok {place : Part σ τ} {action : EStateM ε τ α} {state : σ} {value : α} {part : τ}
    (step : action (place.get state) = .ok value part) :
    place.run action state = .ok value (place.put state part) := by
  rw [get] at step
  simp only [run, step, put]

/-- An action that fails on the part fails on the whole and puts the part back. -/
theorem run_error {place : Part σ τ} {action : EStateM ε τ α} {state : σ} {error : ε} {part : τ}
    (step : action (place.get state) = .error error part) :
    place.run action state = .error error (place.put state part) := by
  rw [get] at step
  simp only [run, step, put]

/-- An action on a part runs along a relation that the part has nothing to do with. -/
theorem run_along {relation : σ → σ → Prop} {place : Part σ τ}
    (kept : ∀ state part, relation state (place.put state part)) (action : EStateM ε τ α) :
    Action.Along relation (place.run action) := by
  intro state
  cases step : action (place.get state) with
  | ok value part =>
    rw [attempt, run_ok step]
    exact kept state part
  | error error part =>
    rw [attempt, run_error step]
    exact kept state part

end Bringup.Part
