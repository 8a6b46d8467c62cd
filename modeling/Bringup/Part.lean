import Bringup.Log
import Bringup.Stream.Basic
/-!
# Parts of a larger state

A part of a state can be taken out and put back. An action on the part is an action on the
whole that leaves everything else alone.
-/

namespace Bringup

/-- Where a `τ` lies inside a `σ`: the part, and how to put another in its place. -/
structure Part (σ τ : Type) where
  split : σ → τ × (τ → σ)

namespace Part

variable {σ τ ρ ε α : Type}

/-- The first component of a pair. -/
def first : Part (τ × ρ) τ := ⟨fun (part, rest) => (part, fun new => (new, rest))⟩

/-- The second component of a pair. -/
def second : Part (ρ × τ) τ := ⟨fun (rest, part) => (part, fun new => (rest, new))⟩

/-- Looks at the part. -/
def get (place : Part σ τ) (state : σ) : τ := (place.split state).1

/-- Runs an action on the part. -/
def run (place : Part σ τ) (action : EStateM ε τ α) : EStateM ε σ α := fun state =>
  let (part, put) := place.split state
  match action part with
  | .ok value part => .ok value (put part)
  | .error error part => .error error (put part)

/-- Changes the part. -/
def update (place : Part σ τ) (change : τ → τ) : EStateM ε σ Unit :=
  place.run (modify change)

/-- A stream over the part is a stream over the whole. -/
def stream (place : Part σ τ) (inner : ByteStream τ ε) : ByteStream σ ε where
  read count := place.run (inner.read count)
  write bytes := place.run (inner.write bytes)
  flush := place.run inner.flush
  pending state := inner.pending (place.get state)

end Part

/-- A logger over a part of a state is a logger over the whole. -/
def Logger.onPart {σ τ ε : Type} (log : Logger τ ε) (place : Part σ τ) : Logger σ ε :=
  fun record => place.run (log record)

end Bringup
