import Bringup.Wire.Message
/-!
# Whole streams

Decodes a stream item by item until the transfer fails, and performs a list of actions one
after the other whether or not they fail. Each result comes with the state after it.
-/

namespace Bringup

variable {σ ε α : Type}

/-- Runs an action and keeps its result apart from the state it leaves. -/
def attempt (action : EStateM ε σ α) (state : σ) : Except ε α × σ :=
  match action state with
  | .ok value state => (.ok value, state)
  | .error error state => (.error error, state)

/-- Performs actions one after the other, also after a failure. -/
def attemptAll : List (EStateM ε σ α) → σ → List (Except ε α × σ)
  | [], _ => []
  | action :: rest, state =>
    let result := attempt action state
    result :: attemptAll rest result.2

/-- Decodes at most `rounds` items, up to and including the first failed transfer. -/
def decodeItems (receive : EStateM (DecodeError ε) σ α) : (rounds : Nat) → σ →
    List (Except (DecodeError ε) α × σ)
  | 0, _ => []
  | rounds + 1, state =>
    match attempt receive state with
    | (.error (.transfer error), state) => [(.error (.transfer error), state)]
    | (result, state) => (result, state) :: decodeItems receive rounds state

/-- Decodes a stream to its end. Every item takes at least one byte. -/
def decodeStream (stream : ByteStream σ ε) (receive : EStateM (DecodeError ε) σ α) (state : σ) :
    List (Except (DecodeError ε) α × σ) :=
  decodeItems receive (stream.pending state + 1) state

end Bringup
