import Bringup.Board.SimulatedPins
import Bringup.Proofs.Action
/-!
# What a record of pin calls shows

Pins can keep a record of their calls, which changes nothing else about them. Read from the levels
that the lines were driven to before, a record shows when the data line moves while the clock is
high, with which level on the data line the clock rises, and what is sampled behind a wait
(`Lines.events`). Samples that are taken without a wait, such as those that look whether the clock
is held low, show nothing (`Lines.events_polls`).
-/

namespace Bringup

namespace Pins

variable {σ ε α : Type}

/-- A call with a record of it. -/
def recorded (action : EStateM ε σ α) (call : α → PinCall) : EStateM ε (σ × List PinCall) α := do
  let value ← Part.first.run action
  Part.second.update (· ++ [call value])
  pure value

/-- The pins with a record of their calls. -/
def recording (pins : Pins σ ε) : Pins (σ × List PinCall) ε where
  write clock data := recorded (pins.write clock data) fun _ => .write clock data
  read := recorded pins.read fun levels => .read levels.1 levels.2
  delay := recorded pins.delay fun _ => .delay

/-- A call that succeeds is recorded with its answer. -/
theorem recorded_ok {action : EStateM ε σ α} {state next : σ} {value : α}
    (step : action state = .ok value next) (call : α → PinCall) (record : List PinCall) :
    recorded action call (state, record) = .ok value (next, record ++ [call value]) := by
  rw [recorded, Action.bind_ok (Part.run_ok step)]
  rfl

end Pins

namespace I2c

/-- What happens on the lines of a bus. -/
inductive LineEvent where
  /-- The data line falls while the clock is high. -/
  | start
  /-- The data line rises while the clock is high. -/
  | stop
  /-- The clock rises with this level on the data line. -/
  | rise (data : Bool)
  /-- Behind a wait the data line is found at this level. -/
  | sample (data : Bool)
  deriving DecidableEq

/-- The levels that the lines are driven to, and whether the last call was a wait. -/
structure Lines where
  clock : Bool
  data : Bool
  waited : Bool
  deriving DecidableEq

namespace Lines

/-- Both lines are released. -/
def released : Lines := ⟨true, true, false⟩

/-- The lines after a call. -/
def next (lines : Lines) : PinCall → Lines
  | .write clock data => ⟨clock, data, false⟩
  | .read _ _ => { lines with waited := false }
  | .delay => { lines with waited := true }

/-- What a call shows. -/
def shows (lines : Lines) : PinCall → List LineEvent
  | .write clock data =>
    if lines.clock && clock then
      if lines.data == data then [] else if data then [.stop] else [.start]
    else if clock then [.rise data] else []
  | .read _ data => if lines.waited then [.sample data] else []
  | .delay => []

/-- The lines after calls. -/
def after (lines : Lines) (calls : List PinCall) : Lines := calls.foldl next lines

/-- What calls show. -/
def events (lines : Lines) : List PinCall → List LineEvent
  | [] => []
  | call :: rest => lines.shows call ++ (lines.next call).events rest

variable {lines : Lines}

/-- Calls in two parts leave the lines as the second part leaves them. -/
theorem after_append (lines : Lines) (front back : List PinCall) :
    lines.after (front ++ back) = (lines.after front).after back :=
  List.foldl_append

/-- Calls in two parts show what the first part shows and then what the second does. -/
theorem events_append (lines : Lines) (front back : List PinCall) :
    lines.events (front ++ back) = lines.events front ++ (lines.after front).events back := by
  induction front generalizing lines with
  | nil => rfl
  | cons call rest ih =>
    rw [List.cons_append, events, events, ih, List.append_assoc]
    rfl

end Lines

/-- Looks at the lines. -/
def IsRead (call : PinCall) : Prop := ∃ clock data, call = .read clock data

/-- Looks that do not follow a wait show nothing and change nothing. -/
theorem Lines.events_polls {lines : Lines} (still : lines.waited = false) {polls : List PinCall}
    (reads : ∀ call ∈ polls, IsRead call) :
    lines.events polls = [] ∧ lines.after polls = lines := by
  induction polls with
  | nil => exact ⟨rfl, rfl⟩
  | cons call rest ih =>
    obtain ⟨⟨clock, data, rfl⟩, others⟩ := List.forall_mem_cons.1 reads
    obtain ⟨nothing, same⟩ := ih others
    have kept : lines.next (.read clock data) = lines := by
      rw [next, ← still]
    constructor
    · rw [events, kept, nothing, shows, still]
      rfl
    · rw [after, List.foldl_cons, kept]
      exact same

end I2c

end Bringup
