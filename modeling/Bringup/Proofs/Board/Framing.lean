import Bringup.Proofs.Board.Bits
import Bringup.Proofs.Board.Course
import Mathlib.Tactic.IntervalCases
/-!
# Register transfers on the lines

On pins that cannot fail, whatever they answer, a register transfer makes calls that show one of
the courses of its plan (`Sends`). Main statement: every transfer that begins with released lines is
well framed and leaves them released, whether it succeeds, is not acknowledged, or finds the clock
held low for too long, and which of the three it is can be told from the record
(`transfers_framed`).

The record of the calls is kept by `Pins.recording`, so each run is taken twice, with the record and
without it (`Runs`).
-/

namespace Bringup.I2c

variable {σ α β : Type}

/-- How an action ends, as a result on pins that cannot fail. -/
def ending (exit : Except I2cError α) (state : σ) : EStateM.Result (I2cTrap Empty) σ α :=
  match exit with
  | .ok value => .ok value state
  | .error error => .error (.bus error) state

/-- What went wrong, if anything did. -/
def failure? : Except I2cError α → Option I2cError
  | .ok _ => none
  | .error error => some error

/-- From a state the action ends in this way and makes these calls, which are appended to a record
where one is kept. -/
structure Runs (noted : Transfer (σ × List PinCall) Empty α) (plain : Transfer σ Empty α)
    (state : σ) (exit : Except I2cError α) (calls : List PinCall) (next : σ) : Prop where
  plain : plain state = ending exit next
  noted : ∀ record, noted (state, record) = ending exit (next, record ++ calls)

namespace Runs

variable {noted : Transfer (σ × List PinCall) Empty α} {plain : Transfer σ Empty α}
  {later : α → Transfer (σ × List PinCall) Empty β} {rest : α → Transfer σ Empty β}
  {state middle next : σ} {calls others : List PinCall}

/-- A value alone makes no call. -/
theorem pure (value : α) (state : σ) :
    Runs (pure value) (pure value : Transfer σ Empty α) state (.ok value) [] state where
  plain := rfl
  noted record := by
    rw [List.append_nil]
    rfl

/-- An error alone makes no call. -/
theorem throw (error : I2cError) (state : σ) :
    Runs (throw (.bus error)) (throw (.bus error) : Transfer σ Empty α) state (.error error) []
      state where
  plain := rfl
  noted record := by
    rw [List.append_nil]
    rfl

/-- Actions in sequence make the calls of both. -/
theorem bind {value : α} {exit : Except I2cError β}
    (first : Runs noted plain state (.ok value) calls middle)
    (second : Runs (later value) (rest value) middle exit others next) :
    Runs (noted >>= later) (plain >>= rest) state exit (calls ++ others) next where
  plain := (Action.bind_ok first.plain rest).trans second.plain
  noted record := by
    rw [Action.bind_ok (first.noted record), second.noted, List.append_assoc]

/-- After an action that fails no call is made. -/
theorem bind_error {error : I2cError} (first : Runs noted plain state (.error error) calls next) :
    Runs (noted >>= later) (plain >>= rest) state (.error error) calls next where
  plain := Action.bind_error first.plain rest
  noted record := Action.bind_error (first.noted record) later

end Runs

/-- A call of pins that cannot fail succeeds. -/
theorem call_runs (action : EStateM Empty σ α) (call : α → PinCall) (state : σ) :
    ∃ value next, Runs (onPins (Pins.recorded action call)) (onPins action) state (.ok value)
      [call value] next := by
  cases step : action state with
  | ok value next =>
    exact ⟨value, next, Action.adapt_ok step _, fun record =>
      Action.adapt_ok (Pins.recorded_ok step call record) _⟩
  | error error => cases error

variable (pins : Pins σ Empty)

/-- Driving the lines is one call. -/
theorem drive_runs (clock data : Bool) (state : σ) :
    ∃ next, Runs (onPins (pins.recording.write clock data)) (onPins (pins.write clock data)) state
      (.ok ()) [.write clock data] next := by
  obtain ⟨_, next, runs⟩ := call_runs (pins.write clock data) (fun _ => .write clock data) state
  exact ⟨next, runs⟩

/-- Waiting is one call. -/
theorem delay_runs (state : σ) :
    ∃ next,
      Runs (onPins pins.recording.delay) (onPins pins.delay) state (.ok ()) [.delay] next := by
  obtain ⟨_, next, runs⟩ := call_runs pins.delay (fun _ => .delay) state
  exact ⟨next, runs⟩

/-- Looking at the lines is one call. -/
theorem read_runs (state : σ) :
    ∃ clock data next, Runs (onPins pins.recording.read) (onPins pins.read) state
      (.ok (clock, data)) [.read clock data] next := by
  obtain ⟨⟨clock, data⟩, next, runs⟩ :=
    call_runs pins.read (fun levels => .read levels.1 levels.2) state
  exact ⟨clock, data, next, runs⟩

/-- The calls that drive the lines and wait. -/
def setCalls (clock data : Bool) : List PinCall := [.write clock data, .delay]

/-- The calls of a start. -/
def startCalls : List PinCall := setCalls true true ++ (setCalls true false ++ setCalls false false)

/-- The calls of a stop. -/
def stopCalls : List PinCall := setCalls false false ++ (setCalls true false ++ setCalls true true)

/-- Finds the clock low. -/
def IsLow (call : PinCall) : Prop := ∃ data, call = .read false data

/-- The calls do not end with a look at the lines. -/
def Settled (calls : List PinCall) : Prop := ∀ call, calls.getLast? = some call → ¬IsRead call

/-- Right before a stop, which ends the calls, the clock was looked at as often as it ever is, and
found low each time. -/
def HeldLow (calls : List PinCall) : Prop :=
  ∃ front polls, calls = front ++ (polls ++ stopCalls) ∧ polls.length = stretchPolls ∧
    ∀ call ∈ polls, IsLow call

/-- No call is no look. -/
theorem Settled.nil : Settled [] := fun _ member => by cases member

/-- Calls that end with a wait are settled. -/
theorem settled_of_delay {calls : List PinCall} (waits : calls.getLast? = some .delay) :
    Settled calls := by
  rintro _ last ⟨_, _, rfl⟩
  rw [waits] at last
  cases last

/-- Settled calls in sequence are settled. -/
theorem Settled.append {front back : List PinCall} (first : Settled front)
    (second : Settled back) : Settled (front ++ back) := by
  by_cases nothing : back = []
  · rwa [nothing, List.append_nil]
  · intro call last
    rw [List.getLast?_append_of_ne_nil front nothing] at last
    exact second call last

/-- A start ends with a wait. -/
theorem settled_startCalls : Settled startCalls := settled_of_delay rfl

/-- A clock that was held low was looked at right before the stop. -/
theorem not_heldLow {front : List PinCall} (settled : Settled front) :
    ¬HeldLow (front ++ stopCalls) := by
  rintro ⟨before, polls, same, counted, low⟩
  rw [← List.append_assoc, List.append_cancel_right_eq] at same
  cases found : polls.getLast? with
  | none =>
    rw [List.getLast?_eq_none_iff.1 found] at counted
    cases counted
  | some last =>
    obtain ⟨data, rfl⟩ := low last (List.mem_of_getLast? found)
    refine settled (.read false data) ?_ ⟨false, data, rfl⟩
    rw [same, List.getLast?_append, found]
    rfl

/-- What calls end with: they are settled, or where the master gave up there is a stop at the end,
right behind the looks at a clock that was held. -/
def Leaves : Option I2cError → List PinCall → Prop
  | none, calls => Settled calls
  | some .nack, calls => ∃ front, calls = front ++ stopCalls ∧ Settled front
  | some .clockStretchTimeout, calls => HeldLow calls

/-- Settled calls before them change nothing about that. -/
theorem Leaves.behind {failure : Option I2cError} {calls front : List PinCall}
    (leaves : Leaves failure calls) (settled : Settled front) :
    Leaves failure (front ++ calls) := by
  cases failure with
  | none => exact settled.append leaves
  | some error =>
    cases error with
    | nack =>
      obtain ⟨own, rfl, before⟩ := leaves
      exact ⟨front ++ own, (List.append_assoc ..).symm, settled.append before⟩
    | clockStretchTimeout =>
      obtain ⟨own, polls, rfl, counted, low⟩ := leaves
      exact ⟨front ++ own, polls, (List.append_assoc ..).symm, counted, low⟩

/-- Driving the lines and waiting makes two calls. -/
theorem set_runs (clock data : Bool) (state : σ) :
    ∃ next, Runs (set pins.recording clock data) (set pins clock data) state (.ok ())
      (setCalls clock data) next := by
  obtain ⟨middle, driven⟩ := drive_runs pins clock data state
  obtain ⟨next, waited⟩ := delay_runs pins middle
  exact ⟨next, driven.bind waited⟩

/-- A start makes its calls. -/
theorem start_runs (state : σ) :
    ∃ next, Runs (start pins.recording) (start pins) state (.ok ()) startCalls next := by
  obtain ⟨high, released⟩ := set_runs pins true true state
  obtain ⟨falling, fallen⟩ := set_runs pins true false high
  obtain ⟨next, low⟩ := set_runs pins false false falling
  exact ⟨next, released.bind (fallen.bind low)⟩

/-- A stop makes its calls. -/
theorem stop_runs (state : σ) :
    ∃ next, Runs (stop pins.recording) (stop pins) state (.ok ()) stopCalls next := by
  obtain ⟨low, pulled⟩ := set_runs pins false false state
  obtain ⟨rising, risen⟩ := set_runs pins true false low
  obtain ⟨next, released⟩ := set_runs pins true true rising
  exact ⟨next, pulled.bind (risen.bind released)⟩

/-- Waiting for the clock only looks at the lines, until it finds the clock high. It gives up with a
stop when it has found the clock low as often as it looks. -/
theorem awaitClock_runs (polls : Nat) (state : σ) :
    ∃ reads next,
      (Runs (awaitClock pins.recording polls) (awaitClock pins polls) state (.ok ()) reads next ∧
        ∀ call ∈ reads, IsRead call) ∨
      (Runs (awaitClock pins.recording polls) (awaitClock pins polls) state
          (.error .clockStretchTimeout) (reads ++ stopCalls) next ∧
        reads.length = polls ∧ ∀ call ∈ reads, IsLow call) := by
  induction polls generalizing state with
  | zero =>
    obtain ⟨next, stopped⟩ := stop_runs pins state
    exact ⟨[], next, .inr ⟨stopped.bind (.throw .clockStretchTimeout next), rfl, by simp⟩⟩
  | succ polls ih =>
    obtain ⟨clock, data, middle, looked⟩ := read_runs pins state
    cases clock with
    | true =>
      exact ⟨[.read true data], middle, .inl ⟨looked.bind (.pure () middle), by simp [IsRead]⟩⟩
    | false =>
      obtain ⟨reads, next, ⟨ran, only⟩ | ⟨ran, counted, low⟩⟩ := ih middle
      · exact ⟨.read false data :: reads, next,
          .inl ⟨looked.bind ran, List.forall_mem_cons.2 ⟨⟨false, data, rfl⟩, only⟩⟩⟩
      · exact ⟨.read false data :: reads, next, .inr ⟨looked.bind ran,
          congrArg (· + 1) counted, List.forall_mem_cons.2 ⟨⟨data, rfl⟩, low⟩⟩⟩

/-- Where the lines are left: the clock is low between the slots, and both lines are released when
the master has given up. -/
def Lines.Rests (lines : Lines) : Option I2cError → Prop
  | none => lines.clock = false
  | some _ => lines.clock = true ∧ lines.data = true

/-- What the calls of a part of a transfer show that begins with these lines. -/
structure Shows (plan : List Slot) (lines : Lines) (failure : Option I2cError)
    (calls : List PinCall) : Prop where
  course : Course plan failure (lines.events calls)
  rests : (lines.after calls).Rests failure
  leaves : Leaves failure calls

/-- From any state in which the clock is driven low, the action goes through this plan or gives up
on the way. If it succeeds, its value is in this relation with the levels that it sampled. -/
def Sends (noted : Transfer (σ × List PinCall) Empty α) (plain : Transfer σ Empty α)
    (plan : List Slot) (tells : α → List Bool → Prop) : Prop :=
  ∀ (state : σ) (lines : Lines), lines.clock = false → ∃ exit calls next,
    Runs noted plain state exit calls next ∧ Shows plan lines (failure? exit) calls ∧
      ∀ value, exit = .ok value → tells value (samples (lines.events calls))

namespace Sends

variable {noted : Transfer (σ × List PinCall) Empty α} {plain : Transfer σ Empty α}
  {later : α → Transfer (σ × List PinCall) Empty β} {rest : α → Transfer σ Empty β}
  {front back : List Slot} {tells : α → List Bool → Prop} {follows : α → β → List Bool → Prop}

/-- A value alone sends nothing. -/
theorem pure (value : α) : Sends (pure value) (pure value : Transfer σ Empty α) []
    fun result bits => result = value ∧ bits = [] := by
  intro state lines low
  refine ⟨.ok value, [], state, .pure value state, ⟨.done, low, .nil⟩, fun result same => ?_⟩
  cases same
  exact ⟨rfl, rfl⟩

/-- Actions in sequence send what the first sends and then what the second does. -/
theorem bind (first : Sends noted plain front tells)
    (second : ∀ value, Sends (later value) (rest value) back (follows value)) :
    Sends (noted >>= later) (plain >>= rest) (front ++ back) fun result bits =>
      ∃ value before after, bits = before ++ after ∧ tells value before ∧
        follows value result after := by
  intro state lines low
  obtain ⟨exit, calls, middle, ran, shows, told⟩ := first state lines low
  cases exit with
  | error error =>
    refine ⟨.error error, calls, middle, ran.bind_error, ⟨?_, shows.rests, shows.leaves⟩,
      fun _ same => by cases same⟩
    exact Course.append_iff.2 (.inr ⟨by simp [failure?], shows.course⟩)
  | ok value =>
    obtain ⟨exit, others, next, ranOn, further, toldOn⟩ :=
      second value middle (lines.after calls) shows.rests
    refine ⟨exit, calls ++ others, next, ran.bind ranOn, ⟨?_, ?_, ?_⟩, fun result same => ?_⟩
    · rw [Lines.events_append]
      exact Course.append_iff.2 (.inl ⟨_, _, rfl, shows.course, further.course⟩)
    · rw [Lines.after_append]
      exact further.rests
    · exact further.leaves.behind shows.leaves
    · rw [Lines.events_append, samples_append]
      exact ⟨value, _, _, rfl, told value rfl, toldOn result same⟩

/-- A weaker relation between value and samples. -/
theorem imp {weaker : α → List Bool → Prop} (sends : Sends noted plain front tells)
    (implied : ∀ value bits, tells value bits → weaker value bits) :
    Sends noted plain front weaker := by
  intro state lines low
  obtain ⟨exit, calls, next, ran, shows, told⟩ := sends state lines low
  exact ⟨exit, calls, next, ran, shows, fun value same => implied _ _ (told value same)⟩

end Sends

/-- A start of its own shows the data line falling. -/
theorem start_shows (lines : Lines) (released : lines.clock = true ∧ lines.data = true) :
    lines.events startCalls = [.start] ∧ (lines.after startCalls).clock = false := by
  obtain ⟨clock, data, waited⟩ := lines
  obtain ⟨rfl, rfl⟩ := released
  exact ⟨rfl, rfl⟩

/-- A start behind other slots lets the clock rise before. -/
theorem restart_shows (lines : Lines) (low : lines.clock = false) :
    lines.events startCalls = [.rise true, .start] ∧ (lines.after startCalls).clock = false := by
  obtain ⟨clock, data, waited⟩ := lines
  obtain rfl : clock = false := low
  exact ⟨rfl, rfl⟩

/-- A stop lets the clock rise, and then the data line. Both end released. -/
theorem stop_shows (lines : Lines) : lines.events stopCalls = stopEvents ∧
    (lines.after stopCalls).clock = true ∧ (lines.after stopCalls).data = true := by
  obtain ⟨clock, data, waited⟩ := lines
  cases clock <;> exact ⟨rfl, rfl, rfl⟩

/-- In a slot the clock rises once, with the level of the slot; the looks at the clock behind it
show nothing. -/
theorem slot_shows {lines : Lines} (low : lines.clock = false) (level : Bool)
    {reads : List PinCall} (only : ∀ call ∈ reads, IsRead call) (tail : List PinCall) :
    let calls := setCalls false level ++ ([.write true level] ++ (reads ++ tail))
    lines.events calls = .rise level :: (Lines.mk true level false).events tail ∧
      lines.after calls = (Lines.mk true level false).after tail := by
  obtain ⟨clock, data, waited⟩ := lines
  obtain rfl : clock = false := low
  have still : (Lines.mk true level false).waited = false := rfl
  obtain ⟨nothing, same⟩ := Lines.events_polls still only
  constructor
  · show .rise level :: (Lines.mk true level false).events (reads ++ tail) = _
    rw [Lines.events_append, nothing, same]
    rfl
  · show (Lines.mk true level false).after (reads ++ tail) = _
    rw [Lines.after_append, same]

/-- A slot in which the clock is held low for too long ends with a stop. -/
theorem stretched_shows {lines : Lines} (low : lines.clock = false) (slot : Slot) {level : Bool}
    (spells : slot.level? = some level) {reads : List PinCall}
    (counted : reads.length = stretchPolls) (held : ∀ call ∈ reads, IsLow call) :
    Shows [slot] lines (some .clockStretchTimeout)
      (setCalls false level ++ ([.write true level] ++ (reads ++ stopCalls))) := by
  have only : ∀ call ∈ reads, IsRead call := by
    intro call among
    obtain ⟨data, rfl⟩ := held call among
    exact ⟨false, data, rfl⟩
  obtain ⟨shown, left⟩ := slot_shows low level only stopCalls
  obtain ⟨stopped, released⟩ := stop_shows ⟨true, level, false⟩
  refine ⟨?_, ?_, ?_⟩
  · rw [shown, stopped]
    exact .stretched [] spells
  · rw [left]
    exact released
  · exact ⟨setCalls false level ++ [.write true level], reads, by simp, counted, held⟩

/-- Sending a bit is one slot. -/
theorem writeBit_sends (bit : Bool) :
    Sends (writeBit pins.recording bit) (writeBit pins bit) [.send bit]
      fun _ bits => bits = [] := by
  intro state lines low
  obtain ⟨first, set⟩ := set_runs pins false bit state
  obtain ⟨second, risen⟩ := drive_runs pins true bit first
  obtain ⟨reads, third, ⟨high, only⟩ | ⟨stretched, counted, held⟩⟩ :=
    awaitClock_runs pins stretchPolls second
  · obtain ⟨fourth, waited⟩ := delay_runs pins third
    obtain ⟨next, fallen⟩ := set_runs pins false bit fourth
    obtain ⟨shown, left⟩ := slot_shows low bit only ([.delay] ++ setCalls false bit)
    refine ⟨.ok (), _, next, set.bind (risen.bind (high.bind (waited.bind fallen))),
      ⟨?_, ?_, ?_⟩, ?_⟩
    · rw [shown]
      exact .send bit .done
    · rw [left]
      rfl
    · exact settled_of_delay (by simp [setCalls, List.getLast?_cons])
    · rw [shown]
      exact fun _ _ => rfl
  · exact ⟨.error .clockStretchTimeout, _, third, set.bind (risen.bind stretched.bind_error),
      stretched_shows low (.send bit) rfl counted held, fun _ same => by cases same⟩

/-- Receiving a bit is one slot, and the bit is what was sampled. -/
theorem readBit_sends :
    Sends (readBit pins.recording) (readBit pins) [.receive] fun bit bits => bits = [bit] := by
  intro state lines low
  obtain ⟨first, set⟩ := set_runs pins false true state
  obtain ⟨second, risen⟩ := drive_runs pins true true first
  obtain ⟨reads, third, ⟨high, only⟩ | ⟨stretched, counted, held⟩⟩ :=
    awaitClock_runs pins stretchPolls second
  · obtain ⟨fourth, waited⟩ := delay_runs pins third
    obtain ⟨clock, bit, fifth, sampled⟩ := read_runs pins fourth
    obtain ⟨next, fallen⟩ := set_runs pins false true fifth
    obtain ⟨shown, left⟩ := slot_shows low true only
      ([.delay] ++ ([.read clock bit] ++ (setCalls false true ++ [])))
    refine ⟨.ok bit, _, next, set.bind (risen.bind (high.bind (waited.bind (sampled.bind
      (fallen.bind (.pure bit next)))))), ⟨?_, ?_, ?_⟩, fun value same => ?_⟩
    · rw [shown]
      exact .receive bit .done
    · rw [left]
      rfl
    · exact settled_of_delay (by simp [setCalls, List.getLast?_cons])
    · rw [shown]
      cases same
      rfl
  · exact ⟨.error .clockStretchTimeout, _, third, set.bind (risen.bind stretched.bind_error),
      stretched_shows low .receive rfl counted held, fun _ same => by cases same⟩

/-- Sending bits takes a slot for each. -/
theorem writeBits_sends (bits : List Bool) :
    Sends (writeBits pins.recording bits) (writeBits pins bits) (bits.map .send)
      fun _ sampled => sampled = [] := by
  induction bits with
  | nil => exact (Sends.pure ()).imp fun _ _ told => told.2
  | cons bit rest ih =>
    refine ((writeBit_sends pins bit).bind fun _ => ih).imp ?_
    rintro _ _ ⟨_, _, _, rfl, rfl, rfl⟩
    rfl

/-- Receiving bits takes a slot for each, and the byte is put together from what was sampled. -/
theorem readBits_sends (count : Nat) (byte : UInt8) :
    Sends (readBits pins.recording count byte) (readBits pins count byte)
      (List.replicate count .receive) fun result sampled =>
        sampled.length = count ∧ result = sampled.foldl appendBit byte := by
  induction count generalizing byte with
  | zero =>
    refine (Sends.pure byte).imp ?_
    rintro _ _ ⟨rfl, rfl⟩
    exact ⟨rfl, rfl⟩
  | succ count ih =>
    refine ((readBit_sends pins).bind fun bit => ih (appendBit byte bit)).imp ?_
    rintro _ _ ⟨bit, _, rest, rfl, rfl, length, rfl⟩
    exact ⟨congrArg (· + 1) length, rfl⟩

/-- Sending a byte takes a slot for each bit and one to ask for the acknowledgement, which is a low
level. -/
theorem write_sends (byte : UInt8) :
    Sends (write pins.recording byte) (write pins byte) ((bitsOf byte).map .send ++ [.receive])
      fun acknowledged bits => bits = [!acknowledged] := by
  refine ((writeBits_sends pins (bitsOf byte)).bind fun _ =>
    (readBit_sends pins).bind fun bit => .pure !bit).imp ?_
  rintro _ _ ⟨_, _, _, rfl, rfl, bit, _, _, rfl, rfl, rfl, rfl⟩
  rw [Bool.not_not]
  rfl

/-- A byte that has to be acknowledged is sent, or the master gives up. -/
theorem writeAcknowledged_sends (byte : UInt8) :
    Sends (writeAcknowledged pins.recording byte) (writeAcknowledged pins byte) (byteSlots byte)
      fun _ bits => bits = [false] := by
  intro state lines low
  obtain ⟨exit, calls, middle, ran, ⟨course, rests, leaves⟩, told⟩ :=
    write_sends pins byte state lines low
  cases exit with
  | error error =>
    refine ⟨.error error, calls, middle, ran.bind_error, ⟨?_, rests, leaves⟩,
      fun _ same => by cases same⟩
    -- To `write` the acknowledgement is one more bit to receive, which may be held like any other.
    rcases Course.append_iff.1 course with ⟨first, _, shown, passed, asking⟩ | gaveUp
    · rw [shown]
      cases asking with
      | stretched _ level =>
        exact Course.append_iff.2 (.inl ⟨first, _, rfl, passed, .stretched _ level⟩)
      | receive _ ended => cases ended
    · exact Course.append_iff.2 (.inr gaveUp)
  | ok acknowledged =>
    obtain ⟨first, _, shown, passed, asking⟩ :=
      (Course.append_iff.1 course).resolve_right fun gaveUp => gaveUp.1 rfl
    cases asking with
    | receive bit ended =>
      cases ended
      have sampled := told acknowledged rfl
      rw [shown] at sampled
      have found : samples first ++ [bit] = [] ++ [!acknowledged] :=
        (samples_append _ _).symm.trans sampled
      have found := (List.append_inj' found rfl).2
      obtain rfl : bit = !acknowledged := List.singleton_inj.1 found
      cases acknowledged with
      | true =>
        refine ⟨.ok (), _, middle, ran.bind (.pure () middle), ?_⟩
        rw [List.append_nil, shown]
        refine ⟨⟨?_, rests, leaves⟩, fun _ _ => sampled⟩
        rw [shown]
        exact Course.append_iff.2 (.inl ⟨first, _, rfl, passed, .acknowledge .done⟩)
      | false =>
        obtain ⟨next, stopped⟩ := stop_runs pins middle
        obtain ⟨stopShown, released⟩ := stop_shows (lines.after calls)
        refine ⟨.error .nack, _, next, ran.bind (stopped.bind (.throw .nack next)),
          ⟨?_, ?_, ?_⟩, fun _ same => by cases same⟩
        · rw [List.append_nil, Lines.events_append, stopShown, shown, List.append_assoc]
          exact Course.append_iff.2 (.inl ⟨first, _, rfl, passed, .refused []⟩)
        · rw [List.append_nil, Lines.after_append]
          exact released
        · rw [List.append_nil]
          exact ⟨calls, rfl, leaves⟩

/-- Receiving a byte without acknowledging it takes nine slots with the data line released. -/
theorem read_sends :
    Sends (read pins.recording false) (read pins false)
      receiveSlots fun byte bits => bits = bitsOf byte := by
  refine ((readBits_sends pins 8 0).bind fun byte =>
    (writeBit_sends pins true).bind fun _ => .pure byte).imp ?_
  rintro _ _ ⟨byte, bits, _, rfl, ⟨eight, rfl⟩, _, _, _, rfl, rfl, rfl, rfl⟩
  rw [List.append_nil, List.append_nil]
  exact (bitsOf_byteOf eight).symm

/-- A start behind other slots is one slot. -/
theorem start_sends :
    Sends (start pins.recording) (start pins) [.restart] fun _ bits => bits = [] := by
  intro state lines low
  obtain ⟨next, ran⟩ := start_runs pins state
  obtain ⟨shown, left⟩ := restart_shows lines low
  refine ⟨.ok (), startCalls, next, ran, ⟨?_, left, settled_startCalls⟩, fun _ _ => ?_⟩
  · rw [shown]
    exact .restart .done
  · rw [shown]
    rfl

/-- A transfer: a start, what is sent, and a stop. -/
def between (pins : Pins σ Empty) (body : Transfer σ Empty α) : Transfer σ Empty α := do
  start pins
  let value ← body
  stop pins
  pure value

/-- What a transfer sends begins with a start and ends with a stop, wherever it gives up. The clock
was held low exactly if it says so. -/
theorem between_runs {noted : Transfer (σ × List PinCall) Empty α} {plain : Transfer σ Empty α}
    {plan : List Slot} {tells : α → List Bool → Prop} (sends : Sends noted plain plan tells)
    (state : σ) :
    ∃ exit record next events,
      Runs (between pins.recording noted) (between pins plain) state exit record next ∧
      Course plan (failure? exit) events ∧
      Lines.released.events record = .start :: (events ++ closing (failure? exit)) ∧
      (Lines.released.after record).Rests (some .nack) ∧
      (failure? exit = some .clockStretchTimeout ↔ HeldLow record) ∧
      ∀ value, exit = .ok value → tells value (samples (Lines.released.events record)) := by
  obtain ⟨first, started⟩ := start_runs pins state
  obtain ⟨startShown, low⟩ := start_shows .released ⟨rfl, rfl⟩
  obtain ⟨exit, calls, second, ran, ⟨course, rests, leaves⟩, told⟩ :=
    sends first (Lines.released.after startCalls) low
  cases exit with
  | error error =>
    refine ⟨.error error, _, second, _, started.bind ran.bind_error, course, ?_, ?_, ?_,
      fun _ passed => by cases passed⟩
    · rw [Lines.events_append, startShown]
      exact (List.append_nil _).symm
    · rw [Lines.after_append]
      exact rests
    · have ends := leaves.behind settled_startCalls
      cases error with
      | clockStretchTimeout => exact iff_of_true rfl ends
      | nack =>
        obtain ⟨front, same, settled⟩ := ends
        rw [same]
        exact iff_of_false (by simp [failure?]) (not_heldLow settled)
  | ok value =>
    obtain ⟨next, stopped⟩ := stop_runs pins second
    obtain ⟨stopShown, ends⟩ := stop_shows ((Lines.released.after startCalls).after calls)
    have shown : Lines.released.events (startCalls ++ (calls ++ (stopCalls ++ []))) =
        .start :: ((Lines.released.after startCalls).events calls ++ closing none) := by
      rw [List.append_nil, Lines.events_append, Lines.events_append, startShown, stopShown]
      rfl
    refine ⟨.ok value, _, next, _, started.bind (ran.bind (stopped.bind (.pure value next))),
      course, shown, ?_, ?_, fun result passed => ?_⟩
    · rw [List.append_nil, Lines.after_append, Lines.after_append]
      exact ends
    · rw [List.append_nil, ← List.append_assoc]
      exact iff_of_false (by simp [failure?])
        (not_heldLow (settled_startCalls.append leaves))
    · rw [shown]
      simpa [samples, samples_closing] using told result passed

/-- The bits of bytes, each followed by a released bit for the acknowledgement. -/
def frame (bytes : List UInt8) : List Bool := bytes.flatMap fun byte => bitsOf byte ++ [true]

/-- What the record of a transfer shows that begins with released lines. -/
structure Framed (record : List PinCall) (planned : List Bool) (starts : Nat) : Prop where
  released : (Lines.released.after record).clock = true ∧ (Lines.released.after record).data = true
  begins : (Lines.released.events record).head? = some .start
  starts : (Lines.released.events record).count .start = starts
  stops : (Lines.released.events record).count .stop = 1
  ends : (Lines.released.events record).getLast? = some .stop
  spells : spelled (Lines.released.events record) <+: planned
  goes_on : ∀ byte, 9 * (byte + 1) < planned.length →
    (9 * (byte + 1) < (spelled (Lines.released.events record)).length ↔
      Acknowledged (Lines.released.events record) byte)

/-- Apart from its start and the stop that closes it, a transfer has the periods of its course. -/
theorem Course.periods_shown {plan : List Slot} {failure : Option I2cError}
    {events : List LineEvent} {record : List PinCall} (course : Course plan failure events)
    (shown : Lines.released.events record = .start :: (events ++ closing failure)) :
    periods (Lines.released.events record) = periods events := by
  rw [shown]
  exact course.periods_closing

/-- How a transfer ended can be told from its record: it was refused exactly if one of the three
bytes that it sends was, and it gave up waiting exactly if the last looks found the clock low. -/
structure Told (record : List PinCall) (failure : Option I2cError) : Prop where
  refused : failure = some .nack ↔
    ∃ byte < 3, Refused (Lines.released.events record) byte
  held : failure = some .clockStretchTimeout ↔ HeldLow record

/-- It can be told from what its course shows, where three bytes are planned. -/
theorem told_of_course {plan : List Slot} {failure : Option I2cError} {events : List LineEvent}
    {record : List PinCall} (course : Course plan failure events)
    (shown : Lines.released.events record = .start :: (events ++ closing failure))
    (asks : asked plan = [8, 17, 26])
    (held : failure = some .clockStretchTimeout ↔ HeldLow record) : Told record failure where
  refused := by
    have same := course.periods_shown shown
    rw [course.nack_iff, asks, ← same]
    constructor
    · rintro ⟨place, among, high⟩
      obtain rfl | rfl | rfl : place = 8 ∨ place = 17 ∨ place = 26 := by simpa using among
      · exact ⟨0, by decide, high⟩
      · exact ⟨1, by decide, high⟩
      · exact ⟨2, by decide, high⟩
    · rintro ⟨byte, three, high⟩
      refine ⟨9 * byte + 8, ?_, high⟩
      interval_cases byte <;> simp
  held := held

/-- A transfer is framed by what its courses show. -/
theorem framed_of_course {plan : List Slot} {failure : Option I2cError} {events : List LineEvent}
    {record : List PinCall} (course : Course plan failure events)
    (shown : Lines.released.events record = .start :: (events ++ closing failure))
    (released : (Lines.released.after record).Rests (some .nack))
    (onward : ∀ byte, 9 * (byte + 1) < (levels plan).length →
      (9 * (byte + 1) < (spelled events).length ↔ Acknowledged events byte)) :
    Framed record (levels plan) (events.count .start + 1) := by
  have same := course.periods_shown shown
  have spells : spelled (Lines.released.events record) = spelled events :=
    congrArg (List.map Prod.fst) same
  obtain ⟨front, ends, unstopped⟩ := course.stops
  have shownStop : Lines.released.events record = (.start :: front) ++ [.stop] := by
    rw [shown, ends, List.cons_append]
  refine ⟨released, ?_, ?_, ?_, ?_, ?_, ?_⟩
  · rw [shown, List.head?_cons]
  · rw [shown]
    simp [count_start_closing]
  · rw [shownStop, List.count_append, List.count_eq_zero.2 (by simpa using unstopped)]
    rfl
  · rw [shownStop, List.getLast?_concat]
  · rw [spells]
    exact course.spelled_prefix.1
  · intro byte further
    rw [spells, acknowledged_congr same]
    exact onward byte further

/-- The slots in which a register is written. -/
def writeSlots (address register value : UInt8) : List Slot :=
  byteSlots (address &&& 0xfe) ++ (byteSlots register ++ byteSlots value)

/-- The slots in which a register is read. -/
def readSlots (address register : UInt8) : List Slot :=
  byteSlots (address &&& 0xfe) ++ (byteSlots register ++ (.restart ::
    (byteSlots (address ||| 1) ++ receiveSlots)))

/-- Where a register is written, the bytes ask for their acknowledgements. -/
theorem asked_writeSlots (address register value : UInt8) :
    asked (writeSlots address register value) = [8, 17, 26] := by
  simp [writeSlots, byteSlots, bitsOf, asked]

/-- So do the bytes that are sent where one is read. -/
theorem asked_readSlots (address register : UInt8) :
    asked (readSlots address register) = [8, 17, 26] := by
  simp [readSlots, byteSlots, receiveSlots, bitsOf, asked, List.replicate_succ]

/-- What is sent between start and stop to write a register. -/
def writeBody (pins : Pins σ Empty) (address register value : UInt8) : Transfer σ Empty Unit := do
  writeAcknowledged pins (address &&& 0xfe)
  writeAcknowledged pins register
  writeAcknowledged pins value

/-- What is sent between start and stop to read a register. -/
def readBody (pins : Pins σ Empty) (address register : UInt8) : Transfer σ Empty UInt8 := do
  writeAcknowledged pins (address &&& 0xfe)
  writeAcknowledged pins register
  start pins
  writeAcknowledged pins (address ||| 1)
  read pins false

/-- Writing a register is a transfer of this kind. -/
theorem writeRegister_eq (pins : Pins σ Empty) (address register value : UInt8) :
    writeRegister pins address register value =
      between pins (writeBody pins address register value) := by
  simp [writeRegister, between, writeBody]

/-- Reading a register is a transfer of this kind. -/
theorem readRegister_eq (pins : Pins σ Empty) (address register : UInt8) :
    readRegister pins address register = between pins (readBody pins address register) := by
  simp [readRegister, between, readBody]

/-- A write sends its three bytes, and each that is followed by something was acknowledged. -/
theorem writeBody_sends (pins : Pins σ Empty) (address register value : UInt8) :
    Sends (writeBody pins.recording address register value) (writeBody pins address register value)
      (writeSlots address register value) fun _ bits => bits = [false, false, false] := by
  refine ((writeAcknowledged_sends pins _).bind fun _ =>
    (writeAcknowledged_sends pins _).bind fun _ => writeAcknowledged_sends pins _).imp ?_
  rintro _ _ ⟨_, _, _, rfl, rfl, _, _, _, rfl, rfl, rfl⟩
  rfl

/-- A read sends three bytes, the last of them behind a new start, and receives one. -/
theorem readBody_sends (pins : Pins σ Empty) (address register : UInt8) :
    Sends (readBody pins.recording address register) (readBody pins address register)
      (readSlots address register)
        fun value bits => bits = [false, false, false] ++ bitsOf value := by
  refine ((writeAcknowledged_sends pins _).bind fun _ => (writeAcknowledged_sends pins _).bind
    fun _ => (start_sends pins).bind fun _ => (writeAcknowledged_sends pins _).bind
    fun _ => read_sends pins).imp ?_
  rintro _ _ ⟨_, _, _, rfl, rfl, _, _, _, rfl, rfl, _, _, _, rfl, rfl, _, _, _, rfl, rfl, rfl⟩
  rfl

/-- What is shown when a register is written is framed by its three bytes, with one start. -/
theorem Course.write_framed {address register value : UInt8} {failure : Option I2cError}
    {events : List LineEvent} {record : List PinCall}
    (course : Course (writeSlots address register value) failure events)
    (shown : Lines.released.events record = .start :: (events ++ closing failure))
    (released : (Lines.released.after record).Rests (some .nack)) :
    Framed record (frame [address &&& 0xfe, register, value]) 1 := by
  have starts : events.count .start = 0 :=
    List.count_eq_zero.2 (course.start_notMem (by simp [writeSlots, byteSlots]))
  have framed := framed_of_course course shown released fun byte further => by
    have two : byte < 2 := by
      simp only [writeSlots, levels_append, levels_byteSlots, List.length_append, length_bitsOf,
        List.length_singleton] at further
      omega
    interval_cases byte
    · have first : Course ([] ++ (byteSlots (address &&& 0xfe) ++ (byteSlots register ++
        byteSlots value))) failure events := course
      exact first.goes_on_byte rfl (by simp)
    · exact Course.goes_on_byte course (by simp) (by simp)
  rw [starts] at framed
  exact framed

/-- What is shown when a register is read is framed by the three bytes that are sent and nine
released bits. There is a second start behind the second byte when it is acknowledged. -/
theorem Course.read_framed {address register : UInt8} {failure : Option I2cError}
    {events : List LineEvent} {record : List PinCall}
    (course : Course (readSlots address register) failure events)
    (shown : Lines.released.events record = .start :: (events ++ closing failure))
    (released : (Lines.released.after record).Rests (some .nack)) :
    Framed record (frame [address &&& 0xfe, register, address ||| 1] ++ List.replicate 9 true)
      (if Acknowledged (Lines.released.events record) 0 ∧
        Acknowledged (Lines.released.events record) 1 then 2 else 1) := by
  have first : 9 * (0 + 1) < (spelled events).length ↔ Acknowledged events 0 := by
    have opening : Course ([] ++ (byteSlots (address &&& 0xfe) ++ (byteSlots register ++
      (.restart :: (byteSlots (address ||| 1) ++ receiveSlots))))) failure events := course
    exact opening.goes_on_byte rfl (by simp)
  have second : 9 * (1 + 1) < (spelled events).length ↔ Acknowledged events 1 :=
    Course.goes_on_byte course (by simp) (by simp)
  have third : 9 * (2 + 1) < (spelled events).length ↔ Acknowledged events 2 := by
    have parted : readSlots address register =
        (byteSlots (address &&& 0xfe) ++ (byteSlots register ++ [.restart])) ++
          (byteSlots (address ||| 1) ++ receiveSlots) := by
      simp [readSlots]
    rw [parted] at course
    exact course.goes_on_byte (by simp [levels_nil]) (by simp)
  have starts : events.count .start = if 18 < (spelled events).length then 1 else 0 := by
    have parted : readSlots address register =
        (byteSlots (address &&& 0xfe) ++ byteSlots register) ++
          .restart :: (byteSlots (address ||| 1) ++ receiveSlots) := by
      simp [readSlots]
    rw [parted] at course
    have counted := course.count_start (by simp [byteSlots])
      (by simp [byteSlots, receiveSlots]) (by simp)
    simpa using counted
  have framed := framed_of_course course shown released fun byte further => by
    have three : byte < 3 := by
      simp only [readSlots, levels_append, levels_byteSlots, levels_restart, levels_receiveSlots,
        List.length_append, length_bitsOf, List.length_singleton, List.length_replicate] at further
      omega
    interval_cases byte
    · exact first
    · exact second
    · exact third
  have planned : levels (readSlots address register) =
      frame [address &&& 0xfe, register, address ||| 1] ++ List.replicate 9 true := by
    simp [readSlots, frame]
  have same := course.periods_shown shown
  -- What follows the second acknowledgement is there only if the first byte was acknowledged.
  have again : 18 < (spelled events).length ↔ Acknowledged (Lines.released.events record) 0 ∧
      Acknowledged (Lines.released.events record) 1 := by
    rw [acknowledged_congr same, acknowledged_congr same, ← second, ← first]
    omega
  rw [planned, starts] at framed
  by_cases passed : 18 < (spelled events).length
  · rw [if_pos passed] at framed
    rwa [if_pos (again.1 passed)]
  · rw [if_neg passed] at framed
    rwa [if_neg fun acknowledged => passed (again.2 acknowledged)]

/-- The writing of a register is framed, how it ended can be told from its record, and where it
succeeds all three bytes were acknowledged. -/
theorem writeRegister_framed (pins : Pins σ Empty) (address register value : UInt8) (state : σ) :
    ∃ exit record next,
      Runs (writeRegister pins.recording address register value)
        (writeRegister pins address register value) state exit record next ∧
      Framed record (frame [address &&& 0xfe, register, value]) 1 ∧ Told record (failure? exit) ∧
      (exit = .ok () → samples (Lines.released.events record) = [false, false, false]) := by
  obtain ⟨exit, record, next, events, ran, course, shown, released, held, told⟩ :=
    between_runs pins (writeBody_sends pins address register value) state
  rw [writeRegister_eq, writeRegister_eq]
  exact ⟨exit, record, next, ran, course.write_framed shown released,
    told_of_course course shown (asked_writeSlots address register value) held, told ()⟩

/-- So is the reading of a register, and where it succeeds the value is what was sampled behind the
acknowledgements. -/
theorem readRegister_framed (pins : Pins σ Empty) (address register : UInt8) (state : σ) :
    ∃ exit record next,
      Runs (readRegister pins.recording address register) (readRegister pins address register) state
        exit record next ∧
      Framed record
        (frame [address &&& 0xfe, register, address ||| 1] ++ List.replicate 9 true)
        (if Acknowledged (Lines.released.events record) 0 ∧
          Acknowledged (Lines.released.events record) 1 then 2 else 1) ∧
      Told record (failure? exit) ∧
      ∀ value, exit = .ok value → samples (Lines.released.events record) =
        [false, false, false] ++ bitsOf value := by
  obtain ⟨exit, record, next, events, ran, course, shown, released, held, told⟩ :=
    between_runs pins (readBody_sends pins address register) state
  rw [readRegister_eq, readRegister_eq]
  exact ⟨exit, record, next, ran, course.read_framed shown released,
    told_of_course course shown (asked_readSlots address register) held, told⟩

/-- Every register transfer that begins with released lines is well framed. On all pins that cannot
fail, whatever they answer and however long they hold the clock, and whether the transfer succeeds,
is not acknowledged or waits too long: the data line moves under a high clock for the starts and for
one stop, which comes last and leaves both lines released. What is spelled at the rising edges is a
beginning of the frame, which goes on to the next byte exactly when the last one was acknowledged. A
read starts again when its first two bytes were. The transfer is not acknowledged exactly if the
ninth sample of one of its bytes was high, and has waited too long exactly if it stopped behind as
many looks at a low clock as it makes. -/
theorem transfers_framed (pins : Pins σ Empty) (address register : UInt8) (state : σ) :
    (∀ value, ∃ exit record next,
      Runs (writeRegister pins.recording address register value)
        (writeRegister pins address register value) state exit record next ∧
      Framed record (frame [address &&& 0xfe, register, value]) 1 ∧ Told record (failure? exit) ∧
      (exit = .ok () → samples (Lines.released.events record) = [false, false, false])) ∧
    ∃ exit record next,
      Runs (readRegister pins.recording address register) (readRegister pins address register) state
        exit record next ∧
      Framed record
        (frame [address &&& 0xfe, register, address ||| 1] ++ List.replicate 9 true)
        (if Acknowledged (Lines.released.events record) 0 ∧
          Acknowledged (Lines.released.events record) 1 then 2 else 1) ∧
      Told record (failure? exit) ∧
      ∀ value, exit = .ok value → samples (Lines.released.events record) =
        [false, false, false] ++ bitsOf value :=
  ⟨fun value => writeRegister_framed pins address register value state,
    readRegister_framed pins address register state⟩

end Bringup.I2c
