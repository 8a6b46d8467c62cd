import Bringup.Proofs.Board.Bits
import Bringup.Proofs.Board.LineEvents
import Mathlib.Data.List.Basic
/-!
# The courses that a transfer can take

A master goes through a plan of slots, each a period of the clock. At every slot a slave may hold
the clock for too long, and at an acknowledgement it may leave the data line released; in either
case the master gives up with a stop. All else goes on to the next slot. What this can show on the
lines is the relation `Course`. Main statements: what is spelled at the rising edges is a beginning
of what was planned (`Course.spelled_prefix`), the slot behind an acknowledgement is begun exactly
when the acknowledgement was found low (`Course.goes_on`), the transfer is refused exactly when one
was found high (`Course.nack_iff`), and the stop is the one event of its kind and the last
(`Course.stops`).
-/

namespace Bringup.I2c

/-- A period of the clock, as the master plans it. -/
inductive Slot where
  /-- The master sends a bit. -/
  | send (bit : Bool)
  /-- The master receives a bit, with the data line released. -/
  | receive
  /-- The master asks for an acknowledgement, with the data line released. -/
  | acknowledge
  /-- The master starts again. -/
  | restart
  deriving DecidableEq

/-- The level of the data line when the clock rises in a slot. A start is no data. -/
def Slot.level? : Slot → Option Bool
  | .send bit => some bit
  | .receive | .acknowledge => some true
  | .restart => none

/-- The levels that a plan spells. -/
def levels (plan : List Slot) : List Bool := plan.filterMap Slot.level?

/-- The slots of a byte that has to be acknowledged. -/
def byteSlots (byte : UInt8) : List Slot := (bitsOf byte).map .send ++ [.acknowledge]

/-- The slots in which a byte is received and not acknowledged. -/
def receiveSlots : List Slot := List.replicate 8 .receive ++ [.send true]

/-- What a stop shows when the clock was low. -/
def stopEvents : List LineEvent := [.rise false, .stop]

/-- What is left to show at the end of a plan: a master that gave up has stopped already. -/
def closing (failure : Option I2cError) : List LineEvent :=
  if failure.isNone then stopEvents else []

/-- The periods of the clock that carry data: the level when the clock rises, and what is sampled
behind the edge. An edge that belongs to a start or a stop begins no such period. -/
def periods : List LineEvent → List (Bool × Option Bool)
  | [] => []
  | .rise _ :: .start :: rest => periods rest
  | .rise _ :: .stop :: rest => periods rest
  | .rise data :: .sample found :: rest => (data, some found) :: periods rest
  | .rise data :: rest => (data, none) :: periods rest
  | _ :: rest => periods rest

/-- The levels at the rising edges of the clock, apart from an edge that belongs to a start or a
stop. -/
def spelled (events : List LineEvent) : List Bool := (periods events).map Prod.fst

/-- In the ninth period of a byte the data line was released and found low. -/
def Acknowledged (events : List LineEvent) (byte : Nat) : Prop :=
  (periods events)[9 * byte + 8]? = some (true, some false)

instance (events : List LineEvent) (byte : Nat) : Decidable (Acknowledged events byte) :=
  inferInstanceAs (Decidable (_ = _))

/-- In the ninth period of a byte the data line was released and found high. -/
def Refused (events : List LineEvent) (byte : Nat) : Prop :=
  (periods events)[9 * byte + 8]? = some (true, some true)

/-- Events with the same periods acknowledge the same bytes. -/
theorem acknowledged_congr {events others : List LineEvent} (same : periods events = periods others)
    (byte : Nat) : Acknowledged events byte ↔ Acknowledged others byte := by
  rw [Acknowledged, Acknowledged, same]

/-- The levels found on the data line behind a wait. -/
def samples : List LineEvent → List Bool
  | [] => []
  | .sample data :: rest => data :: samples rest
  | _ :: rest => samples rest

/-- The levels of a plan in two parts are those of its parts. -/
@[simp] theorem levels_append (front back : List Slot) :
    levels (front ++ back) = levels front ++ levels back :=
  List.filterMap_append

/-- A plan of no slot spells nothing. -/
theorem levels_nil : levels [] = [] := rfl

/-- A start spells nothing. -/
@[simp] theorem levels_restart (rest : List Slot) : levels (.restart :: rest) = levels rest := rfl

/-- While a byte is received and not acknowledged, the data line is released. -/
@[simp] theorem levels_receiveSlots : levels receiveSlots = List.replicate 9 true := rfl

/-- Bits that are sent are spelled. -/
@[simp] theorem levels_send (bits : List Bool) : levels (bits.map .send) = bits := by
  induction bits with
  | nil => rfl
  | cons bit rest ih => exact congrArg (bit :: ·) ih

/-- A byte spells its bits and the released bit of the acknowledgement. -/
@[simp] theorem levels_byteSlots (byte : UInt8) :
    levels (byteSlots byte) = bitsOf byte ++ [true] := by
  rw [byteSlots, levels_append, levels_send]
  rfl

/-- Events in two parts show the samples of the parts. -/
@[simp] theorem samples_append (front back : List LineEvent) :
    samples (front ++ back) = samples front ++ samples back := by
  induction front with
  | nil => rfl
  | cons event rest ih => cases event <;> simp only [List.cons_append, samples, ih]

/-- The stop at the end of a plan takes no sample. -/
theorem samples_closing (failure : Option I2cError) : samples (closing failure) = [] := by
  cases failure <;> rfl

/-- The stop at the end of a plan is no start. -/
theorem count_start_closing (failure : Option I2cError) :
    (closing failure).count .start = 0 := by
  cases failure <;> rfl

/-- What going through a plan can show, to its end or to an error. -/
inductive Course : List Slot → Option I2cError → List LineEvent → Prop where
  | done : Course [] none []
  | stretched {slot : Slot} {level : Bool} (rest : List Slot) : slot.level? = some level →
    Course (slot :: rest) (some .clockStretchTimeout) (.rise level :: stopEvents)
  | refused (rest : List Slot) :
    Course (.acknowledge :: rest) (some .nack) (.rise true :: .sample true :: stopEvents)
  | send {rest : List Slot} {failure : Option I2cError} {events : List LineEvent} (bit : Bool) :
    Course rest failure events → Course (.send bit :: rest) failure (.rise bit :: events)
  | receive {rest : List Slot} {failure : Option I2cError} {events : List LineEvent} (bit : Bool) :
    Course rest failure events →
    Course (.receive :: rest) failure (.rise true :: .sample bit :: events)
  | acknowledge {rest : List Slot} {failure : Option I2cError} {events : List LineEvent} :
    Course rest failure events →
    Course (.acknowledge :: rest) failure (.rise true :: .sample false :: events)
  | restart {rest : List Slot} {failure : Option I2cError} {events : List LineEvent} :
    Course rest failure events → Course (.restart :: rest) failure (.rise true :: .start :: events)

/-- The periods of a plan in which an acknowledgement is asked for. -/
def asked : List Slot → List Nat
  | [] => []
  | .acknowledge :: rest => 0 :: (asked rest).map (· + 1)
  | .restart :: rest => asked rest
  | .send _ :: rest | .receive :: rest => (asked rest).map (· + 1)

/-- Events that begin with a rising edge, or no events. -/
def BeginsWithRise (events : List LineEvent) : Prop :=
  events = [] ∨ ∃ data rest, events = .rise data :: rest

/-- Joining such events gives such events. -/
theorem BeginsWithRise.append {front back : List LineEvent} (first : BeginsWithRise front)
    (second : BeginsWithRise back) : BeginsWithRise (front ++ back) := by
  rcases first with rfl | ⟨data, rest, rfl⟩
  · exact second
  · exact .inr ⟨data, rest ++ back, rfl⟩

/-- In a period before another one, or at the end, nothing is sampled if no sample is shown. -/
theorem periods_rise {events : List LineEvent} (begins : BeginsWithRise events) (data : Bool) :
    periods (.rise data :: events) = (data, none) :: periods events := by
  rcases begins with rfl | ⟨_, _, rfl⟩ <;> rfl

/-- Such a period spells its level. -/
theorem spelled_rise {events : List LineEvent} (begins : BeginsWithRise events) (data : Bool) :
    spelled (.rise data :: events) = data :: spelled events :=
  congrArg (List.map Prod.fst) (periods_rise begins data)

namespace Course

variable {plan front back : List Slot} {failure : Option I2cError} {events : List LineEvent}

/-- A course begins with a rising edge. -/
theorem begins (course : Course plan failure events) : BeginsWithRise events := by
  cases course with
  | done => exact .inl rfl
  | stretched | refused | send | receive | acknowledge | restart => exact .inr ⟨_, _, rfl⟩

/-- Going through a plan that has two parts is going through the first and then through the second,
or giving up in the first. -/
theorem append_iff : Course (front ++ back) failure events ↔
    (∃ first second, events = first ++ second ∧ Course front none first ∧
      Course back failure second) ∨
    (failure ≠ none ∧ Course front failure events) := by
  constructor
  · intro course
    induction front generalizing events with
    | nil => exact .inl ⟨[], events, rfl, .done, course⟩
    | cons slot rest ih =>
      cases course with
      | stretched _ level => exact .inr ⟨by simp, .stretched rest level⟩
      | refused => exact .inr ⟨by simp, .refused rest⟩
      | send bit course =>
        rcases ih course with ⟨first, second, rfl, before, after⟩ | ⟨failed, course⟩
        · exact .inl ⟨_ :: first, second, rfl, .send bit before, after⟩
        · exact .inr ⟨failed, .send bit course⟩
      | receive bit course =>
        rcases ih course with ⟨first, second, rfl, before, after⟩ | ⟨failed, course⟩
        · exact .inl ⟨_ :: _ :: first, second, rfl, .receive bit before, after⟩
        · exact .inr ⟨failed, .receive bit course⟩
      | acknowledge course =>
        rcases ih course with ⟨first, second, rfl, before, after⟩ | ⟨failed, course⟩
        · exact .inl ⟨_ :: _ :: first, second, rfl, .acknowledge before, after⟩
        · exact .inr ⟨failed, .acknowledge course⟩
      | restart course =>
        rcases ih course with ⟨first, second, rfl, before, after⟩ | ⟨failed, course⟩
        · exact .inl ⟨_ :: _ :: first, second, rfl, .restart before, after⟩
        · exact .inr ⟨failed, .restart course⟩
  · rintro (⟨first, second, rfl, before, after⟩ | ⟨failed, course⟩)
    · -- The course of the first part passed, so none of its steps gave up.
      generalize passed : (none : Option I2cError) = ending at before
      induction before with
      | done => exact after
      | stretched | refused => cases passed
      | send bit _ ih => exact .send bit (ih passed)
      | receive bit _ ih => exact .receive bit (ih passed)
      | acknowledge _ ih => exact .acknowledge (ih passed)
      | restart _ ih => exact .restart (ih passed)
    · induction course with
      | done => exact absurd rfl failed
      | stretched _ level => exact .stretched _ level
      | refused => exact .refused _
      | send bit _ ih => exact .send bit (ih failed)
      | receive bit _ ih => exact .receive bit (ih failed)
      | acknowledge _ ih => exact .acknowledge (ih failed)
      | restart _ ih => exact .restart (ih failed)

/-- What is spelled is a beginning of what was planned, and all of it at the end of the plan. -/
theorem spelled_prefix (course : Course plan failure events) :
    spelled events <+: levels plan ∧ (failure = none → spelled events = levels plan) := by
  induction course with
  | done => exact ⟨List.prefix_rfl, fun _ => rfl⟩
  | stretched rest level =>
    refine ⟨?_, fun passed => by cases passed⟩
    rw [levels, List.filterMap_cons_some level]
    exact ⟨_, rfl⟩
  | refused rest => exact ⟨⟨levels rest, rfl⟩, fun passed => by cases passed⟩
  | send bit course ih =>
    rw [spelled_rise course.begins]
    exact ⟨List.cons_prefix_cons.2 ⟨rfl, ih.1⟩, fun passed => congrArg _ (ih.2 passed)⟩
  | receive bit course ih | acknowledge course ih =>
    exact ⟨List.cons_prefix_cons.2 ⟨rfl, ih.1⟩, fun passed => congrArg _ (ih.2 passed)⟩
  | restart course ih => exact ih

/-- What is spelled behind a plan that was gone through comes behind the levels of the plan. -/
theorem spelled_append (course : Course plan failure events) (passed : failure = none)
    {later : List LineEvent} (begins : BeginsWithRise later) :
    spelled (events ++ later) = levels plan ++ spelled later := by
  induction course with
  | done => rfl
  | stretched | refused => cases passed
  | send bit course ih =>
    have joined : BeginsWithRise (_ ++ later) := course.begins.append begins
    rw [List.cons_append, spelled_rise joined, ih passed]
    rfl
  | receive bit _ ih | acknowledge _ ih => exact congrArg (true :: ·) (ih passed)
  | restart _ ih => exact ih passed

/-- Whatever was planned, its first level is spelled. -/
theorem spelled_pos (course : Course plan failure events) (planned : levels plan ≠ []) :
    0 < (spelled events).length := by
  induction course with
  | done => exact absurd rfl planned
  | stretched | refused => exact Nat.one_pos
  | send bit course =>
    rw [spelled_rise course.begins]
    exact Nat.succ_pos _
  | receive | acknowledge => exact Nat.succ_pos _
  | restart _ ih => exact ih planned

/-- What follows an acknowledgement is begun exactly when the acknowledgement was found low. -/
theorem goes_on (course : Course (front ++ .acknowledge :: back) failure events)
    (planned : levels back ≠ []) :
    (levels front).length + 1 < (spelled events).length ↔
      (periods events)[(levels front).length]? = some (true, some false) := by
  induction front generalizing events with
  | nil =>
    cases course with
    | stretched _ level =>
      simp [levels, periods, spelled, stopEvents]
    | refused => decide
    | acknowledge course =>
      have begun := Nat.succ_lt_succ (course.spelled_pos planned)
      exact iff_of_true begun rfl
  | cons slot rest ih =>
    cases course with
    | stretched _ level =>
      -- The slot that was held is the last one spelled, so neither side holds of a later one.
      have counted : levels (slot :: rest) = _ :: levels rest := List.filterMap_cons_some level
      rw [counted]
      simp [periods, spelled, stopEvents]
    | refused => simp [periods, spelled, stopEvents, levels, Slot.level?]
    | send bit course =>
      rw [spelled_rise course.begins, periods_rise course.begins]
      exact Nat.succ_lt_succ_iff.trans (ih course)
    | receive bit course => exact Nat.succ_lt_succ_iff.trans (ih course)
    | acknowledge course => exact Nat.succ_lt_succ_iff.trans (ih course)
    | restart course =>
      have following := ih course
      exact following

/-- Behind a first period, what is found in some of the periods is found one period later. -/
theorem found_later {first found : Bool × Option Bool} {rest : List (Bool × Option Bool)}
    {places : List Nat} :
    (∃ place ∈ places.map (· + 1), (first :: rest)[place]? = some found) ↔
      ∃ place ∈ places, rest[place]? = some found := by
  constructor
  · rintro ⟨_, among, same⟩
    obtain ⟨place, inside, rfl⟩ := List.mem_map.1 among
    exact ⟨place, inside, same⟩
  · rintro ⟨place, inside, same⟩
    exact ⟨place + 1, List.mem_map_of_mem inside, same⟩

/-- A transfer was refused exactly if an acknowledgement that it asked for was found high. -/
theorem nack_iff (course : Course plan failure events) : failure = some .nack ↔
    ∃ place ∈ asked plan, (periods events)[place]? = some (true, some true) := by
  induction course with
  | done => simp [asked]
  | @stretched _ level =>
    -- The slot that was held is the only period, and nothing was sampled in it.
    have only : periods (.rise level :: stopEvents) = [(level, none)] := rfl
    rw [only]
    simp [List.getElem?_singleton]
  | refused => exact iff_of_true rfl ⟨0, List.mem_cons_self, rfl⟩
  | send bit course ih =>
    rw [ih, periods_rise course.begins]
    exact found_later.symm
  | receive bit _ ih => exact ih.trans found_later.symm
  | acknowledge _ ih =>
    rw [ih, asked, List.exists_mem_cons_iff]
    refine (found_later.symm.trans (or_iff_right ?_).symm)
    simp [periods]
  | restart _ ih => exact ih

/-- A byte that asks for an acknowledgement is followed by what is planned exactly when it was
acknowledged. -/
theorem goes_on_byte {byte : UInt8}
    (course : Course (front ++ (byteSlots byte ++ back)) failure events) {count : Nat}
    (counted : (levels front).length = 9 * count) (planned : levels back ≠ []) :
    9 * (count + 1) < (spelled events).length ↔ Acknowledged events count := by
  have asking : front ++ (byteSlots byte ++ back) =
      (front ++ (bitsOf byte).map .send) ++ .acknowledge :: back := by
    simp [byteSlots]
  rw [asking] at course
  have following := course.goes_on planned
  rwa [levels_append, List.length_append, levels_send, length_bitsOf, counted] at following

/-- The stop at the end of a plan begins no period that carries data. -/
theorem periods_closing (course : Course plan failure events) :
    periods (events ++ closing failure) = periods events := by
  induction course with
  | done => rfl
  | stretched | refused => exact congrArg periods (List.append_nil _)
  | @send rest failure events bit course ih =>
    have begins : BeginsWithRise (closing failure) := by
      cases failure with
      | none => exact .inr ⟨_, _, rfl⟩
      | some error => exact .inl rfl
    rw [List.cons_append, periods_rise (course.begins.append begins), periods_rise course.begins,
      ih]
  | receive bit _ ih => exact congrArg ((true, some bit) :: ·) ih
  | acknowledge _ ih => exact congrArg ((true, some false) :: ·) ih
  | restart _ ih => exact ih

/-- With what is left to show, there is one stop and it comes last. -/
theorem stops (course : Course plan failure events) :
    ∃ front, events ++ closing failure = front ++ [.stop] ∧ .stop ∉ front := by
  induction course with
  | done => exact ⟨[.rise false], rfl, by decide⟩
  | stretched => exact ⟨[.rise _, .rise false], rfl, by simp⟩
  | refused => exact ⟨[.rise true, .sample true, .rise false], rfl, by decide⟩
  | send _ _ ih =>
    obtain ⟨front, ends, unstopped⟩ := ih
    exact ⟨_ :: front, congrArg _ ends, by simp [unstopped]⟩
  | receive _ _ ih | acknowledge _ ih | restart _ ih =>
    obtain ⟨front, ends, unstopped⟩ := ih
    exact ⟨_ :: _ :: front, congrArg (_ :: _ :: ·) ends, by simp [unstopped]⟩

/-- There is no start where none was planned. -/
theorem start_notMem (course : Course plan failure events) (unplanned : .restart ∉ plan) :
    .start ∉ events := by
  induction course with
  | done => exact List.not_mem_nil
  | stretched | refused => simp [stopEvents]
  | send _ _ ih | receive _ _ ih | acknowledge _ ih =>
    simpa using ih fun later => unplanned (List.mem_cons_of_mem _ later)
  | restart => exact absurd List.mem_cons_self unplanned

/-- A start that was planned is made exactly when the plan is gone through so far. -/
theorem count_start (course : Course (front ++ .restart :: back) failure events)
    (first : .restart ∉ front) (second : .restart ∉ back) (planned : levels back ≠ []) :
    events.count .start = if (levels front).length < (spelled events).length then 1 else 0 := by
  rcases append_iff.1 course with ⟨before, after, rfl, passed, again⟩ | ⟨_, course⟩
  · cases again with
    | @restart _ _ others later =>
      have further : (levels front).length <
          (spelled (before ++ .rise true :: .start :: others)).length := by
        rw [passed.spelled_append rfl (.inr ⟨_, _, rfl⟩), List.length_append]
        exact Nat.lt_add_of_pos_right (later.spelled_pos planned)
      rw [if_pos further, List.count_append, List.count_eq_zero.2 (passed.start_notMem first)]
      simp [List.count_eq_zero.2 (later.start_notMem second)]
    | stretched _ level => cases level
  · rw [if_neg (Nat.not_lt.2 course.spelled_prefix.1.length_le),
      List.count_eq_zero.2 (course.start_notMem first)]

end Course

end Bringup.I2c
