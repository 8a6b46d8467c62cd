import Bringup.Proofs.Stream.Ending
/-!
# The bounds of a scripted stream

A script may let the input fail before all of it is read, and the output fill up or fail at a
length. Where that is, and what is met there, are the bounds of the stream. The limits of single
reads and writes are not among them: whatever these are, as long as each transfer moves a byte, the
stream has the same bounds (`Scripted.bounded`).
-/

namespace Bringup

namespace Script

/-- What a read meets where no byte is left of an input of this length. -/
def inputEnd (script : Script) (length : Nat) : StreamEnd ScriptedError :=
  match script.readFailure with
  | none => .closed
  | some failure => if failure ≤ length then .failing .readFailed else .closed

/-- The length the output never passes, because it is full or because it fails. -/
def room (script : Script) : Option Nat :=
  match script.capacity, script.writeFailure with
  | none, failure => failure
  | some most, none => some most
  | some most, some failure => some (min most failure)

/-- What a write meets where there is no room. If an output both fills up and fails at one length,
it fails. -/
def outputEnd (script : Script) : StreamEnd ScriptedError :=
  if script.writeFailure = script.room then .failing .writeFailed else .closed

/-- The bounds of a stream with this script over an input of this length. -/
def bounds (script : Script) (length : Nat) : Bounds ScriptedError :=
  ⟨script.inputEnd length, script.room, script.outputEnd⟩

/-- Every transfer may move at least a byte. -/
def Moves (script : Script) : Prop := script.readLimit ≠ some 0 ∧ script.writeLimit ≠ some 0

end Script

namespace Scripted

/-- The bytes that are left before the input ends or fails. -/
def beforeFailure (script : Script) (position : Nat) (unread : List UInt8) : List UInt8 :=
  match script.readFailure with
  | none => unread
  | some failure => unread.take (failure - position)

/-- A stream follows its script through an input of this length and is within its bounds. -/
structure Follows (script : Script) (length : Nat) (state : Scripted) : Prop where
  script_eq : state.script = script
  total : state.position + state.unread.length = length
  reading : ∀ failure, script.readFailure = some failure → state.position ≤ failure
  writing : ∀ most, script.room = some most → state.output.size ≤ most

/-- A scripted stream over an input of this length as a line up to its bounds. -/
def boundedView (script : Script) (length : Nat) : LineView Scripted where
  sound := Follows script length
  unread state := beforeFailure script state.position state.unread
  written state := state.output.toList

/-- What was written to a scripted stream is its output. -/
@[simp] theorem boundedView_written (script : Script) (length : Nat) (state : Scripted) :
    (boundedView script length).written state = state.output.toList := rfl

variable {script : Script} {length position : Nat} {unread : List UInt8} {output : Array UInt8}

/-- Where no failure comes all bytes are left. -/
theorem beforeFailure_none (never : script.readFailure = none) :
    beforeFailure script position unread = unread := by
  rw [beforeFailure, never]

/-- Where a failure comes the bytes up to it are left. -/
theorem beforeFailure_some {failure : Nat} (fails : script.readFailure = some failure) :
    beforeFailure script position unread = unread.take (failure - position) := by
  rw [beforeFailure, fails]

/-- Where no byte is left none is left before a failure. -/
@[simp] theorem beforeFailure_nil : beforeFailure script position [] = [] := by
  unfold beforeFailure
  split
  · rfl
  · exact List.take_nil

/-- The bytes before a failure are no more than all. -/
theorem length_beforeFailure_le :
    (beforeFailure script position unread).length ≤ unread.length := by
  unfold beforeFailure
  split
  · exact Nat.le_refl _
  · exact List.length_take_le' _ _

/-- The bytes before a failure are those that are taken and those that are left before it then. -/
theorem beforeFailure_take {count : Nat}
    (before : ∀ failure, script.readFailure = some failure → position + count ≤ failure) :
    beforeFailure script position unread = unread.take count ++
      beforeFailure script (position + (unread.take count).length) (unread.drop count) := by
  cases fails : script.readFailure with
  | none =>
    rw [beforeFailure_none fails, beforeFailure_none fails]
    exact (List.take_append_drop count unread).symm
  | some failure =>
    have within := before failure fails
    rw [beforeFailure_some fails, beforeFailure_some fails]
    -- If fewer bytes than that are left, the failure comes behind all of them.
    by_cases enough : count ≤ unread.length
    · have split : failure - position = count + (failure - (position + count)) := by omega
      rw [List.length_take, Nat.min_eq_left enough, split, List.take_add]
    · have all : unread.take count = unread := List.take_of_length_le (by omega)
      have empty : unread.drop count = [] := List.drop_of_length_le (by omega)
      have front : unread.take (failure - position) = unread :=
        List.take_of_length_le (by omega)
      rw [all, empty, List.take_nil, List.append_nil, front]

/-- A failure that has not come is still to come. -/
theorem lt_failure (working : script.readFailure ≠ some position)
    (reading : ∀ failure, script.readFailure = some failure → position ≤ failure) {failure : Nat}
    (fails : script.readFailure = some failure) : position < failure := by
  apply Nat.lt_of_le_of_ne (reading failure fails)
  rintro rfl
  exact working fails

/-- Bytes are left before a failure that is still to come, if any are left. -/
theorem eq_nil_of_beforeFailure
    (before : ∀ failure, script.readFailure = some failure → position < failure)
    (empty : beforeFailure script position unread = []) : unread = [] := by
  cases fails : script.readFailure with
  | none => rwa [beforeFailure_none fails] at empty
  | some failure =>
    rw [beforeFailure_some fails, List.take_eq_nil_iff] at empty
    have ahead := before failure fails
    exact empty.resolve_left (by omega)

/-- A read before a failure takes what its limits leave of what is wanted. -/
theorem read_before (working : script.readFailure ≠ some position) (want : Nat) :
    let count := within script.readLimit (within (script.readFailure.map (· - position)) want)
    read want ⟨script, unread, position, output⟩ =
      .ok (unread.take count)
        ⟨script, unread.drop count, position + (unread.take count).length, output⟩ := by
  simp only [read, if_neg working]

/-- A read before a failure takes at least a byte and goes no further than the failure. -/
theorem read_count (moves : script.readLimit ≠ some 0)
    (before : ∀ failure, script.readFailure = some failure → position < failure) {want : Nat}
    (wanted : 0 < want) :
    let count := within script.readLimit (within (script.readFailure.map (· - position)) want)
    0 < count ∧ count ≤ want ∧
      ∀ failure, script.readFailure = some failure → position + count ≤ failure := by
  have ahead : script.readFailure.map (· - position) ≠ some 0 := by
    intro zero
    obtain ⟨failure, fails, zero⟩ := Option.map_eq_some_iff.1 zero
    have later := before failure fails
    omega
  have inner := within_pos ahead wanted
  have outer := within_pos moves inner.1
  refine ⟨outer.1, Nat.le_trans outer.2 inner.2, ?_⟩
  intro failure fails
  have most : within (script.readFailure.map (· - position)) want ≤ failure - position := by
    rw [fails]
    exact Nat.min_le_left _ _
  have later := before failure fails
  omega

/-- A read where no byte is left before a failure meets the end of the input. -/
theorem read_ended {state : Scripted} (follows : Follows script length state)
    (empty : beforeFailure script state.position state.unread = []) (want : Nat) :
    read want state = (script.inputEnd length).answer [] state := by
  obtain ⟨own, unread, position, output⟩ := state
  obtain ⟨same, total, reading, _⟩ := follows
  obtain rfl : own = script := same
  by_cases fails : own.readFailure = some position
  · have ends : own.inputEnd length = .failing .readFailed := by
      rw [Script.inputEnd, fails]
      exact if_pos (Nat.le.intro total)
    simp only [read, if_pos fails, ends, StreamEnd.answer]
  · have before : ∀ failure, own.readFailure = some failure → position < failure :=
      fun _ => lt_failure fails reading
    have nothing := eq_nil_of_beforeFailure before empty
    subst nothing
    -- The whole input was read, and a failure behind it never comes.
    have ends : own.inputEnd length = .closed := by
      unfold Script.inputEnd
      split
      · rfl
      · rename_i failure late
        have ahead := before failure late
        have all : position = length := total
        exact if_neg (by omega)
    rw [read_before fails, List.take_nil, List.drop_nil, ends]
    rfl

/-- A write before a failure takes what its limits leave of what it is given. -/
theorem write_before (working : script.writeFailure ≠ some output.size) (bytes : List UInt8) :
    let count := within script.writeLimit (roomFor script.room output.size bytes.length)
    write bytes ⟨script, unread, position, output⟩ =
      .ok count ⟨script, unread, position, output ++ bytes.take count⟩ := by
  have room : within (script.capacity.map (· - output.size))
      (within (script.writeFailure.map (· - output.size)) bytes.length) =
      roomFor script.room output.size bytes.length := by
    unfold Script.room
    cases script.capacity <;> cases script.writeFailure <;> simp [within, roomFor] <;> omega
  simp only [write, if_neg working, room]

/-- A scripted stream supplies the bytes before its failure. -/
theorem supplies (moves : script.Moves) (length : Nat) (written : List UInt8) :
    stream.Supplies (script.inputEnd length) fun state unread =>
      (boundedView script length).Holds state unread written where
  read := by
    rintro ⟨own, unread, position, output⟩ _ want ⟨⟨same, total, reading, writing⟩, rfl, rfl⟩
      present wanted
    obtain rfl : own = script := same
    have working : own.readFailure ≠ some position := by
      intro fails
      apply present
      show beforeFailure own position unread = []
      rw [beforeFailure_some fails, Nat.sub_self, List.take_zero]
    have before : ∀ failure, own.readFailure = some failure → position < failure :=
      fun _ => lt_failure working reading
    obtain ⟨least, most, inside⟩ := read_count moves.1 before wanted
    refine ⟨_, _, _, beforeFailure_take inside, ?_, ?_, read_before working want,
      ⟨rfl, ?_, ?_, writing⟩, rfl, rfl⟩
    · intro empty
      have nothing := (List.take_eq_nil_iff.1 empty).resolve_left (Nat.ne_of_gt least)
      subst nothing
      exact present beforeFailure_nil
    · rw [List.length_take]
      omega
    · rw [← total, ← congrArg List.length (List.take_append_drop _ unread), List.length_append]
      exact Nat.add_assoc _ _ _
    · intro failure fails
      have reach := inside failure fails
      show position + (unread.take _).length ≤ failure
      rw [List.length_take]
      omega
  ended := by
    rintro state want ⟨follows, empty, rfl⟩ _
    exact ⟨state, read_ended follows empty want, follows, empty, rfl⟩
  pending := by
    rintro ⟨own, unread, position, output⟩ _ ⟨⟨same, _⟩, rfl, rfl⟩
    obtain rfl : own = script := same
    exact length_beforeFailure_le

/-- An output that fails at a length has no more room. -/
theorem room_failure {failure : Nat} (fails : script.writeFailure = some failure) :
    ∃ most, script.room = some most ∧ most ≤ failure := by
  rw [Script.room, fails]
  cases script.capacity with
  | none => exact ⟨failure, rfl, Nat.le_refl failure⟩
  | some most => exact ⟨min most failure, rfl, Nat.min_le_right most failure⟩

/-- An output without room is as long as it may be. -/
theorem room_full (writing : ∀ most, script.room = some most → output.size ≤ most)
    {bytes : List UInt8} (present : bytes ≠ [])
    (full : roomFor script.room output.size bytes.length = 0) :
    script.room = some output.size := by
  have positive : 0 < bytes.length := List.length_pos_iff.2 present
  cases room : script.room with
  | none =>
    rw [room, roomFor] at full
    exact absurd full (Nat.ne_of_gt positive)
  | some most =>
    have inside := writing most room
    rw [room, roomFor] at full
    have same : most = output.size := by omega
    rw [same]

/-- A write where there is no room meets the end of the output. -/
theorem write_ended {state : Scripted} (follows : Follows script length state)
    {bytes : List UInt8} (present : bytes ≠ [])
    (full : roomFor script.room state.output.size bytes.length = 0) :
    write bytes state = script.outputEnd.answer 0 state := by
  obtain ⟨own, unread, position, output⟩ := state
  obtain ⟨same, _, _, writing⟩ := follows
  obtain rfl : own = script := same
  have room := room_full writing present full
  by_cases fails : own.writeFailure = some output.size
  · have ends : own.outputEnd = .failing .writeFailed := if_pos (fails.trans room.symm)
    simp only [write, if_pos fails, ends, StreamEnd.answer]
  · have ends : own.outputEnd = .closed := if_neg fun same => fails (same.trans room)
    have nothing : within own.writeLimit 0 = 0 := by
      cases own.writeLimit with
      | none => rfl
      | some most => exact Nat.min_zero most
    rw [write_before fails, full, nothing, List.take_zero, Array.appendList_nil, ends]
    rfl

/-- A write where there is room adds at least a byte. -/
theorem write_moves (moves : script.writeLimit ≠ some 0) {bytes : List UInt8}
    (room : 0 < roomFor script.room output.size bytes.length) (unread : List UInt8)
    (position : Nat) :
    ∃ count, 0 < count ∧ count ≤ roomFor script.room output.size bytes.length ∧
      write bytes ⟨script, unread, position, output⟩ =
        .ok count ⟨script, unread, position, output ++ bytes.take count⟩ := by
  have working : script.writeFailure ≠ some output.size := by
    intro fails
    obtain ⟨most, limit, small⟩ := room_failure fails
    rw [limit, roomFor] at room
    omega
  have count := within_pos moves room
  exact ⟨_, count.1, count.2, write_before working bytes⟩

/-- A scripted stream accepts bytes up to its capacity and its failure. -/
theorem accepts (moves : script.Moves) (length : Nat) (left : List UInt8) :
    stream.Accepts script.room script.outputEnd fun state written =>
      (boundedView script length).Holds state left written where
  write := by
    rintro ⟨own, unread, position, output⟩ _ bytes ⟨⟨same, total, reading, writing⟩, rfl, rfl⟩ room
    obtain rfl : own = script := same
    replace room : 0 < roomFor own.room output.size bytes.length := room
    obtain ⟨count, least, most, step⟩ := write_moves moves.2 room unread position
    have all := roomFor_le own.room output.size bytes.length
    have taken : (bytes.take count).length = count :=
      List.length_take_of_le (Nat.le_trans most all)
    refine ⟨bytes.take count, bytes.drop count, ⟨own, unread, position, output ++ bytes.take count⟩,
      (List.take_append_drop _ bytes).symm, ?_, ?_, ?_, ⟨rfl, total, reading, ?_⟩, rfl,
      Array.toList_appendList⟩
    · exact List.ne_nil_of_length_pos (taken.symm ▸ least)
    · rw [taken]
      exact most
    · rw [taken]
      exact step
    · intro limit fixed
      have inside : output.size ≤ limit := writing limit fixed
      rw [fixed, roomFor] at most
      show (output ++ bytes.take count).size ≤ limit
      rw [← Array.length_toList, Array.toList_appendList, List.length_append, taken,
        Array.length_toList]
      omega
  full := by
    rintro state _ bytes ⟨follows, rfl, rfl⟩ present full
    rw [boundedView_written, Array.length_toList] at full
    exact ⟨state, write_ended follows present full, follows, rfl, rfl⟩

/-- A stream whose script only cuts transfers up supplies all its bytes, and then gives none. -/
theorem supplies_cut (written : List UInt8) :
    stream.Supplies .closed fun state unread => view.Holds state unread written where
  read := by
    rintro ⟨script, unread, position, output⟩ _ want ⟨sound, rfl, rfl⟩ present wanted
    have count := within_pos sound.2.2.2.1 wanted
    refine ⟨unread.take (within script.readLimit want), unread.drop (within script.readLimit want),
      _, (List.take_append_drop _ _).symm, ?_, ?_, read_cut sound unread position output want,
      sound, rfl, rfl⟩
    · rw [Ne, List.take_eq_nil_iff, not_or]
      exact ⟨Nat.ne_of_gt count.1, present⟩
    · exact Nat.le_trans (List.length_take_le _ _) count.2
  ended := by
    rintro ⟨script, unread, position, output⟩ want ⟨sound, empty, rfl⟩ wanted
    obtain rfl : unread = [] := empty
    have step := read_cut sound [] position output want
    rw [List.take_nil, List.drop_nil] at step
    exact ⟨_, step, sound, rfl, rfl⟩
  pending := by
    rintro state _ ⟨_, rfl, _⟩
    exact Nat.le_refl _

/-- A stream of which nothing was read or written stands before all its bytes. -/
theorem ofInput_holds (script : Script) (input : List UInt8) :
    (boundedView script input.length).Holds (ofInput script input) (beforeFailure script 0 input)
      [] := by
  refine ⟨⟨rfl, Nat.zero_add _, ?_, ?_⟩, rfl, rfl⟩
  · intro failure _
    exact Nat.zero_le failure
  · intro most _
    exact Nat.zero_le most

/-- A stream that follows a script has the bounds of the script, however it cuts up transfers. -/
theorem bounded (moves : script.Moves) (length : Nat) :
    stream.Bounded (script.bounds length) (boundedView script length).Holds where
  supplies := supplies moves length
  accepts := accepts moves length

end Scripted

end Bringup
