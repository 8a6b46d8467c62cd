import Bringup.Proofs.Action
import Bringup.Stream.Scripted
/-!
# Streams that carry bytes

A stream carries bytes when its state can be read as two queues: the bytes that can still be read,
and the bytes that were written. A read takes a beginning of the first queue, of any length that
the stream likes, and a write adds a beginning of what it is given to the second. How transfers are
cut up is left open, and so is how a stream behaves that has fewer bytes than a read wants.

Main statements: a field is read as the bytes that stand in front, however the stream cuts them up
(`readField_enough`); a field that is not all there is an error, and what was written stays
(`readField_short`); all bytes are written (`writeAll_all`).
-/

namespace Bringup.ByteStream

variable {σ ε : Type}

/-- In every state that holds bytes to be read, a field in front of them is read, and what follows
it is left. -/
structure Fronts (stream : ByteStream σ ε) (holds : σ → List UInt8 → Prop) : Prop where
  field : ∀ {state} (field : List UInt8) {rest}, holds state (field ++ rest) →
    ∃ next, stream.readField field.length state = .ok field next ∧ holds next rest

namespace Fronts

variable {stream : ByteStream σ ε} {holds : σ → List UInt8 → Prop} {state : σ} {rest : List UInt8}

/-- The byte in front is read. -/
theorem byte (fronts : stream.Fronts holds) {byte : UInt8} (held : holds state (byte :: rest)) :
    ∃ next, stream.readByte state = .ok byte next ∧ holds next rest := by
  obtain ⟨next, step, kept⟩ := fronts.field [byte] held
  exact ⟨next, Action.map_ok step _, kept⟩

/-- The 32-bit word in front is read. -/
theorem word32 (fronts : stream.Fronts holds) {word : UInt32}
    (held : holds state (LittleEndian.bytes32 word ++ rest)) :
    ∃ next, stream.readWord32 state = .ok word next ∧ holds next rest := by
  obtain ⟨next, step, kept⟩ := fronts.field _ held
  rw [LittleEndian.bytes32, LittleEndian.length_bytesOfNat] at step
  have read := Action.map_ok step LittleEndian.word32
  rw [← LittleEndian.bytes32, LittleEndian.word32_bytes32] at read
  exact ⟨next, read, kept⟩

end Fronts

/-- In every state that stands for an input and an output, the stream transfers beginnings of
them. A read may fail only when fewer bytes are left than it wants, and takes these. -/
structure Carries (stream : ByteStream σ ε) (holds : σ → List UInt8 → List UInt8 → Prop) : Prop
    where
  /-- A read takes a beginning of what is left, and of something left at least one byte. -/
  read : ∀ {state unread written want}, holds state unread written → 0 < want →
    (∃ count next, count ≤ want ∧ (unread ≠ [] → 0 < count) ∧
      stream.read want state = .ok (unread.take count) next ∧
      holds next (unread.drop count) written) ∨
    (unread.length < want ∧ ∃ error next,
      stream.read want state = .error error next ∧ holds next [] written)
  /-- A write takes a beginning of at least one byte. -/
  write : ∀ {state unread written bytes}, holds state unread written → bytes ≠ [] →
    ∃ count next, 0 < count ∧ count ≤ bytes.length ∧
      stream.write bytes state = .ok count next ∧
      holds next unread (written ++ bytes.take count)
  /-- The bound on what can be read is one. -/
  pending : ∀ {state unread written}, holds state unread written →
    unread.length ≤ stream.pending state

namespace Carries

variable {stream : ByteStream σ ε} {holds : σ → List UInt8 → List UInt8 → Prop}
  {state : σ} {unread written : List UInt8}

/-- Reading goes on until all wanted bytes have arrived, if they are there. -/
theorem gather_enough (carries : stream.Carries holds) {rounds : Nat} (want : Nat)
    (held : holds state unread written) (enough : want ≤ unread.length) (lasts : want ≤ rounds) :
    ∃ next, stream.gather rounds want state = .ok (unread.take want) next ∧
      holds next (unread.drop want) written := by
  induction rounds generalizing state unread want with
  | zero =>
    have nothing : want = 0 := by omega
    subst nothing
    exact ⟨state, rfl, held⟩
  | succ rounds ih =>
    by_cases nothing : want = 0
    · subst nothing
      exact ⟨state, rfl, held⟩
    have present : unread ≠ [] := by
      intro empty
      rw [empty] at enough
      exact nothing (Nat.le_zero.1 enough)
    obtain ⟨count, next, least, most, step, kept⟩ | ⟨short, _⟩ :=
      carries.read held (Nat.pos_of_ne_zero nothing)
    · have length : (unread.take count).length = count := by
        rw [List.length_take]
        omega
      have taken : (unread.take count).isEmpty = false := by
        have positive := most present
        rw [← length] at positive
        exact List.isEmpty_eq_false_iff.2 (List.ne_nil_of_length_pos positive)
      obtain ⟨last, rest, remains⟩ := ih (want - count) kept
        (by rw [List.length_drop]; omega) (by have := most present; omega)
      refine ⟨last, ?_, ?_⟩
      · rw [gather, if_neg nothing, Action.bind_ok (Action.adapt_ok step _), taken, length]
        show (EStateM.adaptExcept _ _ >>= _) next = _
        rw [Action.bind_ok (Action.adapt_ok rest _)]
        show EStateM.Result.ok
          (unread.take count ++ (unread.drop count).take (want - count)) last = _
        rw [← List.take_add, Nat.add_sub_cancel' least]
      · rw [List.drop_drop, Nat.add_sub_cancel' least] at remains
        exact remains
    · omega

/-- Reading more bytes than are left is an error. -/
theorem gather_short (carries : stream.Carries holds) {rounds : Nat} (want : Nat)
    (held : holds state unread written) (short : unread.length < want) (lasts : want ≤ rounds) :
    ∃ error next, stream.gather rounds want state = .error error next ∧
      holds next [] written := by
  induction rounds generalizing state unread want with
  | zero => omega
  | succ rounds ih =>
    have wanted : want ≠ 0 := by omega
    obtain ⟨count, next, least, most, step, kept⟩ | ⟨_, error, next, step, kept⟩ :=
      carries.read held (Nat.pos_of_ne_zero wanted)
    · by_cases empty : unread = []
      · subst empty
        refine ⟨⟨[], .unexpectedEnd⟩, next, ?_, by rwa [List.drop_nil] at kept⟩
        rw [List.take_nil] at step
        rw [gather, if_neg wanted, Action.bind_ok (Action.adapt_ok step _)]
        rfl
      have positive := most empty
      have length : (unread.take count).length = min count unread.length := List.length_take
      have left : 0 < unread.length := List.length_pos_iff.2 empty
      have taken : (unread.take count).isEmpty = false :=
        List.isEmpty_eq_false_iff.2 (List.ne_nil_of_length_pos (by omega))
      obtain ⟨error, last, failed, remains⟩ :=
        ih (want - (unread.take count).length) kept
          (by rw [List.length_drop]; omega) (by omega)
      refine ⟨error.after (unread.take count), last, ?_, remains⟩
      rw [gather, if_neg wanted, Action.bind_ok (Action.adapt_ok step _), taken]
      show (EStateM.adaptExcept _ _ >>= _) next = _
      rw [Action.bind_error (Action.adapt_error failed _)]
    · refine ⟨⟨[], .device error⟩, next, ?_, kept⟩
      rw [gather, if_neg wanted, Action.bind_error (Action.adapt_error step _)]

/-- A field that is all there is read as the bytes in front. -/
theorem readField_enough (carries : stream.Carries holds) (count : Nat)
    (held : holds state unread written) (enough : count ≤ unread.length) :
    ∃ next, stream.readField count state = .ok (unread.take count) next ∧
      holds next (unread.drop count) written := by
  obtain ⟨next, step, kept⟩ := carries.gather_enough count held enough (Nat.le_refl count)
  exact ⟨next, Action.adapt_ok step _, kept⟩

/-- A field that is not all there is an error. -/
theorem readField_short (carries : stream.Carries holds) (count : Nat)
    (held : holds state unread written) (short : unread.length < count) :
    ∃ error next, stream.readField count state = .error error next ∧
      holds next [] written := by
  obtain ⟨error, next, step, kept⟩ := carries.gather_short count held short (Nat.le_refl count)
  exact ⟨error.error, next, Action.adapt_error step _, kept⟩

/-- A field in front of the rest is read and the rest is left. -/
theorem fronts (carries : stream.Carries holds) {written : List UInt8} :
    stream.Fronts fun state unread => holds state unread written where
  field := by
    intro state field rest held
    obtain ⟨next, step, kept⟩ := carries.readField_enough field.length held
      (by rw [List.length_append]; omega)
    rw [List.take_left' rfl] at step
    rw [List.drop_left' rfl] at kept
    exact ⟨next, step, kept⟩

/-- No byte can be read where none is left. -/
theorem readByte_ended (carries : stream.Carries holds) (held : holds state [] written) :
    ∃ error next, stream.readByte state = .error error next ∧ holds next [] written := by
  obtain ⟨error, next, step, kept⟩ := carries.readField_short 1 held Nat.one_pos
  exact ⟨error, next, Action.map_error step _, kept⟩

/-- Where there are four bytes a 32-bit word is read. -/
theorem readWord32_enough (carries : stream.Carries holds) (held : holds state unread written)
    (enough : 4 ≤ unread.length) :
    ∃ word next, stream.readWord32 state = .ok word next ∧ holds next (unread.drop 4) written := by
  obtain ⟨next, step, kept⟩ := carries.readField_enough 4 held enough
  exact ⟨_, next, Action.map_ok step _, kept⟩

/-- A 32-bit word of which a byte is missing is an error. -/
theorem readWord32_short (carries : stream.Carries holds) (held : holds state unread written)
    (short : unread.length < 4) :
    ∃ error next, stream.readWord32 state = .error error next ∧ holds next [] written := by
  obtain ⟨error, next, step, kept⟩ := carries.readField_short 4 held short
  exact ⟨error, next, Action.map_error step _, kept⟩

/-- A name without a zero byte is read up to the zero byte behind it, as a whole if it is within the
capacity. -/
theorem gatherCString_front (carries : stream.Carries holds) {rounds : Nat} (capacity : Nat)
    (name : List UInt8) {rest : List UInt8} (noZero : 0 ∉ name) (fits : name.length ≤ capacity)
    (held : holds state (name ++ 0 :: rest) written) (lasts : name.length < rounds) :
    ∃ next, stream.gatherCString rounds capacity state = .ok name next ∧
      holds next rest written := by
  induction name generalizing state rounds capacity with
  | nil =>
    obtain ⟨rounds, rfl⟩ := Nat.exists_eq_add_one_of_ne_zero (Nat.ne_of_gt lasts)
    obtain ⟨next, zero, kept⟩ := carries.fronts.byte held
    exact ⟨next, Action.bind_ok (Action.adapt_ok zero _) _, kept⟩
  | cons byte name ih =>
    rw [List.length_cons] at fits lasts
    rw [List.mem_cons, not_or] at noZero
    obtain ⟨rounds, rfl⟩ := Nat.exists_eq_add_one_of_ne_zero (by omega : rounds ≠ 0)
    obtain ⟨middle, first, kept⟩ := carries.fronts.byte held
    have left : name.length < rounds := by omega
    obtain ⟨next, others, kept⟩ := ih (capacity - 1) noZero.2 (by omega) kept left
    refine ⟨next, ?_, kept⟩
    rw [gatherCString, Action.bind_ok (Action.adapt_ok first _), if_neg (Ne.symm noZero.1),
      if_neg (by omega : capacity ≠ 0), Action.bind_ok (Action.adapt_ok others _)]
    rfl

/-- A name without a zero byte is read together with the zero byte behind it. -/
theorem readCString_front (carries : stream.Carries holds) {capacity : Nat} (name : List UInt8)
    {rest : List UInt8} (noZero : 0 ∉ name) (fits : name.length ≤ capacity)
    (held : holds state (name ++ 0 :: rest) written) :
    ∃ next, stream.readCString capacity state = .ok name next ∧ holds next rest written := by
  have pending := carries.pending held
  rw [List.length_append, List.length_cons] at pending
  exact carries.gatherCString_front capacity name noZero fits held (by omega)

/-- Writing goes on until all bytes are taken. -/
theorem putAll_all (carries : stream.Carries holds) {rounds : Nat} (bytes : List UInt8)
    (held : holds state unread written) (lasts : bytes.length ≤ rounds) :
    ∃ next, stream.putAll rounds bytes state = .ok () next ∧
      holds next unread (written ++ bytes) := by
  induction rounds generalizing state written bytes with
  | zero =>
    have empty : bytes = [] := List.eq_nil_of_length_eq_zero (Nat.le_zero.1 lasts)
    subst empty
    exact ⟨state, rfl, by rw [List.append_nil]; exact held⟩
  | succ rounds ih =>
    by_cases empty : bytes = []
    · subst empty
      exact ⟨state, rfl, by rw [List.append_nil]; exact held⟩
    obtain ⟨count, next, positive, _, step, kept⟩ := carries.write held empty
    obtain ⟨last, rest, remains⟩ := ih (bytes.drop count) kept
      (by rw [List.length_drop]; omega)
    refine ⟨last, ?_, ?_⟩
    · have present : ¬bytes.isEmpty = true := by rw [List.isEmpty_iff]; exact empty
      rw [putAll, if_neg present, Action.bind_ok (Action.adapt_ok step _),
        if_neg (Nat.pos_iff_ne_zero.1 positive)]
      exact rest
    · rw [List.append_assoc, List.take_append_drop] at remains
      exact remains

/-- All bytes are written. -/
theorem writeAll_all (carries : stream.Carries holds) (bytes : List UInt8)
    (held : holds state unread written) :
    ∃ next, stream.writeAll bytes state = .ok () next ∧ holds next unread (written ++ bytes) :=
  carries.putAll_all bytes held (Nat.le_refl _)

/-- A 32-bit word is written. -/
theorem writeWord32_all (carries : stream.Carries holds) (word : UInt32)
    (held : holds state unread written) :
    ∃ next, stream.writeWord32 word state = .ok () next ∧
      holds next unread (written ++ LittleEndian.bytes32 word) :=
  carries.writeAll_all (LittleEndian.bytes32 word) held

/-- A 64-bit word is written. -/
theorem writeWord64_all (carries : stream.Carries holds) (word : UInt64)
    (held : holds state unread written) :
    ∃ next, stream.writeWord64 word state = .ok () next ∧
      holds next unread (written ++ LittleEndian.bytes64 word) :=
  carries.writeAll_all (LittleEndian.bytes64 word) held

/-- A stream that carries bytes carries them as a part of a larger state, whatever else holds of the
rest of that state. -/
theorem onPart {ρ : Type} {place : Part ρ σ} (carries : stream.Carries holds)
    (lawful : ∀ whole part, place.get (place.put whole part) = part) {frame : ρ → Prop}
    (framed : ∀ whole part, frame whole → frame (place.put whole part)) :
    (place.stream stream).Carries
      fun whole unread written => holds (place.get whole) unread written ∧ frame whole where
  read := by
    rintro whole unread written want ⟨held, rest_held⟩ wanted
    obtain ⟨count, next, most, least, step, kept⟩ | ⟨short, error, next, step, kept⟩ :=
      carries.read held wanted
    · refine .inl ⟨count, place.put whole next, most, least, Part.run_ok step, ?_,
        framed _ _ rest_held⟩
      rwa [lawful]
    · refine .inr ⟨short, error, place.put whole next, Part.run_error step, ?_,
        framed _ _ rest_held⟩
      rwa [lawful]
  write := by
    rintro whole unread written bytes ⟨held, rest_held⟩ present
    obtain ⟨count, next, least, most, step, kept⟩ := carries.write held present
    refine ⟨count, place.put whole next, least, most, Part.run_ok step, ?_, framed _ _ rest_held⟩
    rwa [lawful]
  pending := by
    rintro whole unread written ⟨held, _⟩
    exact carries.pending held

end Carries

end Bringup.ByteStream

namespace Bringup

/-- How a state of a line is read as an input and an output, and when it may be. -/
structure LineView (σ : Type) where
  /-- The line does not fail. -/
  sound : σ → Prop
  /-- The bytes that can still be read. -/
  unread : σ → List UInt8
  /-- The bytes that were written. -/
  written : σ → List UInt8

/-- The state stands for this input and this output. -/
def LineView.Holds {σ : Type} (view : LineView σ) (state : σ)
    (unread written : List UInt8) : Prop :=
  view.sound state ∧ view.unread state = unread ∧ view.written state = written

namespace Scripted

/-- The script only cuts transfers up, into pieces of at least a byte. -/
def CutsOnly (script : Script) : Prop :=
  script.readFailure = none ∧ script.writeFailure = none ∧ script.capacity = none ∧
    script.readLimit ≠ some 0 ∧ script.writeLimit ≠ some 0

/-- A scripted stream as a line. -/
def view : LineView Scripted where
  sound state := CutsOnly state.script
  unread := Scripted.unread
  written state := state.output.toList

/-- A stream with an empty script stands before its input and has no output. -/
theorem view_holds_ofInput (input : List UInt8) : view.Holds (.ofInput {} input) input [] := by
  refine ⟨?_, rfl, rfl⟩
  simp [view, ofInput, CutsOnly]

/-- A limit of at least a byte leaves at least a byte, and never more than was asked for. -/
theorem within_pos {limit : Option Nat} (some_byte : limit ≠ some 0) {count : Nat}
    (positive : 0 < count) : 0 < within limit count ∧ within limit count ≤ count := by
  cases limit with
  | none => exact ⟨positive, Nat.le_refl count⟩
  | some most =>
    have least : most ≠ 0 := fun zero => some_byte (by rw [zero])
    exact ⟨by rw [within]; omega, Nat.min_le_right most count⟩

/-- A read is cut at the limit of the script and at nothing else. -/
theorem read_cut {script : Script} (sound : CutsOnly script) (unread : List UInt8) (position : Nat)
    (output : Array UInt8) (want : Nat) :
    read want ⟨script, unread, position, output⟩ =
      .ok (unread.take (within script.readLimit want))
        ⟨script, unread.drop (within script.readLimit want),
          position + (unread.take (within script.readLimit want)).length, output⟩ := by
  obtain ⟨reads, _⟩ := sound
  simp only [read, reads, Option.map_none]
  rw [if_neg (by simp)]
  rfl

/-- A write is cut at the limit of the script and at nothing else. -/
theorem write_cut {script : Script} (sound : CutsOnly script) (unread : List UInt8) (position : Nat)
    (output : Array UInt8) (bytes : List UInt8) :
    write bytes ⟨script, unread, position, output⟩ =
      .ok (within script.writeLimit bytes.length) ⟨script, unread, position,
        output ++ bytes.take (within script.writeLimit bytes.length)⟩ := by
  obtain ⟨_, writes, room, _⟩ := sound
  simp only [write, writes, room, Option.map_none]
  rw [if_neg (by simp)]
  rfl

/-- A stream whose script only cuts transfers up carries bytes. -/
theorem carries : stream.Carries view.Holds where
  read := by
    rintro ⟨script, unread, position, output⟩ _ _ want ⟨sound, rfl, rfl⟩ wanted
    have count := within_pos sound.2.2.2.1 wanted
    exact .inl ⟨_, _, count.2, fun _ => count.1, read_cut sound unread position output want, sound,
      rfl, rfl⟩
  write := by
    rintro ⟨script, unread, position, output⟩ _ _ bytes ⟨sound, rfl, rfl⟩ present
    have count := within_pos sound.2.2.2.2 (List.length_pos_iff.2 present)
    exact ⟨_, _, count.1, count.2, write_cut sound unread position output bytes, sound, rfl,
      Array.toList_appendList⟩
  pending := by
    rintro state _ _ ⟨_, rfl, _⟩
    exact Nat.le_refl _

end Scripted

end Bringup
