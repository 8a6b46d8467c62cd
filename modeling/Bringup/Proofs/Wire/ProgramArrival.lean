import Bringup.Proofs.Stream.ScriptedBounds
import Bringup.Proofs.Wire.ProgramCodec
/-!
# Programs that arrive in part

A program is loaded from a stream that may end anywhere, quietly or with a failure, and that cuts
up its bytes as it likes. What becomes of the load depends on the bytes that arrive alone
(`Loads`): its result, the image bytes that are stored and noticed, and the bytes that are left for
whatever reads next. Main statement: every load ends so, and all memory behind the bytes that were
stored is as before (`loadInto_outcome`).
-/

namespace Bringup.Program

open Bringup.Action

variable {σ ε : Type}

/-- What becomes of a load into a memory of `capacity` bytes, by the bytes that arrive before the
stream ends: the result, the image bytes that are stored, and the bytes that are left. -/
inductive Loads (ending : StreamEnd ε) (capacity : Nat) : (incoming : List UInt8) →
    (result : Except (LoadError ε) Nat) → (stored rest : List UInt8) → Prop where
  /-- The stream ends within the length. -/
  | unannounced {incoming : List UInt8} : incoming.length < 4 →
    Loads ending capacity incoming (.error (.transfer ending.error)) [] []
  /-- More is announced than fits: nothing behind the length is read. -/
  | tooLarge {length : UInt32} {rest : List UInt8} : capacity < length.toNat →
    Loads ending capacity (LittleEndian.bytes32 length ++ rest)
      (.error (.tooLarge length.toNat capacity)) [] rest
  /-- The stream ends within the image: the bytes that arrived are stored. -/
  | cutOff {length : UInt32} {arrived : List UInt8} : length.toNat ≤ capacity →
    arrived.length < length.toNat →
    Loads ending capacity (LittleEndian.bytes32 length ++ arrived)
      (.error (.transfer ending.error)) arrived []
  /-- The stream ends within the check value. -/
  | unchecked {length : UInt32} {image part : List UInt8} : image.length = length.toNat →
    image.length ≤ capacity → part.length < 4 →
    Loads ending capacity (LittleEndian.bytes32 length ++ image ++ part)
      (.error (.transfer ending.error)) image []
  /-- Everything arrives: the check value decides. -/
  | checked {length check : UInt32} {image rest : List UInt8} : image.length = length.toNat →
    image.length ≤ capacity →
    Loads ending capacity
      (LittleEndian.bytes32 length ++ image ++ LittleEndian.bytes32 check ++ rest)
      (if Crc32.checksum image = check then .ok image.length
        else .error (.wrongCrc check (Crc32.checksum image))) image rest

/-- Bytes begin with a word, or there are too few of them. -/
theorem exists_word_front (bytes : List UInt8) :
    bytes.length < 4 ∨ ∃ word rest, bytes = LittleEndian.bytes32 word ++ rest := by
  by_cases short : bytes.length < 4
  · exact .inl short
  · have four : (bytes.take 4).length = 4 := List.length_take_of_le (Nat.le_of_not_lt short)
    have word : LittleEndian.bytes32 (LittleEndian.word32 (bytes.take 4)) = bytes.take 4 :=
      LittleEndian.bytes32_word32 four
    refine .inr ⟨LittleEndian.word32 (bytes.take 4), bytes.drop 4, ?_⟩
    rw [word, List.take_append_drop]

/-- Whatever arrives, something becomes of the load. -/
theorem Loads.exhaustive (ending : StreamEnd ε) (capacity : Nat) (incoming : List UInt8) :
    ∃ result stored rest, Loads ending capacity incoming result stored rest := by
  obtain short | ⟨length, body, rfl⟩ := exists_word_front incoming
  · exact ⟨_, _, _, .unannounced short⟩
  by_cases large : capacity < length.toNat
  · exact ⟨_, _, _, .tooLarge large⟩
  have fits : length.toNat ≤ capacity := Nat.le_of_not_lt large
  by_cases cut : body.length < length.toNat
  · exact ⟨_, _, _, .cutOff fits cut⟩
  have image : (body.take length.toNat).length = length.toNat :=
    List.length_take_of_le (Nat.le_of_not_lt cut)
  have room : (body.take length.toNat).length ≤ capacity := by omega
  have split : body = body.take length.toNat ++ body.drop length.toNat :=
    (List.take_append_drop _ body).symm
  obtain short | ⟨check, rest, behind⟩ := exists_word_front (body.drop length.toNat)
  · rw [split, ← List.append_assoc]
    exact ⟨_, _, _, .unchecked image room short⟩
  · rw [split, behind, ← List.append_assoc, ← List.append_assoc]
    exact ⟨_, _, _, .checked image room⟩

section Supplied

variable {stream : ByteStream σ ε} {ending : StreamEnd ε}
  {holds : σ → List UInt8 → List UInt8 → Prop} {written : List UInt8}
  (supplies : stream.Supplies ending fun state unread => holds state unread written)

include supplies

/-- The link of a loader supplies what the stream supplies, and leaves the memory alone. -/
theorem Loading.link_supplies (memory seen : List UInt8) :
    (Loading.linkPart.stream stream).Supplies ending fun loading unread =>
      Loading.Stands holds memory seen loading unread written := by
  have lawful (loading : Loading σ) (link : σ) :
      Loading.linkPart.get (Loading.linkPart.put loading link) = link := rfl
  exact supplies.onPart lawful fun _ _ same => same

variable {memory seen rest : List UInt8} {loading : Loading σ}

/-- A word of which a part is missing takes what is there, and the transfer fails. -/
theorem readWord_short {unread : List UInt8} (short : unread.length < 4)
    (stands : loading.Stands holds memory seen unread written) :
    ∃ next : Loading σ,
      (Loading.linkPart.stream stream).readWord32 loading = .error ending.error next ∧
      next.Stands holds memory seen [] written := by
  obtain ⟨word, left, _, rfl, _⟩ | ⟨_, next, ran, kept⟩ :=
    (Loading.link_supplies supplies memory seen).readWord32_cases stands
  · rw [List.length_append, LittleEndian.length_bytes32] at short
    omega
  · exact ⟨next, ran, kept⟩

/-- Of the bytes of an image, the first is stored and noticed and the others follow it. -/
theorem receiveImage_round {front old behind unread : List UInt8} {gone byte : UInt8}
    (count : Nat) (register : UInt32)
    (stands : loading.Stands holds (front ++ gone :: old ++ behind) seen (byte :: unread) written) :
    ∃ next : Loading σ,
      next.Stands holds (front ++ [byte] ++ old ++ behind) (seen ++ [byte]) unread written ∧
      receiveImage (Loading.linkPart.stream stream) Loading.store (count + 1) front.length
          register loading =
        receiveImage (Loading.linkPart.stream stream) Loading.store count (front ++ [byte]).length
          (Crc32.step register byte) next := by
  obtain ⟨first, others, next, split, read, kept⟩ | ⟨empty, _⟩ :=
    (Loading.link_supplies supplies _ _).readByte_cases stands
  · obtain ⟨rfl, rfl⟩ := List.cons.inj split
    refine ⟨_, kept.stored byte, ?_⟩
    rw [receiveImage, bind_ok read, List.length_append]
    rfl
  · cases empty

/-- Of an image that ends early the bytes that arrive are stored where it begins, and the transfer
fails. -/
theorem receiveImage_part (arrived : List UInt8) {front old behind : List UInt8}
    (register : UInt32) (short : arrived.length < old.length)
    (stands : loading.Stands holds (front ++ old ++ behind) seen arrived written) :
    ∃ next : Loading σ,
      receiveImage (Loading.linkPart.stream stream) Loading.store old.length front.length
        register loading = .error ending.error next ∧
      next.Stands holds (front ++ arrived ++ old.drop arrived.length ++ behind) (seen ++ arrived) []
        written := by
  induction arrived generalizing front old seen loading register with
  | nil =>
    obtain _ | ⟨gone, old⟩ := old
    case nil => simp at short
    obtain ⟨_, _, _, split, _⟩ | ⟨_, next, ended, kept⟩ :=
      (Loading.link_supplies supplies _ _).readByte_cases stands
    · cases split
    · refine ⟨next, ?_, ?_⟩
      · rw [List.length_cons, receiveImage, bind_error ended]
      · simpa using kept
  | cons byte arrived ih =>
    obtain _ | ⟨gone, old⟩ := old
    case nil => simp at short
    have fewer : arrived.length < old.length := by simpa using short
    obtain ⟨middle, stands, round⟩ := receiveImage_round supplies old.length register stands
    obtain ⟨next, others, kept⟩ := ih (Crc32.step register byte) fewer stands
    refine ⟨next, round.trans others, ?_⟩
    simpa using kept

omit supplies in
/-- A load compares the length that is announced with the size of the memory. -/
theorem loadInto_eq {unread : List UInt8}
    (stands : loading.Stands holds memory seen unread written) :
    loadInto stream loading =
      load (Loading.linkPart.stream stream) memory.length Loading.store loading := by
  rw [← stands.size_eq]
  rfl

/-- A load whose image ends early has stored what arrived of it, and fails. -/
theorem loadInto_cutOff {length : UInt32} {arrived : List UInt8}
    (fits : length.toNat ≤ memory.length) (cut : arrived.length < length.toNat)
    (stands : loading.Stands holds memory seen (LittleEndian.bytes32 length ++ arrived) written) :
    ∃ next : Loading σ,
      loadInto stream loading = .error (.transfer ending.error) next ∧
      next.Stands holds (arrived ++ memory.drop arrived.length) (seen ++ arrived) [] written := by
  have begins : loadInto stream loading = _ := loadInto_eq stands
  have room : (memory.take length.toNat).length = length.toNat := List.length_take_of_le fits
  -- The image goes where the first half of the memory is, and only a part of it arrives.
  have halves : memory = [] ++ memory.take length.toNat ++ memory.drop length.toNat := by simp
  have behind : (memory.take length.toNat).drop arrived.length ++ memory.drop length.toNat =
      memory.drop arrived.length := by
    rw [← List.drop_append_of_le_length (by omega), List.take_append_drop]
  obtain ⟨announced, head, stands⟩ := (Loading.link_supplies supplies _ _).fronts.word32 stands
  rw [halves] at stands
  obtain ⟨next, body, stands⟩ :=
    receiveImage_part supplies arrived Crc32.start (by rwa [room]) stands
  rw [room] at body
  refine ⟨next, ?_, by simpa [behind] using stands⟩
  rw [begins, load, bind_ok (adapt_ok head _), if_neg (Nat.not_lt.2 fits)]
  exact bind_error (adapt_error body _) _

/-- A load that has received its image goes on with the check value. -/
theorem loadInto_received {length : UInt32} {image : List UInt8}
    (whole : image.length = length.toNat) (fits : image.length ≤ memory.length)
    (stands : loading.Stands holds memory seen (LittleEndian.bytes32 length ++ image ++ rest)
      written) :
    ∃ received : Loading σ,
      received.Stands holds (image ++ memory.drop image.length) (seen ++ image) rest written ∧
      loadInto stream loading = (do
        let expected ← EStateM.adaptExcept LoadError.transfer
          (Loading.linkPart.stream stream).readWord32
        if Crc32.checksum image = expected then pure image.length
        else throw (.wrongCrc expected (Crc32.checksum image)) :
          EStateM (LoadError ε) (Loading σ) Nat) received := by
  have begins : loadInto stream loading = _ := loadInto_eq stands
  have room : (memory.take image.length).length = image.length := List.length_take_of_le fits
  have halves : memory = [] ++ memory.take image.length ++ memory.drop image.length := by simp
  rw [List.append_assoc] at stands
  obtain ⟨announced, head, stands⟩ := (Loading.link_supplies supplies _ _).fronts.word32 stands
  rw [halves] at stands
  have fronts (memory seen : List UInt8) := (Loading.link_supplies supplies memory seen).fronts
  obtain ⟨received, body, stands⟩ := receiveImage_front fronts image Crc32.start room stands
  refine ⟨received, by simpa using stands, ?_⟩
  rw [begins, load, bind_ok (adapt_ok head _), if_neg (by omega), ← whole]
  exact bind_ok (adapt_ok body _) _

/-- Loading a program from a stream that may end anywhere, for every memory. Something becomes of
every sequence of bytes that may arrive before the stream ends. The load has this result; it leaves
unread what follows; what it stored is noticed in order and lies at the beginning of the memory, and
the memory behind it is as before. -/
theorem loadInto_outcome {incoming : List UInt8}
    (stands : loading.Stands holds memory seen incoming written) :
    (∃ result stored rest, Loads ending memory.length incoming result stored rest) ∧
    ∀ {result stored rest}, Loads ending memory.length incoming result stored rest →
      ∃ next : Loading σ, attempt (loadInto stream) loading = (result, next) ∧
        next.Stands holds (stored ++ memory.drop stored.length) (seen ++ stored) rest written := by
  refine ⟨Loads.exhaustive ending memory.length incoming, ?_⟩
  intro result stored rest loads
  cases loads with
  | unannounced short =>
    obtain ⟨next, head, kept⟩ := readWord_short supplies short stands
    refine ⟨next, attempt_error ?_, by simpa using kept⟩
    rw [loadInto_eq stands, load, bind_error (adapt_error head _)]
  | tooLarge large =>
    obtain ⟨next, head, kept⟩ := (Loading.link_supplies supplies _ _).fronts.word32 stands
    refine ⟨next, attempt_error ?_, by simpa using kept⟩
    rw [loadInto_eq stands, load, bind_ok (adapt_ok head _), if_pos large]
    rfl
  | cutOff fits cut =>
    obtain ⟨next, ended, kept⟩ := loadInto_cutOff supplies fits cut stands
    exact ⟨next, attempt_error ended, kept⟩
  | unchecked whole fits short =>
    obtain ⟨received, kept, goes⟩ := loadInto_received supplies whole fits stands
    obtain ⟨next, tail, kept⟩ := readWord_short supplies short kept
    refine ⟨next, attempt_error ?_, kept⟩
    rw [goes, bind_error (adapt_error tail _)]
  | @checked length check _ _ whole fits =>
    rw [List.append_assoc] at stands
    obtain ⟨received, kept, goes⟩ := loadInto_received supplies whole fits stands
    obtain ⟨next, tail, kept⟩ := (Loading.link_supplies supplies _ _).fronts.word32 kept
    refine ⟨next, ?_, kept⟩
    rw [attempt, goes, bind_ok (adapt_ok tail _)]
    by_cases agrees : Crc32.checksum stored = check
    · rw [if_pos agrees, if_pos agrees]
      rfl
    · rw [if_neg agrees, if_neg agrees]
      rfl

end Supplied

/-- A loader on a stream that moves three bytes at a time and fails after ten, with eight bytes of
memory. -/
def shakyLoader (answer : List UInt8) : Loading Scripted :=
  ⟨.ofInput { readLimit := some 3, readFailure := some 10 } answer, Array.replicate 8 0xff, #[]⟩

/-- Of an image of seven bytes the six that arrive before the failure are stored and noticed, and
the rest of the memory is as before. -/
theorem shakyLoader_cutOff :
    ∃ next : Loading Scripted,
      attempt (loadInto Scripted.stream) (shakyLoader [7, 0, 0, 0, 1, 2, 3, 4, 5, 6, 7, 8, 9]) =
        (.error (.transfer (.device .readFailed)), next) ∧
      next.memory.toList = [1, 2, 3, 4, 5, 6, 0xff, 0xff] ∧
      next.seen.toList = [1, 2, 3, 4, 5, 6] := by
  have moves : Script.Moves { readLimit := some 3, readFailure := some 10 } := ⟨nofun, nofun⟩
  have supplies := Scripted.supplies moves 13 []
  have stands : (shakyLoader [7, 0, 0, 0, 1, 2, 3, 4, 5, 6, 7, 8, 9]).Stands
      (Scripted.boundedView _ 13).Holds (List.replicate 8 0xff) []
      (LittleEndian.bytes32 7 ++ [1, 2, 3, 4, 5, 6]) [] :=
    ⟨Scripted.ofInput_holds _ [7, 0, 0, 0, 1, 2, 3, 4, 5, 6, 7, 8, 9], rfl, rfl⟩
  obtain ⟨next, ran, _, memory, seen⟩ := (loadInto_outcome supplies stands).2
    (.cutOff (by decide) (by decide))
  exact ⟨next, ran, memory, seen⟩

end Bringup.Program
