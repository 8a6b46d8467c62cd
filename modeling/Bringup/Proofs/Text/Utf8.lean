import Bringup.Text.Utf8
import Mathlib.Data.List.Basic
/-!
# Texts survive being sent

The lossy decoder takes the bytes of a text back to that text (`Text.decodeLossy_utf8Bytes`), and so
does the strict one (`Text.decodeStrict?_utf8Bytes`). Each character is written in one of four
lengths; its first byte tells the length, the others carry six bits each, and the bounds on the
second byte leave all characters in.
-/

namespace Bringup.Text

/-- A byte that carries six bits continues a sequence. -/
theorem isContinuation_payload : ∀ bits < 64,
    isContinuation (UInt8.ofNat (bits + 128)) = true := by
  decide

/-- Six bits more are read back from the byte that carries them. -/
theorem appendPayload_payload (front : Nat) {bits : Nat} (six : bits < 64) :
    appendPayload front (UInt8.ofNat (bits + 128)) = front * 64 + bits := by
  rw [appendPayload, UInt8.toNat_ofNat']
  omega

/-- The first byte of a sequence of two tells its length and five bits. -/
theorem sequenceLength_two : ∀ bits < 32, 2 ≤ bits →
    sequenceLength (UInt8.ofNat (bits + 192)) = 2 := by
  decide

/-- The first byte of a sequence of three tells its length. -/
theorem sequenceLength_three : ∀ bits < 16, sequenceLength (UInt8.ofNat (bits + 224)) = 3 := by
  decide

/-- The first byte of a sequence of four tells its length. -/
theorem sequenceLength_four : ∀ bits < 5, sequenceLength (UInt8.ofNat (bits + 240)) = 4 := by
  decide

/-- The second byte of a sequence of three lies within bounds unless the sequence is too long for
its character or the character is a surrogate. -/
theorem secondByteBounds_three : ∀ front < 16, ∀ bits < 64, (front = 0 → 32 ≤ bits) →
    (front = 13 → bits < 32) →
    (secondByteBounds (UInt8.ofNat (front + 224))).1 ≤ UInt8.ofNat (bits + 128) ∧
      UInt8.ofNat (bits + 128) ≤ (secondByteBounds (UInt8.ofNat (front + 224))).2 := by
  decide +kernel

/-- The second byte of a sequence of four lies within bounds unless the sequence is too long for its
character or there is no such character. -/
theorem secondByteBounds_four : ∀ front < 5, ∀ bits < 64, (front = 0 → 16 ≤ bits) →
    (front = 4 → bits < 16) →
    (secondByteBounds (UInt8.ofNat (front + 240))).1 ≤ UInt8.ofNat (bits + 128) ∧
      UInt8.ofNat (bits + 128) ≤ (secondByteBounds (UInt8.ofNat (front + 240))).2 := by
  decide +kernel

/-- The number of a character is no surrogate and not past the last character. -/
theorem toNat_valid (char : Char) :
    char.val.toNat < 0xd800 ∨ 0xdfff < char.val.toNat ∧ char.val.toNat < 0x110000 :=
  char.valid

/-- A character is read back from its bytes, and all of them are taken. -/
theorem scalarAt_encoded (char : Char) (rest : List UInt8) :
    ∃ first behind, String.utf8EncodeChar char = first :: behind ∧
      scalarAt first (behind ++ rest) = (some char, behind.length) := by
  have valid := toNat_valid char
  have same : Char.ofNat char.val.toNat = char := Char.ofNat_toNat char
  rw [String.utf8EncodeChar.eq_1]
  generalize char.val.toNat = value at valid same
  by_cases one : value ≤ 127
  · refine ⟨_, [], if_pos one, ?_⟩
    have small : UInt8.ofNat value < 0x80 := by
      rw [UInt8.lt_iff_toNat_lt, UInt8.toNat_ofNat']
      show value % 256 < 128
      omega
    have number : (UInt8.ofNat value).toNat = value := by
      rw [UInt8.toNat_ofNat']
      omega
    simp only [scalarAt, sequenceLength, if_pos small, number, same, List.length_nil]
  rw [if_neg one]
  by_cases two : value ≤ 2047
  · refine ⟨_, [_], if_pos two, ?_⟩
    have length := sequenceLength_two (value / 64 % 32) (by omega) (by omega)
    have continues := isContinuation_payload (value % 64) (by omega)
    have front : (UInt8.ofNat (value / 64 % 32 + 192)).toNat % 32 = value / 64 := by
      rw [UInt8.toNat_ofNat']
      omega
    have whole : value / 64 * 64 + value % 64 = value := by omega
    simp only [scalarAt, length, List.cons_append, List.nil_append, continues, if_true, front,
      appendPayload_payload _ (show value % 64 < 64 by omega), whole, same, List.length_singleton]
  rw [if_neg two]
  by_cases three : value ≤ 65535
  · refine ⟨_, [_, _], if_pos three, ?_⟩
    have length := sequenceLength_three (value / 4096 % 16) (by omega)
    have bounds := secondByteBounds_three (value / 4096 % 16) (by omega) (value / 64 % 64)
      (by omega) (by omega) (by omega)
    have continues := isContinuation_payload (value % 64) (by omega)
    have front : (UInt8.ofNat (value / 4096 % 16 + 224)).toNat % 16 = value / 4096 := by
      rw [UInt8.toNat_ofNat']
      omega
    have whole : (value / 4096 * 64 + value / 64 % 64) * 64 + value % 64 = value := by omega
    simp only [scalarAt, length, List.cons_append, List.nil_append, bounds, decide_true,
      Bool.and_self, continues, if_true, front,
      appendPayload_payload _ (show value / 64 % 64 < 64 by omega),
      appendPayload_payload _ (show value % 64 < 64 by omega), whole, same, List.length_cons,
      List.length_nil]
  rw [if_neg three]
  refine ⟨_, [_, _, _], rfl, ?_⟩
  have length := sequenceLength_four (value / 262144 % 8) (by omega)
  have bounds := secondByteBounds_four (value / 262144 % 8) (by omega) (value / 4096 % 64)
    (by omega) (by omega) (by omega)
  have third := isContinuation_payload (value / 64 % 64) (by omega)
  have fourth := isContinuation_payload (value % 64) (by omega)
  have front : (UInt8.ofNat (value / 262144 % 8 + 240)).toNat % 8 = value / 262144 := by
    rw [UInt8.toNat_ofNat']
    omega
  have whole : ((value / 262144 * 64 + value / 4096 % 64) * 64 + value / 64 % 64) * 64 +
      value % 64 = value := by omega
  simp only [scalarAt, length, List.cons_append, List.nil_append, bounds, decide_true,
    Bool.and_self, third, fourth, if_true, front,
    appendPayload_payload _ (show value / 4096 % 64 < 64 by omega),
    appendPayload_payload _ (show value / 64 % 64 < 64 by omega),
    appendPayload_payload _ (show value % 64 < 64 by omega), whole, same, List.length_cons,
    List.length_nil]

/-- The characters of a text are read back from its bytes. -/
theorem scalarsWithin_encoded {budget : Nat} (chars : List Char)
    (enough : (chars.flatMap String.utf8EncodeChar).length ≤ budget) :
    scalarsWithin budget (chars.flatMap String.utf8EncodeChar) = chars.map some := by
  induction chars generalizing budget with
  | nil => cases budget <;> rfl
  | cons char chars ih =>
    obtain ⟨first, behind, encoded, read⟩ :=
      scalarAt_encoded char (chars.flatMap String.utf8EncodeChar)
    rw [List.flatMap_cons, encoded, List.cons_append] at enough ⊢
    rw [List.length_cons, List.length_append] at enough
    obtain ⟨budget, rfl⟩ := Nat.exists_eq_add_one_of_ne_zero (by omega : budget ≠ 0)
    rw [scalarsWithin, read, List.drop_left, List.map_cons, ih (by omega)]

/-- A text survives being sent as bytes and decoded. -/
theorem decodeLossy_utf8Bytes (text : String) : decodeLossy (utf8Bytes text) = text := by
  rw [decodeLossy, scalars, utf8Bytes, scalarsWithin_encoded _ (Nat.le_refl _), List.map_map]
  show String.ofList (text.toList.map id) = text
  rw [List.map_id, String.ofList_toList]

/-- Parts that are all there make up the whole. -/
theorem mapM_some {α : Type} (parts : List α) : parts.mapM some = some parts := by
  simpa using List.mapM_pure (m := Option) (l := parts) (f := id)

/-- The bytes of a text are well-formed, and strict decoding gives the text back. -/
theorem decodeStrict?_utf8Bytes (text : String) : decodeStrict? (utf8Bytes text) = some text := by
  rw [decodeStrict?, scalars, utf8Bytes, scalarsWithin_encoded _ (Nat.le_refl _), List.mapM_map]
  show Option.map String.ofList (text.toList.mapM some) = some text
  rw [mapM_some, Option.map_some, String.ofList_toList]

end Bringup.Text
