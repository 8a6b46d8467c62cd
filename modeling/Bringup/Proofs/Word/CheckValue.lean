import Mathlib.Algebra.Group.Nat.Defs
import Mathlib.Logic.Function.Iterate
import Bringup.Word.Crc32
import Bringup.Word.LittleEndian
/-!
# Check values that tell bytes apart

The bit step of the CRC register distributes over exclusive or and takes nothing but zero to zero,
because the highest bit of the polynomial is set and a shifted register has none. So the byte step
is injective in the register and in the byte, and two sequences that differ in one byte have
different check values (`checksum_inj`). The table is left at once: its entries are what eight bit
steps make of the low byte (`step_eq`).
-/

namespace Bringup.Crc32

/-- The lowest bit is set exactly in the odd registers. -/
theorem and_one_iff (register : UInt32) : register &&& 1 = 1 ↔ register.toNat % 2 = 1 := by
  rw [← UInt32.toNat_inj, UInt32.toNat_and]
  exact iff_of_eq (congrArg (· = 1) (Nat.and_one_is_mod register.toNat))

/-- A shift by one place halves the register. -/
theorem toNat_shiftRight_one (register : UInt32) : (register >>> 1).toNat = register.toNat / 2 := by
  rw [UInt32.toNat_shiftRight, Nat.shiftRight_eq_div_pow]
  rfl

/-- A shift by eight places drops the low byte. -/
theorem toNat_shiftRight_eight (register : UInt32) :
    (register >>> 8).toNat = register.toNat / 256 := by
  rw [UInt32.toNat_shiftRight, Nat.shiftRight_eq_div_pow]
  rfl

/-- A bit step out of an even register is a shift. -/
theorem shiftBit_even {register : UInt32} (even : register.toNat % 2 = 0) :
    shiftBit register = register >>> 1 := by
  have clear : ¬register &&& 1 = 1 := by
    rw [and_one_iff]
    omega
  exact if_neg clear

/-- A bit step out of an odd register brings in the polynomial. -/
theorem shiftBit_odd {register : UInt32} (odd : register.toNat % 2 = 1) :
    shiftBit register = (register >>> 1) ^^^ polynomial :=
  if_pos ((and_one_iff register).2 odd)

/-- The bit step distributes over exclusive or. -/
theorem shiftBit_xor (left right : UInt32) :
    shiftBit (left ^^^ right) = shiftBit left ^^^ shiftBit right := by
  have parity : (left ^^^ right).toNat % 2 = 1 ↔ ¬(left.toNat % 2 = 1 ↔ right.toNat % 2 = 1) := by
    rw [UInt32.toNat_xor]
    exact Nat.xor_mod_two_eq_one
  obtain even | odd := Nat.mod_two_eq_zero_or_one left.toNat
  · obtain also | other := Nat.mod_two_eq_zero_or_one right.toNat
    · rw [shiftBit_even even, shiftBit_even also, shiftBit_even (by omega), UInt32.shiftRight_xor]
    · rw [shiftBit_even even, shiftBit_odd other, shiftBit_odd (by omega), UInt32.shiftRight_xor,
        UInt32.xor_assoc]
  · obtain other | also := Nat.mod_two_eq_zero_or_one right.toNat
    · rw [shiftBit_odd odd, shiftBit_even other, shiftBit_odd (by omega), UInt32.shiftRight_xor]
      ac_rfl
    · have cancel : polynomial ^^^ polynomial = 0 := UInt32.xor_self
      rw [shiftBit_odd odd, shiftBit_odd also, shiftBit_even (by omega), UInt32.shiftRight_xor]
      calc left >>> 1 ^^^ right >>> 1
          = left >>> 1 ^^^ right >>> 1 ^^^ (polynomial ^^^ polynomial) := by
            rw [cancel, UInt32.xor_zero]
        _ = left >>> 1 ^^^ polynomial ^^^ (right >>> 1 ^^^ polynomial) := by ac_rfl

/-- A bit step takes nothing but zero to zero: half a register is less than the polynomial. -/
theorem eq_zero_of_shiftBit {register : UInt32} (zero : shiftBit register = 0) : register = 0 := by
  have half := toNat_shiftRight_one register
  have bound := register.toNat_lt
  obtain even | odd := Nat.mod_two_eq_zero_or_one register.toNat
  · rw [shiftBit_even even] at zero
    rw [zero] at half
    have value : (0 : UInt32).toNat = 0 := rfl
    apply UInt32.toNat_inj.1
    omega
  · rw [shiftBit_odd odd] at zero
    have same : register >>> 1 = polynomial := UInt32.xor_eq_zero_iff.1 zero
    have large : polynomial.toNat = 0xedb88320 := rfl
    rw [same] at half
    omega

/-- The bit step is injective. -/
theorem shiftBit_injective : Function.Injective shiftBit := by
  intro left right same
  have zero : shiftBit (left ^^^ right) = 0 := by
    rw [shiftBit_xor, same, UInt32.xor_self]
  exact UInt32.xor_eq_zero_iff.1 (eq_zero_of_shiftBit zero)

/-- The byte step of the register is eight bit steps. -/
theorem shiftByte_eq : shiftByte = shiftBit^[8] := rfl

/-- So it is injective. -/
theorem shiftByte_injective : Function.Injective shiftByte :=
  shiftByte_eq ▸ shiftBit_injective.iterate 8

/-- It distributes over exclusive or, too. -/
theorem shiftByte_xor (left right : UInt32) :
    shiftByte (left ^^^ right) = shiftByte left ^^^ shiftByte right := by
  simp only [shiftByte, shiftBit_xor]

/-- Bit steps out of a register whose low bits are clear only shift it. -/
theorem toNat_iterate_shiftBit {count : Nat} {register : UInt32}
    (clear : register.toNat % 2 ^ count = 0) :
    (shiftBit^[count] register).toNat = register.toNat / 2 ^ count := by
  induction count generalizing register with
  | zero => simp
  | succ count ih =>
    have twice : 2 ^ (count + 1) = 2 * 2 ^ count := Nat.pow_succ'
    rw [twice] at clear
    have even : register.toNat % 2 = 0 := by
      have inner := Nat.mod_mul_right_mod register.toNat 2 (2 ^ count)
      rw [clear] at inner
      exact inner.symm
    have half : (shiftBit register).toNat = register.toNat / 2 := by
      rw [shiftBit_even even, toNat_shiftRight_one]
    have rest : (shiftBit register).toNat % 2 ^ count = 0 := by
      rw [half, ← Nat.mod_mul_right_div_self, clear]
    rw [Function.iterate_succ_apply, ih rest, half, Nat.div_div_eq_div_mul, twice]

/-- The table holds what eight bit steps make of each byte. -/
theorem table_and_byte (word : UInt32) :
    table.getD (word &&& 0xff).toNat 0 = shiftByte (word &&& 0xff) := by
  have bound : (word &&& 0xff).toNat < table.size := by
    rw [size_table, LittleEndian.toNat_and_byte]
    omega
  have entry : table[(word &&& 0xff).toNat]? = some (shiftByte (word &&& 0xff)) := by
    rw [Array.getElem?_eq_getElem bound]
    simp [table]
  rw [Array.getD_eq_getD_getElem?, entry, Option.getD_some]

/-- A word without its low byte, shifted by eight bit steps. -/
theorem shiftByte_high (word : UInt32) : shiftByte (word ^^^ (word &&& 0xff)) = word >>> 8 := by
  have low := LittleEndian.toNat_and_byte word
  have clear : (word ^^^ (word &&& 0xff)).toNat % 2 ^ 8 = 0 := by
    rw [UInt32.toNat_xor, low, Nat.xor_mod_two_pow, Nat.mod_mod, Nat.xor_self]
  have gone : (word &&& 0xff) >>> 8 = 0 := by
    apply UInt32.toNat_inj.1
    rw [toNat_shiftRight_eight, low]
    exact Nat.div_eq_of_lt (Nat.mod_lt _ (by decide))
  have shifted : word >>> 8 = (word ^^^ (word &&& 0xff)) >>> 8 := by
    rw [UInt32.shiftRight_xor, gone, UInt32.xor_zero]
  have quotient := toNat_shiftRight_eight (word ^^^ (word &&& 0xff))
  apply UInt32.toNat_inj.1
  rw [shiftByte_eq, toNat_iterate_shiftBit clear, shifted]
  exact quotient.symm

/-- Taking in a byte is adding it to the register and eight bit steps. -/
theorem step_eq (register : UInt32) (byte : UInt8) :
    step register byte = shiftByte (register ^^^ byte.toUInt32) := by
  have bound := byte.toNat_lt
  have gone : byte.toUInt32 >>> 8 = 0 := by
    apply UInt32.toNat_inj.1
    rw [toNat_shiftRight_eight, UInt8.toNat_toUInt32]
    exact Nat.div_eq_of_lt bound
  generalize sum : register ^^^ byte.toUInt32 = word
  have high : register >>> 8 = word >>> 8 := by
    rw [← sum, UInt32.shiftRight_xor, gone, UInt32.xor_zero]
  have split : word = (word ^^^ (word &&& 0xff)) ^^^ (word &&& 0xff) := by
    rw [UInt32.xor_assoc, UInt32.xor_self, UInt32.xor_zero]
  calc step register byte = word >>> 8 ^^^ shiftByte (word &&& 0xff) := by
        rw [step, sum, table_and_byte, high]
    _ = shiftByte (word ^^^ (word &&& 0xff)) ^^^ shiftByte (word &&& 0xff) := by
        rw [shiftByte_high]
    _ = shiftByte word := by rw [← shiftByte_xor, ← split]

/-- Different registers stay different when the same byte is taken in. -/
theorem step_left_inj {left right : UInt32} (byte : UInt8) :
    step left byte = step right byte ↔ left = right := by
  rw [step_eq, step_eq, shiftByte_injective.eq_iff, UInt32.xor_left_inj]

/-- Different bytes make different registers of one. -/
theorem step_right_inj (register : UInt32) {left right : UInt8} :
    step register left = step register right ↔ left = right := by
  rw [step_eq, step_eq, shiftByte_injective.eq_iff, UInt32.xor_right_inj, UInt8.toUInt32_inj]

/-- Different registers stay different when the same bytes are taken in. -/
theorem foldl_step_inj {left right : UInt32} (bytes : List UInt8) :
    bytes.foldl step left = bytes.foldl step right ↔ left = right := by
  induction bytes generalizing left right with
  | nil => exact Iff.rfl
  | cons byte rest ih => rw [List.foldl_cons, List.foldl_cons, ih, step_left_inj]

/-- Sequences that are the same but for one byte have the same check value only if that byte is the
same, too. -/
theorem checksum_inj (front back : List UInt8) {left right : UInt8} :
    checksum (front ++ left :: back) = checksum (front ++ right :: back) ↔ left = right := by
  rw [checksum, checksum, finish, finish, UInt32.xor_left_inj, List.foldl_append,
    List.foldl_append, List.foldl_cons, List.foldl_cons, foldl_step_inj, step_right_inj]

/-- Replacing one byte of a sequence changes its check value, unless it was the same byte. -/
theorem checksum_set_eq_iff {bytes : List UInt8} {position : Nat} (inside : position < bytes.length)
    (byte : UInt8) :
    checksum (bytes.set position byte) = checksum bytes ↔ byte = bytes[position] := by
  have split (value : UInt8) : bytes.set position value =
      bytes.take position ++ value :: bytes.drop (position + 1) := by
    rw [List.set_eq_take_append_cons_drop, if_pos inside]
  have whole : bytes = bytes.take position ++ bytes[position] :: bytes.drop (position + 1) := by
    rw [← split, List.set_getElem_self]
  calc checksum (bytes.set position byte) = checksum bytes
      ↔ checksum (bytes.take position ++ byte :: bytes.drop (position + 1)) =
          checksum (bytes.take position ++ bytes[position] :: bytes.drop (position + 1)) := by
        rw [← split, ← whole]
    _ ↔ byte = bytes[position] := checksum_inj _ _

end Bringup.Crc32
