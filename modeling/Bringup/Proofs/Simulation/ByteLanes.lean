import Mathlib.Data.Nat.Bitwise
import Bringup.Simulation.Memory
/-!
# Byte lanes of a memory word

A word of the memory is eight byte lanes, the lowest bits first. Bit `i` of the enable bits
belongs to lane `i`. Main statement: merging two words takes the enabled lanes from the new
word and leaves the other lanes of the old one alone (`lane_mergeBytes`), so the mask is a
way of computing and no part of the meaning.
-/

namespace Bringup

/-- A byte of a word, the lowest one first. -/
def lane (word : UInt64) (index : Fin 8) : UInt8 :=
  (word >>> UInt64.ofNat (8 * index.val)).toUInt8

/-- Whether the enable bits name a lane. -/
def laneEnabled (byteEnable : UInt32) (index : Fin 8) : Bool := byteEnable.toNat.testBit index.val

/-- Bit `bit` of lane `index` is bit `8 * index + bit` of the word. -/
theorem testBit_lane (word : UInt64) (index : Fin 8) (bit : Nat) (inside : bit < 8) :
    (lane word index).toNat.testBit bit = word.toNat.testBit (8 * index.val + bit) := by
  have amount : (UInt64.ofNat (8 * index.val)).toNat % 64 = 8 * index.val := by
    rw [UInt64.toNat_ofNat']
    omega
  rw [lane, UInt64.toNat_toUInt8, Nat.testBit_mod_two_pow, UInt64.toNat_shiftRight, amount,
    Nat.testBit_shiftRight]
  simp [inside]

/-- Lanes that agree in their eight bits are the same byte. -/
theorem eq_of_testBit_lane {left right : UInt8}
    (same : ∀ bit, bit < 8 → left.toNat.testBit bit = right.toNat.testBit bit) : left = right := by
  apply UInt8.toNat_inj.mp
  apply Nat.eq_of_testBit_eq
  intro bit
  by_cases inside : bit < 8
  · exact same bit inside
  · have bound : 2 ^ 8 ≤ 2 ^ bit := Nat.pow_le_pow_right (by decide) (by omega)
    rw [Nat.testBit_eq_false_of_lt (Nat.lt_of_lt_of_le left.toNat_lt bound),
      Nat.testBit_eq_false_of_lt (Nat.lt_of_lt_of_le right.toNat_lt bound)]

/-- The enable test of the mask looks at one bit. -/
theorem enable_test (byteEnable : UInt32) (index : Nat) (inside : index < 32) :
    byteEnable >>> UInt32.ofNat index &&& 1 = 1 ↔ byteEnable.toNat.testBit index = true := by
  have amount : (UInt32.ofNat index).toNat % 32 = index := by
    rw [UInt32.toNat_ofNat']
    omega
  rw [← UInt32.toNat_inj, UInt32.toNat_and, UInt32.toNat_shiftRight, amount,
    show (1 : UInt32).toNat = 1 from rfl, Nat.and_one_is_mod, Nat.testBit_eq_decide_div_mod_eq,
    Nat.shiftRight_eq_div_pow]
  simp

/-- The bits of a byte at lane `index` are eight in a row. -/
theorem testBit_byteAt (index bit : Nat) (inside : index < 8) :
    ((0xff : UInt64) <<< UInt64.ofNat (8 * index)).toNat.testBit bit =
      decide (8 * index ≤ bit ∧ bit < 8 * index + 8) := by
  have amount : (UInt64.ofNat (8 * index)).toNat % 64 = 8 * index := by
    rw [UInt64.toNat_ofNat']
    omega
  have ones : (0xff : UInt64).toNat = 2 ^ 8 - 1 := rfl
  rw [UInt64.toNat_shiftLeft, amount, ones, Nat.testBit_mod_two_pow, Nat.testBit_shiftLeft,
    Nat.testBit_two_pow_sub_one, ← Bool.decide_and, ← Bool.decide_and, decide_eq_decide]
  omega

/-- Enabling the first `count` lanes sets exactly the bits of those that are named. -/
theorem testBit_maskOfLanes (byteEnable : UInt32) (bit : Nat) : ∀ count ≤ 8,
    ((List.range count).foldl
      (fun mask index =>
        if byteEnable >>> UInt32.ofNat index &&& 1 = 1
        then mask ||| (0xff <<< UInt64.ofNat (8 * index)) else mask) (0 : UInt64)).toNat.testBit bit
      = (decide (bit < 8 * count) && byteEnable.toNat.testBit (bit / 8)) := by
  intro count
  induction count with
  | zero => intro _; simp
  | succ count ih =>
    intro within
    have before := ih (by omega)
    rw [List.range_succ, List.foldl_append, List.foldl_cons, List.foldl_nil]
    -- The new lane holds the bits that `bit < 8 * count` leaves out.
    by_cases here : 8 * count ≤ bit ∧ bit < 8 * count + 8
    · have place : bit / 8 = count := by omega
      have earlier : ¬ bit < 8 * count := by omega
      have now : bit < 8 * (count + 1) := by omega
      split
      · next enabled =>
        rw [enable_test _ _ (by omega)] at enabled
        rw [UInt64.toNat_or, Nat.testBit_or, before, testBit_byteAt _ _ (by omega)]
        simp [here, place, enabled, now]
      · next disabled =>
        rw [enable_test _ _ (by omega)] at disabled
        rw [before]
        simp [place, disabled]
    · have same : decide (bit < 8 * (count + 1)) = decide (bit < 8 * count) := by
        rw [decide_eq_decide]
        omega
      rw [same, ← before]
      split
      · rw [UInt64.toNat_or, Nat.testBit_or, testBit_byteAt _ _ (by omega)]
        simp only [here, decide_false, Bool.or_false]
      · rfl

/-- The mask has the bits of the enabled lanes. -/
theorem testBit_byteMask (byteEnable : UInt32) (index : Fin 8) (bit : Nat) (inside : bit < 8) :
    (byteMask byteEnable).toNat.testBit (8 * index.val + bit) = laneEnabled byteEnable index := by
  rw [byteMask, testBit_maskOfLanes byteEnable _ 8 (Nat.le_refl 8)]
  have place : (8 * index.val + bit) / 8 = index.val := by omega
  have within : 8 * index.val + bit < 8 * 8 := by omega
  simp [laneEnabled, place, within]

/-- Merging takes the enabled lanes from the new word and the others from the old one. -/
theorem lane_mergeBytes (byteEnable : UInt32) (old new : UInt64) (index : Fin 8) :
    lane (mergeBytes byteEnable old new) index =
      if laneEnabled byteEnable index then lane new index else lane old index := by
  apply eq_of_testBit_lane
  intro bit inside
  have position : 8 * index.val + bit < 64 := by omega
  have mask := testBit_byteMask byteEnable index bit inside
  rw [testBit_lane _ _ _ inside, mergeBytes]
  have outside : (UInt64.size - 1 - (byteMask byteEnable).toNat).testBit (8 * index.val + bit) =
      !laneEnabled byteEnable index := by
    have complement : UInt64.size - 1 - (byteMask byteEnable).toNat =
        2 ^ 64 - ((byteMask byteEnable).toNat + 1) := by
      change 2 ^ 64 - 1 - _ = _
      omega
    rw [complement, Nat.testBit_two_pow_sub_succ (byteMask byteEnable).toNat_lt, mask]
    simp [position]
  simp only [UInt64.toNat_or, UInt64.toNat_and, UInt64.toNat_not, Nat.testBit_or, Nat.testBit_and,
    mask, outside]
  split
  · next enabled => simp [enabled, testBit_lane _ _ _ inside]
  · next disabled => simp [disabled, testBit_lane _ _ _ inside]

end Bringup
