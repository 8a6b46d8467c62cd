import Bringup.Proofs.Text.Numerals
import Bringup.Text.Radix
/-!
# Printed words and lines are read back

A word that is printed in as few digits as possible is read back, in decimal as well as behind the
mark of hexadecimal digits (`readLooseWord32_decimal`, `readLooseWord32_markedHex`). Lines with a
line feed behind each are told apart again if none of them holds a line end (`lines_terminated`).
-/

namespace Bringup.Text

variable {radix : Nat}

/-- The character of a digit has its value, in the radixes that words are printed in. -/
theorem digitValue?_digitChar (known : radix = 10 ∨ radix = 16) :
    ∀ digit < radix, digitValue? radix (Nat.digitChar digit) = some digit := by
  rcases known with rfl | rfl <;> decide

/-- What is printed for a number is made of digits. -/
theorem digitValue?_of_mem_toDigits (known : radix = 10 ∨ radix = 16) {number : Nat} {c : Char}
    (among : c ∈ Nat.toDigits radix number) : ∃ digit, digitValue? radix c = some digit := by
  have base : 1 < radix := by omega
  induction number using Nat.strong_induction_on with
  | h number ih =>
    by_cases small : number < radix
    · rw [Nat.toDigits_of_lt_base small, List.mem_singleton] at among
      rw [among]
      exact ⟨number, digitValue?_digitChar known number small⟩
    · have large : radix ≤ number := Nat.le_of_not_lt small
      rw [Nat.toDigits_of_base_le base large, List.mem_append, List.mem_singleton] at among
      rcases among with front | rfl
      · exact ih (number / radix) (Nat.div_lt_self (by omega) base) front
      · have below : number % radix < radix := Nat.mod_lt number (by omega)
        exact ⟨number % radix, digitValue?_digitChar known _ below⟩

/-- What is printed for a number is made of letters and digits. -/
theorem isAlphanum_of_mem_toDigits (known : radix = 10 ∨ radix = 16) {number : Nat} {c : Char}
    (among : c ∈ Nat.toDigits radix number) : c.isAlphanum = true := by
  obtain ⟨digit, value⟩ := digitValue?_of_mem_toDigits known among
  exact isAlphanum_of_digitValue? value

/-- A character that is neither letter nor digit is printed for no number. -/
theorem not_mem_toDigits (known : radix = 10 ∨ radix = 16) {number : Nat} {c : Char}
    (other : c.isAlphanum = false) : c ∉ Nat.toDigits radix number := by
  intro among
  rw [isAlphanum_of_mem_toDigits known among] at other
  cases other

/-- Digits behind others are appended to what was read of these. -/
theorem appendDigits_append {bound value : Nat} (front back : List Char) :
    appendDigits radix bound value (front ++ back) =
      (appendDigits radix bound value front).bind (appendDigits radix bound · back) := by
  induction front generalizing value with
  | nil => rfl
  | cons c front ih =>
    rw [List.cons_append, appendDigits, appendDigits]
    split
    · rfl
    · split
      · exact ih
      · rfl

/-- The digits of a number below the bound are read as that number. -/
theorem appendDigits_toDigits (known : radix = 10 ∨ radix = 16) {bound number : Nat}
    (below : number < bound) :
    appendDigits radix bound 0 (Nat.toDigits radix number) = .ok number := by
  have base : 1 < radix := by omega
  induction number using Nat.strong_induction_on with
  | h number ih =>
    by_cases small : number < radix
    · have value := digitValue?_digitChar known number small
      rw [Nat.toDigits_of_lt_base small, appendDigits, value]
      simp [below, appendDigits]
    · have large : radix ≤ number := Nat.le_of_not_lt small
      have smaller : number / radix < number := Nat.div_lt_self (by omega) base
      have value := digitValue?_digitChar known (number % radix) (Nat.mod_lt number (by omega))
      have whole : number / radix * radix + number % radix = number := Nat.div_add_mod' _ _
      rw [Nat.toDigits_of_base_le base large, appendDigits_append, ih _ smaller (by omega)]
      simp only [Except.bind, appendDigits, value, whole, below, if_true]

/-- The digits of a word are read as that word. -/
theorem readWord32_toDigits (known : radix = 10 ∨ radix = 16) (word : UInt32) :
    readWord32 radix (Nat.toDigits radix word.toNat) = .ok word := by
  have unsigned : '+' ∉ Nat.toDigits radix word.toNat := not_mem_toDigits known (by decide)
  have read : readUnsigned radix UInt32.size (Nat.toDigits radix word.toNat) =
      .ok word.toNat := by
    unfold readUnsigned
    split
    · next none => exact absurd none Nat.toDigits_ne_nil
    · next sign => exact absurd (by rw [sign]; exact List.mem_cons_self) unsigned
    · next sign => exact absurd (by rw [sign]; exact List.mem_cons_self) unsigned
    · exact appendDigits_toDigits known word.toNat_lt
  rw [readWord32, read]
  exact congrArg Except.ok UInt32.ofNat_toNat

/-- At a width of at most one, digits are those of the number alone. -/
theorem toList_digits {width : Nat} (narrow : width ≤ 1) (number : Nat) :
    (digits radix width number).toList = Nat.toDigits radix number := by
  have positive : 0 < (Nat.toDigits radix number).length := Nat.length_toDigits_pos
  have unfilled : width - (Nat.toDigits radix number).length = 0 := by omega
  simp only [digits, unfilled, String.toList_ofList, List.replicate_zero, List.nil_append]

/-- A number that is printed in hexadecimal digits stands behind their mark. -/
theorem toList_markedHex (number : Nat) :
    (markedHex 1 number).toList = '0' :: 'x' :: Nat.toDigits 16 number := by
  rw [markedHex, String.toList_append, hex, toList_digits (Nat.le_refl 1)]
  rfl

/-- No underscore stands in the digits of a number. -/
theorem filter_toDigits (known : radix = 10 ∨ radix = 16) (number : Nat) :
    (Nat.toDigits radix number).filter (· ≠ '_') = Nat.toDigits radix number := by
  rw [List.filter_eq_self]
  rintro c among
  rw [decide_eq_true_eq]
  rintro rfl
  exact not_mem_toDigits known (by decide) among

/-- A word that is printed in hexadecimal digits behind their mark is read back. -/
theorem readLooseWord32_markedHex (word : UInt32) :
    readLooseWord32 (markedHex 1 word.toNat) = .ok word := by
  have shown : (markedHex 1 word.toNat).toList.filter (· ≠ '_') =
      '0' :: 'x' :: Nat.toDigits 16 word.toNat := by
    have digits := filter_toDigits (.inr rfl) word.toNat
    rw [toList_markedHex, List.filter_cons_of_pos (by decide), List.filter_cons_of_pos (by decide),
      digits]
  unfold readLooseWord32
  rw [shown]
  exact readWord32_toDigits (.inr rfl) word

/-- A word that is printed in decimal digits is read back. -/
theorem readLooseWord32_decimal (word : UInt32) :
    readLooseWord32 (decimal word.toNat) = .ok word := by
  have shown : (decimal word.toNat).toList.filter (· ≠ '_') = Nat.toDigits 10 word.toNat := by
    rw [decimal, toList_digits (Nat.zero_le 1), filter_toDigits (.inl rfl)]
  have unmarked {c : Char} (letter : c.isDigit = false) : c ∉ Nat.toDigits 10 word.toNat := by
    intro among
    rw [Nat.isDigit_of_mem_toDigits (by decide) (by decide) among] at letter
    cases letter
  unfold readLooseWord32
  split
  · next marked =>
    rw [shown] at marked
    exact absurd (by simp [marked]) (unmarked (c := 'x') (by decide))
  · next marked =>
    rw [shown] at marked
    exact absurd (by simp [marked]) (unmarked (c := 'X') (by decide))
  · rw [shown]
    exact readWord32_toDigits (.inl rfl) word

/-- A line that holds no line end is cut off at the line feed behind it. -/
theorem linesFrom_line {line : List Char} (whole : '\n' ∉ line) (begun rest : List Char) :
    linesFrom begun (line ++ '\n' :: rest) =
      (dropReturn (line.reverse ++ begun)).reverse :: linesFrom [] rest := by
  induction line generalizing begun with
  | nil =>
    rw [List.nil_append, linesFrom, if_pos rfl]
    rfl
  | cons c line ih =>
    rw [List.mem_cons, not_or] at whole
    obtain ⟨other, others⟩ := whole
    rw [List.cons_append, linesFrom, if_neg (Ne.symm other), ih others, List.reverse_cons,
      List.append_assoc, List.singleton_append]

/-- Nothing is removed from the end of a line without a carriage return. -/
theorem dropReturn_of_not_mem {line : List Char} (plain : '\r' ∉ line) :
    dropReturn line = line := by
  unfold dropReturn
  split
  · exact absurd List.mem_cons_self plain
  · rfl

/-- Lines with a line feed behind each are told apart again. -/
theorem lines_terminated {all : List (List Char)}
    (plain : ∀ line ∈ all, '\n' ∉ line ∧ '\r' ∉ line) :
    lines (all.flatMap (· ++ ['\n'])) = all := by
  rw [lines]
  induction all with
  | nil => rfl
  | cons line rest ih =>
    obtain ⟨here, others⟩ := List.forall_mem_cons.1 plain
    have kept : dropReturn line.reverse = line.reverse :=
      dropReturn_of_not_mem fun among => here.2 (List.mem_reverse.1 among)
    rw [List.flatMap_cons, List.append_assoc, List.singleton_append, linesFrom_line here.1,
      List.append_nil, kept, List.reverse_reverse, ih others]

end Bringup.Text
