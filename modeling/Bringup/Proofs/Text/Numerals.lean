import Bringup.Text.Blank
import Bringup.Text.Unsigned
import Mathlib.Data.Nat.Digits.Lemmas
/-!
# What numbers are spelled with

Reading a number succeeds on digits of its radix, perhaps behind a plus sign, and answers the number
that they spell with the highest digit first (`spells_of_readWord32`). Digits are letters and digits
of ASCII, which no blank and no sign is (`isAlphanum_of_isBlank`).
-/

namespace Bringup.Text

/-- The number that digits of a radix spell. -/
def Spells (radix : Nat) (text : List Char) (number : Nat) : Prop :=
  ∃ digits, text.mapM (digitValue? radix) = some digits ∧
    number = Nat.ofDigits radix digits.reverse

/-- Reading further digits appends them to the value read before, which stays below the bound. -/
theorem appendDigits_eq_ok {radix bound value number : Nat} {text : List Char}
    (small : value < bound) (read : appendDigits radix bound value text = .ok number) :
    number < bound ∧ ∃ digits, text.mapM (digitValue? radix) = some digits ∧
      number = value * radix ^ digits.length + Nat.ofDigits radix digits.reverse := by
  induction text generalizing value with
  | nil =>
    cases read
    exact ⟨small, [], rfl, by simp⟩
  | cons c rest ih =>
    rw [appendDigits] at read
    cases digit : digitValue? radix c with
    | none =>
      rw [digit] at read
      cases read
    | some first =>
      rw [digit] at read
      dsimp only at read
      split at read
      · next bounded =>
        obtain ⟨below, others, spelled, rfl⟩ := ih bounded read
        refine ⟨below, first :: others, by simp [digit, spelled], ?_⟩
        rw [Nat.ofDigits_reverse_cons, List.length_cons]
        ring
      · cases read

/-- An unsigned number that is read is spelled with one or more digits, perhaps behind a plus
sign. -/
theorem spells_of_readUnsigned {radix bound number : Nat} {text : List Char} (positive : 0 < bound)
    (read : readUnsigned radix bound text = .ok number) :
    number < bound ∧ ∃ digits, (text = digits ∨ text = '+' :: digits) ∧ digits ≠ [] ∧
      Spells radix digits number := by
  unfold readUnsigned at read
  split at read
  · cases read
  · cases read
  · next rest alone =>
    obtain ⟨below, digits, spelled, value⟩ := appendDigits_eq_ok positive read
    refine ⟨below, rest, .inr rfl, fun empty => alone (by rw [empty]), digits, spelled, ?_⟩
    rw [value, Nat.zero_mul, Nat.zero_add]
  · next nonempty _ _ =>
    obtain ⟨below, digits, spelled, value⟩ := appendDigits_eq_ok positive read
    refine ⟨below, text, .inl rfl, nonempty, digits, spelled, ?_⟩
    rw [value, Nat.zero_mul, Nat.zero_add]

/-- A word that is read is spelled with one or more digits, perhaps behind a plus sign. -/
theorem spells_of_readWord32 {radix : Nat} {text : List Char} {word : UInt32}
    (read : readWord32 radix text = .ok word) :
    ∃ digits, (text = digits ∨ text = '+' :: digits) ∧ digits ≠ [] ∧
      Spells radix digits word.toNat := by
  rw [readWord32] at read
  cases number : readUnsigned radix UInt32.size text with
  | error error =>
    rw [number] at read
    cases read
  | ok value =>
    rw [number] at read
    cases read
    obtain ⟨below, digits, signed, nonempty, spelled⟩ := spells_of_readUnsigned (by decide) number
    have same : (UInt32.ofNat value).toNat = value := UInt32.toNat_ofNat_of_lt below
    exact ⟨digits, signed, nonempty, by rwa [same]⟩

/-- Letters and digits lie in three ranges. -/
theorem isAlphanum_iff (c : Char) : c.isAlphanum = true ↔
    (65 ≤ c.toNat ∧ c.toNat ≤ 90) ∨ (97 ≤ c.toNat ∧ c.toNat ≤ 122) ∨
      (48 ≤ c.toNat ∧ c.toNat ≤ 57) := by
  have upper : c.isUpper = true ↔ 65 ≤ c.toNat ∧ c.toNat ≤ 90 := decide_eq_true_iff
  have lower : c.isLower = true ↔ 97 ≤ c.toNat ∧ c.toNat ≤ 122 :=
    (Bool.and_eq_true_iff).trans (and_congr decide_eq_true_iff decide_eq_true_iff)
  have digit : c.isDigit = true ↔ 48 ≤ c.toNat ∧ c.toNat ≤ 57 :=
    (Bool.and_eq_true_iff).trans (and_congr decide_eq_true_iff decide_eq_true_iff)
  show (c.isUpper || c.isLower || c.isDigit) = true ↔ _
  rw [Bool.or_eq_true, Bool.or_eq_true, upper, lower, digit, or_assoc]

/-- A digit is below the radix, and lies in one of three ranges that say its value. -/
theorem digitValue?_eq_some {radix digit : Nat} {c : Char}
    (value : digitValue? radix c = some digit) : digit < radix ∧
      ((48 ≤ c.toNat ∧ c.toNat ≤ 57 ∧ digit + 48 = c.toNat) ∨
        (97 ≤ c.toNat ∧ c.toNat ≤ 102 ∧ digit + 87 = c.toNat) ∨
        (65 ≤ c.toNat ∧ c.toNat ≤ 70 ∧ digit + 55 = c.toNat)) := by
  unfold digitValue? at value
  obtain ⟨value, below⟩ := Option.filter_eq_some_iff.1 value
  refine ⟨of_decide_eq_true below, ?_⟩
  split at value
  · next range =>
    have range : 48 ≤ c.toNat ∧ c.toNat ≤ 57 := range
    have value : c.toNat - 48 = digit := Option.some.inj value
    omega
  · split at value
    · next range =>
      have range : 97 ≤ c.toNat ∧ c.toNat ≤ 102 := range
      have value : c.toNat - 97 + 10 = digit := Option.some.inj value
      omega
    · split at value
      · next range =>
        have range : 65 ≤ c.toNat ∧ c.toNat ≤ 70 := range
        have value : c.toNat - 65 + 10 = digit := Option.some.inj value
        omega
      · cases value

/-- Digits of a radix are letters or digits. -/
theorem isAlphanum_of_digitValue? {radix digit : Nat} {c : Char}
    (value : digitValue? radix c = some digit) : c.isAlphanum = true := by
  have ranges := (digitValue?_eq_some value).2
  rw [isAlphanum_iff]
  omega

/-- Digits of the decimal radix are digits. -/
theorem isDigit_of_digitValue? {digit : Nat} {c : Char}
    (value : digitValue? 10 c = some digit) : c.isDigit = true := by
  obtain ⟨below, ranges⟩ := digitValue?_eq_some value
  have range : 48 ≤ c.toNat ∧ c.toNat ≤ 57 := by omega
  rw [Char.isDigit, Bool.and_eq_true, decide_eq_true_eq, decide_eq_true_eq]
  exact range

/-- All that spells a number is a digit of the radix. -/
theorem Spells.digit {radix number : Nat} {text : List Char} (spells : Spells radix text number)
    {c : Char} (among : c ∈ text) : ∃ digit, digitValue? radix c = some digit := by
  obtain ⟨digits, spelled, -⟩ := spells
  induction text generalizing digits with
  | nil => exact absurd among List.not_mem_nil
  | cons first rest ih =>
    rw [List.mapM_cons] at spelled
    obtain ⟨digit, value, others⟩ := Option.bind_eq_some_iff.1 spelled
    obtain ⟨later, following, _⟩ := Option.bind_eq_some_iff.1 others
    rcases List.mem_cons.1 among with rfl | among
    · exact ⟨digit, value⟩
    · exact ih among later following

/-- No blank is a letter or a digit. -/
theorem isAlphanum_of_isBlank {c : Char} (blank : isBlank c = true) : c.isAlphanum = false := by
  rw [← Bool.not_eq_true, isAlphanum_iff]
  simp only [isBlank, Bool.or_eq_true, Bool.and_eq_true, decide_eq_true_eq, beq_iff_eq] at blank
  omega

end Bringup.Text
