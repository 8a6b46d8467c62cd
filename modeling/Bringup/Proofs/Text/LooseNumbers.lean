import Bringup.Proofs.Text.Printed
/-!
# Which words a command line can say

A word on a command line is a number in decimal, or in hexadecimal behind a mark, and underscores in
it mean nothing. The grammar is given without the reader (`LooseNumber`): digits are those that
numbers are printed with, in either case, and the number is built from the highest digit on. What
the grammar allows is read as the number that it stands for, unless that does not fit a word
(`LooseNumber.read`), and nothing else is read (`LooseNumber.of_read`).
-/

namespace Bringup.Text

variable {radix : Nat}

/-- A character is a digit with this value. Digits from ten on are letters, in either case. -/
def IsDigit (radix : Nat) (c : Char) (digit : Nat) : Prop :=
  digit < radix ∧ (c = digit.digitChar ∨ c = digit.digitChar.toUpper)

/-- Digits, the highest first, stand for a number. -/
inductive DigitRun (radix : Nat) : List Char → Nat → Prop where
  | nil : DigitRun radix [] 0
  | append {front : List Char} {c : Char} {number digit : Nat} : DigitRun radix front number →
    IsDigit radix c digit → DigitRun radix (front ++ [c]) (number * radix + digit)

/-- One or more digits stand for a number, perhaps behind a plus sign. -/
inductive Unsigned (radix : Nat) : List Char → Nat → Prop where
  | plain {digits : List Char} {number : Nat} : digits ≠ [] → DigitRun radix digits number →
    Unsigned radix digits number
  | signed {digits : List Char} {number : Nat} : digits ≠ [] → DigitRun radix digits number →
    Unsigned radix ('+' :: digits) number

/-- A text stands for a number as one writes it on a command line, apart from underscores. -/
inductive LooseNumber : List Char → Nat → Prop where
  | decimal {text : List Char} {number : Nat} : Unsigned 10 text number → LooseNumber text number
  | hexadecimal {mark : Char} {text : List Char} {number : Nat} : mark = 'x' ∨ mark = 'X' →
    Unsigned 16 text number → LooseNumber ('0' :: mark :: text) number

/-- What is left of a text without its underscores. -/
def bare (text : String) : List Char := text.toList.filter (· ≠ '_')

/-- The second text is the first one with underscores put in, wherever and as many as one likes. -/
inductive Underscored : List Char → List Char → Prop where
  | nil : Underscored [] []
  | keep {plain text : List Char} (c : Char) : Underscored plain text →
    Underscored (c :: plain) (c :: text)
  | underscore {plain text : List Char} : Underscored plain text → Underscored plain ('_' :: text)

/-- What may stand in front of the digits and the sign of a word. -/
def radixMarks : List (List Char) := [[], ['0', 'x'], ['0', 'X']]

/-- The digits of a radix are those that the reader takes for digits. -/
theorem isDigit_iff (known : radix = 10 ∨ radix = 16) {c : Char} {digit : Nat} :
    IsDigit radix c digit ↔ digitValue? radix c = some digit := by
  have lower : ∀ digit < 16, digit.digitChar.toNat =
      if digit < 10 then digit + 48 else digit + 87 := by
    decide
  have upper : ∀ digit < 16, digit.digitChar.toUpper.toNat =
      if digit < 10 then digit + 48 else digit + 55 := by
    decide
  constructor
  · rintro ⟨below, rfl | rfl⟩
    · exact digitValue?_digitChar known digit below
    · rcases known with rfl | rfl
      · revert digit
        decide
      · revert digit
        decide
  · intro value
    obtain ⟨below, ranges⟩ := digitValue?_eq_some value
    have small : digit < 16 := by omega
    refine ⟨below, ?_⟩
    rw [← Char.toNat_inj, ← Char.toNat_inj, lower digit small, upper digit small]
    split <;> omega

/-- Digits are letters or digits of ASCII. -/
theorem IsDigit.isAlphanum (known : radix = 10 ∨ radix = 16) {c : Char} {digit : Nat}
    (isDigit : IsDigit radix c digit) : c.isAlphanum = true :=
  isAlphanum_of_digitValue? ((isDigit_iff known).1 isDigit)

namespace DigitRun

variable {text : List Char} {number : Nat}

/-- What spells a number is a run of digits that stands for it. -/
theorem of_spells (known : radix = 10 ∨ radix = 16) (spells : Spells radix text number) :
    DigitRun radix text number := by
  obtain ⟨digits, spelled, rfl⟩ := spells
  induction text using List.reverseRecOn generalizing digits with
  | nil =>
    cases spelled
    exact .nil
  | append_singleton front c ih =>
    rw [List.mapM_append] at spelled
    obtain ⟨before, spelledBefore, rest⟩ := Option.bind_eq_some_iff.1 spelled
    obtain ⟨last, single, both⟩ := Option.bind_eq_some_iff.1 rest
    cases both
    rw [List.mapM_cons] at single
    obtain ⟨digit, value, alone⟩ := Option.bind_eq_some_iff.1 single
    cases alone
    have appended : Nat.ofDigits radix (before ++ [digit]).reverse =
        Nat.ofDigits radix before.reverse * radix + digit := by
      rw [List.reverse_append, List.reverse_singleton, List.singleton_append, Nat.ofDigits_cons,
        Nat.mul_comm, Nat.add_comm]
    have run := DigitRun.append (ih before spelledBefore) ((isDigit_iff known).2 value)
    rwa [← appended] at run

/-- Every character of a run is a digit. -/
theorem digit (run : DigitRun radix text number) {c : Char} (among : c ∈ text) :
    ∃ digit, IsDigit radix c digit := by
  induction run with
  | nil => exact absurd among List.not_mem_nil
  | @append _ _ _ digit _ isDigit ih =>
    rcases List.mem_append.1 among with front | last
    · exact ih front
    · rw [List.mem_singleton.1 last]
      exact ⟨digit, isDigit⟩

/-- Zeros in front of digits leave their number as it is. -/
theorem zeros (known : radix = 10 ∨ radix = 16) (run : DigitRun radix text number) (count : Nat) :
    DigitRun radix (List.replicate count '0' ++ text) number := by
  have zero : IsDigit radix '0' 0 := ⟨by omega, .inl rfl⟩
  induction run with
  | nil =>
    rw [List.append_nil]
    induction count with
    | zero => exact .nil
    | succ count ih =>
      have longer := DigitRun.append ih zero
      rwa [Nat.zero_mul, ← List.replicate_succ'] at longer
  | append _ isDigit ih =>
    rw [← List.append_assoc]
    exact .append ih isDigit

/-- The digits printed for a number are a run that stands for it. -/
theorem toDigits (known : radix = 10 ∨ radix = 16) (number : Nat) :
    DigitRun radix (Nat.toDigits radix number) number := by
  have read := appendDigits_toDigits known (Nat.lt_succ_self number)
  obtain ⟨-, digits, spelled, value⟩ := appendDigits_eq_ok (Nat.succ_pos number) read
  rw [Nat.zero_mul, Nat.zero_add] at value
  exact of_spells known ⟨digits, spelled, value⟩

/-- A run of digits is read as the number that it stands for, unless that is too large. -/
theorem read (known : radix = 10 ∨ radix = 16) {bound : Nat} (positive : 0 < bound)
    (run : DigitRun radix text number) : appendDigits radix bound 0 text =
      if number < bound then .ok number else .error .overflow := by
  induction run with
  | nil => rw [if_pos positive, appendDigits]
  | @append front c number digit _ isDigit ih =>
    have value := (isDigit_iff known).1 isDigit
    -- A number that is too large gets no smaller by another digit.
    have grows : number ≤ number * radix := Nat.le_mul_of_pos_right _ (by omega)
    rw [appendDigits_append, ih]
    by_cases below : number < bound
    · rw [if_pos below]
      simp only [Except.bind, appendDigits, value]
    · rw [if_neg below, if_neg (by omega)]
      rfl

end DigitRun

namespace Unsigned

variable {text : List Char} {number : Nat}

/-- An unsigned number is made of digits, and perhaps a plus sign. -/
theorem characters (unsigned : Unsigned radix text number) {c : Char} (among : c ∈ text) :
    (∃ digit, IsDigit radix c digit) ∨ c = '+' := by
  cases unsigned with
  | plain _ run => exact .inl (run.digit among)
  | signed _ run =>
    rcases List.mem_cons.1 among with sign | among
    · exact .inr sign
    · exact .inl (run.digit among)

/-- An unsigned number is made of letters and digits of ASCII, and perhaps a plus sign. -/
theorem isAlphanum (known : radix = 10 ∨ radix = 16) (unsigned : Unsigned radix text number)
    {c : Char} (among : c ∈ text) : c.isAlphanum = true ∨ c = '+' := by
  rcases unsigned.characters among with ⟨digit, isDigit⟩ | sign
  · exact .inl (isDigit.isAlphanum known)
  · exact .inr sign

/-- An unsigned number is read as what it stands for, unless that is too large. -/
theorem read (known : radix = 10 ∨ radix = 16) {bound : Nat} (positive : 0 < bound)
    (unsigned : Unsigned radix text number) : readUnsigned radix bound text =
      if number < bound then .ok number else .error .overflow := by
  cases unsigned with
  | plain nonempty run =>
    have unsigned : '+' ∉ text := by
      intro among
      obtain ⟨digit, isDigit⟩ := run.digit among
      exact absurd (isDigit.isAlphanum known) (by decide)
    unfold readUnsigned
    split
    · exact absurd rfl nonempty
    · exact absurd List.mem_cons_self unsigned
    · exact absurd List.mem_cons_self unsigned
    · exact run.read known positive
  | @signed digits _ nonempty run =>
    cases digits with
    | nil => exact absurd rfl nonempty
    | cons c rest => exact run.read known positive

/-- An unsigned number is read as a word, unless it does not fit one. -/
theorem readWord32 (known : radix = 10 ∨ radix = 16) (unsigned : Unsigned radix text number) :
    readWord32 radix text = if number < 2 ^ 32 then .ok (.ofNat number) else .error .overflow := by
  have read : readUnsigned radix UInt32.size text =
      if number < 2 ^ 32 then .ok number else .error .overflow :=
    unsigned.read known (by decide)
  rw [Text.readWord32, read]
  split <;> rfl

/-- A word that is read is an unsigned number. -/
theorem of_readWord32 (known : radix = 10 ∨ radix = 16) {word : UInt32}
    (read : Text.readWord32 radix text = .ok word) : Unsigned radix text word.toNat := by
  obtain ⟨digits, rfl | rfl, nonempty, spells⟩ := spells_of_readWord32 read
  · exact .plain nonempty (.of_spells known spells)
  · exact .signed nonempty (.of_spells known spells)

end Unsigned

namespace LooseNumber

variable {number : Nat}

/-- A number on a command line is made of letters and digits of ASCII, and perhaps a plus sign. -/
theorem isAlphanum {plain : List Char} (loose : LooseNumber plain number) {c : Char}
    (among : c ∈ plain) : c.isAlphanum = true ∨ c = '+' := by
  cases loose with
  | decimal unsigned => exact unsigned.isAlphanum (.inl rfl) among
  | hexadecimal marks unsigned =>
    rcases List.mem_cons.1 among with rfl | among
    · exact .inl (by decide)
    · rcases List.mem_cons.1 among with rfl | among
      · rcases marks with rfl | rfl <;> exact .inl (by decide)
      · exact unsigned.isAlphanum (.inr rfl) among

/-- A word that is read is a number that the text stands for. -/
theorem of_read {text : String} {word : UInt32} (read : readLooseWord32 text = .ok word) :
    LooseNumber (bare text) word.toNat := by
  unfold readLooseWord32 at read
  split at read
  · next rest shown =>
    rw [bare, shown]
    exact .hexadecimal (.inl rfl) (.of_readWord32 (.inr rfl) read)
  · next rest shown =>
    rw [bare, shown]
    exact .hexadecimal (.inr rfl) (.of_readWord32 (.inr rfl) read)
  · exact .decimal (.of_readWord32 (.inl rfl) read)

/-- A number on a command line is read as a word, unless it does not fit one. -/
theorem read {text : String} (loose : LooseNumber (bare text) number) : readLooseWord32 text =
    if number < 2 ^ 32 then .ok (.ofNat number) else .error .overflow := by
  unfold readLooseWord32
  rw [← bare]
  generalize bare text = plain at loose
  cases loose with
  | decimal unsigned =>
    -- No decimal number is mistaken for a hexadecimal one, since no mark is a decimal digit.
    have unmarked {mark : Char} (marks : mark = 'x' ∨ mark = 'X') : mark ∉ plain := by
      intro among
      rcases unsigned.characters among with ⟨digit, isDigit⟩ | rfl
      · have value := (isDigit_iff (.inl rfl)).1 isDigit
        rcases marks with rfl | rfl <;> cases value
      · rcases marks with sign | sign <;> exact absurd sign (by decide)
    split
    · exact absurd (by simp) (unmarked (.inl rfl))
    · exact absurd (by simp) (unmarked (.inr rfl))
    · exact unsigned.readWord32 (.inl rfl)
  | hexadecimal marks unsigned =>
    rcases marks with rfl | rfl <;> exact unsigned.readWord32 (.inr rfl)

/-- What is printed in hexadecimal digits behind their mark stands for what was printed. -/
theorem of_markedHex (width number : Nat) : LooseNumber (markedHex width number).toList number := by
  have run := (DigitRun.toDigits (.inr rfl) number).zeros (.inr rfl)
    (width - (Nat.toDigits 16 number).length)
  have nonempty := List.append_ne_nil_of_right_ne_nil
    (List.replicate (width - (Nat.toDigits 16 number).length) '0')
    (Nat.toDigits_ne_nil (n := number) (b := 16))
  simp only [markedHex, hex, digits, String.toList_append, String.toList_ofList]
  exact .hexadecimal (.inl rfl) (.plain nonempty run)

end LooseNumber

/-- Underscores were put into a text without any exactly if taking them out again leaves it. -/
theorem underscored_iff {plain text : List Char} (unmarked : '_' ∉ plain) :
    Underscored plain text ↔ text.filter (· ≠ '_') = plain := by
  constructor
  · intro underscored
    induction underscored with
    | nil => rfl
    | keep c _ ih =>
      rw [List.mem_cons, not_or] at unmarked
      rw [List.filter_cons, if_pos (decide_eq_true (Ne.symm unmarked.1)), ih unmarked.2]
    | underscore _ ih => rw [List.filter_cons, if_neg (by decide), ih unmarked]
  · rintro rfl
    clear unmarked
    induction text with
    | nil => exact .nil
    | cons c rest ih =>
      rw [List.filter_cons]
      by_cases other : c = '_'
      · rw [other, if_neg (by decide)]
        exact .underscore ih
      · rw [if_pos (decide_eq_true other)]
        exact .keep c ih

/-- Nothing is read of a text without digits and sign. -/
theorem readLooseWord32_mark {text : String} (alone : bare text ∈ radixMarks) :
    readLooseWord32 text = .error .empty := by
  unfold readLooseWord32
  rw [← bare]
  generalize bare text = plain at alone
  simp only [radixMarks, List.mem_cons, List.not_mem_nil, or_false] at alone
  rcases alone with rfl | rfl | rfl <;> rfl

/-- A sign without digits is not read. -/
theorem readLooseWord32_sign {text : String} {mark : List Char} (marks : mark ∈ radixMarks)
    {sign : Char} (signs : sign ∈ ['+', '-']) (alone : bare text = mark ++ [sign]) :
    readLooseWord32 text = .error .invalidDigit := by
  unfold readLooseWord32
  rw [← bare, alone]
  simp only [radixMarks, List.mem_cons, List.not_mem_nil, or_false] at marks signs
  rcases marks with rfl | rfl | rfl <;> rcases signs with rfl | rfl <;> rfl

/-- A text with a minus sign, or with a character beyond ASCII, is not read. -/
theorem readLooseWord32_foreign {text : String} {c : Char} (among : c ∈ bare text)
    (foreign : c = '-' ∨ 128 ≤ c.toNat) : ∃ error, readLooseWord32 text = .error error := by
  cases read : readLooseWord32 text with
  | error error => exact ⟨error, rfl⟩
  | ok word =>
    have allowed := (LooseNumber.of_read read).isAlphanum among
    rw [isAlphanum_iff] at allowed
    rcases foreign with rfl | beyond
    · exact absurd allowed (by decide)
    · rcases allowed with ranges | rfl
      · omega
      · exact absurd beyond (by decide)

/-- Words on a command line are read by an exact grammar. A text is read as a word exactly if it
stands for that word once its underscores are gone, and it is an error exactly if it stands for no
number below `2 ^ 32`. So a number that is too large is an error, and so is a mark alone, a sign
alone, and every text with a minus sign or with a character beyond ASCII. A word that is printed in
eight hexadecimal digits behind their mark is read back with underscores put in anywhere. -/
theorem looseNumbers_exact (text : String) :
    (∀ word, readLooseWord32 text = .ok word ↔ LooseNumber (bare text) word.toNat) ∧
      ((∃ error, readLooseWord32 text = .error error) ↔
        ¬∃ number < 2 ^ 32, LooseNumber (bare text) number) ∧
      (∀ number, LooseNumber (bare text) number → 2 ^ 32 ≤ number →
        readLooseWord32 text = .error .overflow) ∧
      (bare text ∈ radixMarks → readLooseWord32 text = .error .empty) ∧
      (∀ mark ∈ radixMarks, ∀ sign ∈ ['+', '-'], bare text = mark ++ [sign] →
        readLooseWord32 text = .error .invalidDigit) ∧
      (∀ c ∈ bare text, c = '-' ∨ 128 ≤ c.toNat → ∃ error, readLooseWord32 text = .error error) ∧
      ∀ word, Underscored (markedHex 8 word.toNat).toList text.toList →
        readLooseWord32 text = .ok word := by
  have accepted (word : UInt32) :
      readLooseWord32 text = .ok word ↔ LooseNumber (bare text) word.toNat := by
    refine ⟨.of_read, fun loose => ?_⟩
    rw [loose.read, if_pos word.toNat_lt, UInt32.ofNat_toNat]
  refine ⟨accepted, ⟨?_, ?_⟩, ?_, readLooseWord32_mark, ?_, ?_, ?_⟩
  · rintro ⟨error, failed⟩ ⟨number, below, loose⟩
    rw [loose.read, if_pos below] at failed
    cases failed
  · intro illegible
    cases read : readLooseWord32 text with
    | error error => exact ⟨error, rfl⟩
    | ok word => exact absurd ⟨word.toNat, word.toNat_lt, .of_read read⟩ illegible
  · intro number loose large
    rw [loose.read, if_neg (Nat.not_lt.2 large)]
  · exact fun mark marks sign signs => readLooseWord32_sign marks signs
  · exact fun c => readLooseWord32_foreign
  · intro word underscored
    have printed := LooseNumber.of_markedHex 8 word.toNat
    have plain : '_' ∉ (markedHex 8 word.toNat).toList :=
      fun among => absurd (printed.isAlphanum among) (by decide)
    rw [accepted, bare, (underscored_iff plain).1 underscored]
    exact printed

/-- The address of the tile buffer is read with underscores in it. The number after the last word,
a mark, a sign behind one and a negative number are not read. -/
theorem tileAddress_read :
    (Underscored (markedHex 8 0x05000000).toList "0x_0500__0000".toList ∧
      readLooseWord32 "0x_0500__0000" = .ok 0x05000000) ∧
      (LooseNumber (bare "0x1_0000_0000") (2 ^ 32) ∧
        readLooseWord32 "0x1_0000_0000" = .error .overflow) ∧
      (bare "0x_" ∈ radixMarks ∧ readLooseWord32 "0x_" = .error .empty) ∧
      (bare "0X+" = ['0', 'X'] ++ ['+'] ∧ readLooseWord32 "0X+" = .error .invalidDigit) ∧
      '-' ∈ bare "-5" ∧ ∃ error, readLooseWord32 "-5" = .error error := by
  have inserted : Underscored (markedHex 8 0x05000000).toList "0x_0500__0000".toList :=
    (underscored_iff (by decide)).2 (by decide)
  have shown : bare "0x1_0000_0000" = (markedHex 8 (2 ^ 32)).toList := by decide
  have large : LooseNumber (bare "0x1_0000_0000") (2 ^ 32) := by
    rw [shown]
    exact .of_markedHex 8 (2 ^ 32)
  have marked : bare "0x_" ∈ radixMarks := by decide
  have signed : bare "0X+" = ['0', 'X'] ++ ['+'] := by decide
  have minus : '-' ∈ bare "-5" := by decide
  obtain ⟨-, -, -, -, -, -, printed⟩ := looseNumbers_exact "0x_0500__0000"
  obtain ⟨-, -, overflows, -⟩ := looseNumbers_exact "0x1_0000_0000"
  obtain ⟨-, -, -, empty, -⟩ := looseNumbers_exact "0x_"
  obtain ⟨-, -, -, -, sign, -⟩ := looseNumbers_exact "0X+"
  obtain ⟨-, -, -, -, -, foreign, -⟩ := looseNumbers_exact "-5"
  exact ⟨⟨inserted, printed 0x05000000 inserted⟩, ⟨large, overflows (2 ^ 32) large (Nat.le_refl _)⟩,
    ⟨marked, empty marked⟩, ⟨signed, sign ['0', 'X'] (by decide) '+' (by decide) signed⟩,
    minus, foreign '-' minus (.inl rfl)⟩

end Bringup.Text
