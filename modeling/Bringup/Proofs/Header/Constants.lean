import Bringup.Header.Defines
import Bringup.Proofs.Text.Numerals
/-!
# Which constants of a header are read rightly

The replacement of a constant is meant to be one integer, perhaps in parentheses, and a comment may
follow (`Literal`). A header is read faithfully if every value that it gives comes from such a line,
the last that binds its name, and no other line binds anything (`Faithful`).

Only the first word of a replacement is read, and the parentheses at its ends are not counted. So a
header is read faithfully exactly where the lines that bind a name are tidy (`faithful_iff_tidy`):
what stands behind the letters and digits of the number closes the parentheses that were opened and
says nothing else, and no zero stands before other digits.
-/

namespace Bringup.Defines

open Text

/-- Whether a character may stand before an integer. -/
def opens (c : Char) : Bool := c == '(' || isBlank c

/-- What stands behind the end of a comment, if it ends at all. -/
def behindComment : List Char → List Char
  | '*' :: '/' :: rest => rest
  | _ :: rest => behindComment rest
  | [] => []

/-- A text closes so many parentheses, and beside that it holds blanks and comments alone. -/
inductive Closes : Nat → List Char → Prop where
  | done : Closes 0 []
  | blank {count : Nat} {rest : List Char} {c : Char} : isBlank c = true → Closes count rest →
    Closes count (c :: rest)
  | parenthesis {count : Nat} {rest : List Char} : Closes count rest →
    Closes (count + 1) (')' :: rest)
  | line (rest : List Char) : Closes 0 ('/' :: '/' :: rest)
  | comment {count : Nat} {rest : List Char} : Closes count (behindComment rest) →
    Closes count ('/' :: '*' :: rest)

/-- A text is a decimal or hexadecimal integer with this value. Decimal integers have no zero before
other digits. -/
inductive Integer : List Char → UInt32 → Prop where
  | decimal {digits : List Char} {value : UInt32} : digits ≠ [] →
    (digits.head? = some '0' → digits = ['0']) → Spells 10 digits value.toNat → Integer digits value
  | hexadecimal {mark : Char} {digits : List Char} {value : UInt32} : mark = 'x' ∨ mark = 'X' →
    digits ≠ [] → Spells 16 digits value.toNat → Integer ('0' :: mark :: digits) value

/-- A text is one integer with this value, perhaps with a suffix and in parentheses, apart from
blanks and from comments behind the integer. -/
def Literal (text : List Char) (value : UInt32) : Prop :=
  ∃ opening integer suffix closing, text = opening ++ (integer ++ (suffix ++ closing)) ∧
    (∀ c ∈ opening, opens c = true) ∧ Integer integer value ∧ (∀ c ∈ suffix, isSuffix c = true) ∧
    Closes (opening.count '(') closing

/-- The text of words, with a blank between any two of them. -/
def spaced (words : List (List Char)) : List Char := [' '].intercalate words

/-- A line defines a name, which has no parameters, as a literal with this value. -/
def Constant (line : List Char) (name : String) (value : UInt32) : Prop :=
  ∃ replacement, words line = "#define".toList :: name.toList :: replacement ∧
    '(' ∉ name.toList ∧ Literal (spaced replacement) value

/-- The table of a header says of each name what the last line that binds it defines it as, and no
line binds a name unless it defines it as a literal. -/
structure Faithful (text : String) : Prop where
  values : ∀ name value, (parse text).get? name = some value → ∃ front line back,
    lines text.toList = front ++ line :: back ∧ binding? line = some (name, value) ∧
    Constant line name value ∧ ∀ other ∈ back, ∀ later, binding? other ≠ some (name, later)
  lines : ∀ line ∈ lines text.toList, ∀ name value, binding? line = some (name, value) →
    Constant line name value

/-- The text begins with a zero before another digit. -/
def ZeroLed (text : List Char) : Prop := ∃ digit rest, text = '0' :: digit :: rest ∧ digit.isDigit

/-- What stands in a line behind the letters and digits of the number closes the parentheses that
stand before it and says nothing else, and no zero stands before other digits. -/
def Tidy (line : List Char) : Prop :=
  ∀ keyword name replacement, words line = keyword :: name :: replacement →
    let number := (spaced replacement).dropWhile opens
    Closes (((spaced replacement).takeWhile opens).count '(') (number.dropWhile Char.isAlphanum) ∧
      ¬ZeroLed number

/-- What a list begins with as long as a test holds, and what stands behind that. -/
theorem span_exact {test : Char → Bool} {inside behind : List Char}
    (within : ∀ c ∈ inside, test c = true) (ends : ∀ c, behind.head? = some c → test c = false) :
    (inside ++ behind).takeWhile test = inside ∧ (inside ++ behind).dropWhile test = behind := by
  rw [List.takeWhile_append_of_pos within, List.dropWhile_append_of_pos within]
  cases behind with
  | nil => exact ⟨List.append_nil inside, rfl⟩
  | cons c rest => simp [ends c rfl]

/-- A letter or digit is neither a blank nor a parenthesis. -/
theorem opens_of_isAlphanum {c : Char} (alphanum : c.isAlphanum = true) : opens c = false := by
  have blank : isBlank c = false := by
    by_contra blank
    rw [Bool.not_eq_false] at blank
    rw [isAlphanum_of_isBlank blank] at alphanum
    cases alphanum
  have other : c ≠ '(' := by
    rintro rfl
    exact absurd alphanum (by decide)
  rw [opens, blank, Bool.or_false]
  exact beq_false_of_ne other

/-- Letters of a suffix are letters. -/
theorem isAlphanum_of_isSuffix {c : Char} (suffix : isSuffix c = true) : c.isAlphanum = true := by
  simp only [isSuffix, Bool.or_eq_true, beq_iff_eq] at suffix
  rcases suffix with ((rfl | rfl) | rfl) | rfl <;> decide

/-- What closes parentheses begins with no letter or digit. -/
theorem Closes.head {count : Nat} {text : List Char} (closes : Closes count text) {c : Char}
    (first : text.head? = some c) : c.isAlphanum = false := by
  cases closes with
  | done => cases first
  | blank blank =>
    cases first
    exact isAlphanum_of_isBlank blank
  | parenthesis | line | comment =>
    cases first
    decide

/-- A sign closes nothing. -/
theorem not_closes_plus (count : Nat) (rest : List Char) : ¬Closes count ('+' :: rest) := by
  intro closes
  cases closes with
  | blank blank => exact absurd blank (by decide)

/-- An integer is made of letters and digits and begins with a digit. -/
theorem Integer.alphanum {text : List Char} {value : UInt32} (integer : Integer text value) :
    ∀ c ∈ text, c.isAlphanum = true := by
  cases integer with
  | decimal _ _ spells =>
    intro c among
    obtain ⟨digit, value⟩ := spells.digit among
    exact isAlphanum_of_digitValue? value
  | hexadecimal marks _ spells =>
    intro c among
    rcases List.mem_cons.1 among with rfl | among
    · decide
    · rcases List.mem_cons.1 among with rfl | among
      · rcases marks with rfl | rfl <;> decide
      · obtain ⟨digit, value⟩ := spells.digit among
        exact isAlphanum_of_digitValue? value

/-- An integer is some text. -/
theorem Integer.ne_nil {text : List Char} {value : UInt32} (integer : Integer text value) :
    text ≠ [] := by
  cases integer with
  | decimal nonempty => exact nonempty
  | hexadecimal => exact List.cons_ne_nil _ _

/-- Behind an integer, a suffix and what closes parentheses have no digit at their head. -/
theorem Closes.no_digit {count : Nat} {suffix closing : List Char} (closes : Closes count closing)
    (letters : ∀ c ∈ suffix, isSuffix c = true) {c : Char}
    (first : (suffix ++ closing).head? = some c) : c.isDigit = false := by
  cases suffix with
  | nil =>
    have other := closes.head first
    rw [Char.isAlphanum, Bool.or_eq_false_iff] at other
    exact other.2
  | cons letter rest =>
    cases first
    have letter := letters c List.mem_cons_self
    simp only [isSuffix, Bool.or_eq_true, beq_iff_eq] at letter
    rcases letter with ((rfl | rfl) | rfl) | rfl <;> decide

/-- An integer and what follows it have no zero before other digits. -/
theorem Integer.not_zeroLed {integer behind : List Char} {value : UInt32}
    (number : Integer integer value)
    (ends : ∀ c, behind.head? = some c → c.isDigit = false) : ¬ZeroLed (integer ++ behind) := by
  rintro ⟨digit, rest, same, isDigit⟩
  cases number with
  | decimal nonempty alone spells =>
    cases integer with
    | nil => exact nonempty rfl
    | cons first others =>
      obtain rfl : first = '0' := (List.cons.inj same).1
      obtain rfl : others = [] := (List.cons.inj (alone rfl)).2
      have second : behind.head? = some digit := by
        rw [show behind = digit :: rest from (List.cons.inj same).2, List.head?_cons]
      rw [ends digit second] at isDigit
      cases isDigit
  | @hexadecimal mark digits _ marks =>
    obtain rfl : mark = digit := (List.cons.inj (List.cons.inj same).2).1
    rcases marks with rfl | rfl <;> exact absurd isDigit (by decide)

/-- Where an integer stands behind what may open it, and something else than letters and digits
behind its suffix, these parts can be told apart. -/
theorem parts_exact {opening integer suffix behind : List Char}
    (opened : ∀ c ∈ opening, opens c = true) (nonempty : integer ≠ [])
    (alphanum : ∀ c ∈ integer, c.isAlphanum = true) (letters : ∀ c ∈ suffix, isSuffix c = true)
    (ends : ∀ c, behind.head? = some c → c.isAlphanum = false) :
    let text := opening ++ (integer ++ (suffix ++ behind))
    text.takeWhile opens = opening ∧ text.dropWhile opens = integer ++ (suffix ++ behind) ∧
      (integer ++ (suffix ++ behind)).dropWhile Char.isAlphanum = behind := by
  have first : ∀ c, (integer ++ (suffix ++ behind)).head? = some c → opens c = false := by
    intro c head
    cases integer with
    | nil => exact absurd rfl nonempty
    | cons first rest =>
      cases head
      exact opens_of_isAlphanum (alphanum c List.mem_cons_self)
  have within : ∀ c ∈ integer ++ suffix, c.isAlphanum = true := by
    intro c among
    rcases List.mem_append.1 among with among | among
    · exact alphanum c among
    · exact isAlphanum_of_isSuffix (letters c among)
  obtain ⟨before, after⟩ := span_exact opened first
  refine ⟨before, after, ?_⟩
  rw [← List.append_assoc]
  exact (span_exact within ends).2

/-- A line that defines a name as a literal is tidy. -/
theorem Constant.tidy {line : List Char} {name : String} {value : UInt32}
    (constant : Constant line name value) : Tidy line := by
  obtain ⟨replacement, split, _, opening, integer, suffix, closing, shape, opened, number, letters,
    closes⟩ := constant
  intro keyword other replaced again
  obtain ⟨-, -, rfl⟩ : _ ∧ _ ∧ replacement = replaced := by
    simpa using split.symm.trans again
  obtain ⟨before, after, ends⟩ := parts_exact opened number.ne_nil number.alphanum letters
    fun c head => closes.head head
  dsimp only
  rw [shape, before, after, ends]
  exact ⟨closes, number.not_zeroLed fun c head => closes.no_digit letters head⟩

/-- What is dropped from the end of a word satisfies the test. -/
theorem dropEndWhile_append (test : Char → Bool) (word : List Char) :
    ∃ dropped, word = dropEndWhile test word ++ dropped ∧ ∀ c ∈ dropped, test c = true := by
  refine ⟨(word.reverse.takeWhile test).reverse, ?_, fun c among => ?_⟩
  · rw [dropEndWhile, ← List.reverse_append, List.takeWhile_append_dropWhile, List.reverse_reverse]
  · exact List.all_eq_true.1 List.all_takeWhile c (List.mem_reverse.1 among)

/-- A word is its bare integer with a suffix and parentheses around it, however many. -/
theorem bareInteger_shape (word : List Char) : ∃ opening suffix closing,
    word = opening ++ (bareInteger word ++ (suffix ++ closing)) ∧ (∀ c ∈ opening, c = '(') ∧
      (∀ c ∈ suffix, isSuffix c = true) ∧ ∀ c ∈ closing, c = ')' := by
  obtain ⟨closing, inner, closes⟩ := dropEndWhile_append (· == ')') (word.dropWhile (· == '('))
  obtain ⟨suffix, bare, letters⟩ :=
    dropEndWhile_append isSuffix (dropEndWhile (· == ')') (word.dropWhile (· == '(')))
  have behind : word.dropWhile (· == '(') = bareInteger word ++ (suffix ++ closing) := by
    calc word.dropWhile (· == '(') = bareInteger word ++ suffix ++ closing :=
          inner.trans (congrArg (· ++ closing) bare)
      _ = bareInteger word ++ (suffix ++ closing) := List.append_assoc _ _ _
  refine ⟨word.takeWhile (· == '('), suffix, closing, ?_, fun c among => ?_, letters,
    fun c among => ?_⟩
  · rw [← behind, List.takeWhile_append_dropWhile]
  · exact beq_iff_eq.1 (List.all_eq_true.1 List.all_takeWhile c among)
  · exact beq_iff_eq.1 (closes c among)

/-- A result that is there was computed. -/
theorem eq_ok_of_toOption {δ α : Type} {result : Except δ α} {value : α}
    (there : result.toOption = some value) : result = .ok value := by
  cases result with
  | ok other => exact congrArg Except.ok (Option.some.inj there)
  | error error => cases there

/-- An integer that is read is spelled by its bare integer, perhaps with a plus sign before its
digits. -/
theorem integer?_eq_some {word : List Char} {value : UInt32} (read : integer? word = some value) :
    (∃ digits, (bareInteger word = digits ∨ bareInteger word = '+' :: digits) ∧ digits ≠ [] ∧
      Spells 10 digits value.toNat) ∨
    ∃ mark digits, (mark = 'x' ∨ mark = 'X') ∧ (bareInteger word = '0' :: mark :: digits ∨
      bareInteger word = '0' :: mark :: '+' :: digits) ∧ digits ≠ [] ∧
      Spells 16 digits value.toNat := by
  have marked {mark : Char} {rest : List Char} (bare : bareInteger word = '0' :: mark :: rest)
      (read : (readWord32 16 rest).toOption = some value) : ∃ digits,
      (bareInteger word = '0' :: mark :: digits ∨
        bareInteger word = '0' :: mark :: '+' :: digits) ∧ digits ≠ [] ∧
      Spells 16 digits value.toNat := by
    obtain ⟨digits, signed, nonempty, spells⟩ := spells_of_readWord32 (eq_ok_of_toOption read)
    rw [bare]
    have signed := signed.imp (congrArg ('0' :: mark :: ·)) (congrArg ('0' :: mark :: ·))
    exact ⟨digits, signed, nonempty, spells⟩
  unfold integer? at read
  split at read
  · next rest bare =>
    obtain ⟨digits, signed, nonempty, spells⟩ := marked bare read
    exact .inr ⟨'x', digits, .inl rfl, signed, nonempty, spells⟩
  · next rest bare =>
    obtain ⟨digits, signed, nonempty, spells⟩ := marked bare read
    exact .inr ⟨'X', digits, .inr rfl, signed, nonempty, spells⟩
  · obtain ⟨digits, signed, nonempty, spells⟩ := spells_of_readWord32 (eq_ok_of_toOption read)
    exact .inl ⟨digits, signed, nonempty, spells⟩

/-- What words are spaced to begins with the first of them. -/
theorem spaced_cons (first : List Char) (rest : List (List Char)) :
    ∃ tail, spaced (first :: rest) = first ++ tail ∧ ∀ c, tail.head? = some c → c = ' ' := by
  cases rest with
  | nil =>
    refine ⟨[], by simp [spaced], fun c head => ?_⟩
    cases head
  | cons second others =>
    refine ⟨' ' :: spaced (second :: others), ?_, fun c head => ?_⟩
    · rw [spaced, List.intercalate_cons_cons, List.append_assoc]
      rfl
    · cases head
      rfl

/-- A line that binds a name has a word that is read as its value. -/
theorem binding?_eq_some {line : List Char} {name : String} {value : UInt32}
    (binds : binding? line = some (name, value)) : ∃ word rest,
    words line = "#define".toList :: name.toList :: word :: rest ∧ '(' ∉ name.toList ∧
      integer? word = some value := by
  rw [binding?] at binds
  split at binds
  · next keyword chars word rest split =>
    split at binds
    · next plain =>
      obtain ⟨other, read, same⟩ := Option.map_eq_some_iff.1 binds
      cases same
      have chosen : (String.ofList chars).toList = chars := String.toList_ofList
      rw [chosen, split, plain.1]
      exact ⟨word, rest, rfl, plain.2, read⟩
    · cases binds
  · cases binds

/-- What stands behind the letters and digits of a number is not a sign, if it closes
parentheses. -/
theorem not_closes_signed {opening rest : List Char} {count : Nat}
    (opened : ∀ c ∈ opening, opens c = true) (front : List Char)
    (alphanum : ∀ c ∈ front, c.isAlphanum = true) :
    ¬Closes count
      (((opening ++ (front ++ '+' :: rest)).dropWhile opens).dropWhile Char.isAlphanum) := by
  have first : ∀ c, (front ++ '+' :: rest).head? = some c → opens c = false := by
    intro c head
    cases front with
    | nil =>
      cases head
      decide
    | cons first others =>
      cases head
      exact opens_of_isAlphanum (alphanum c List.mem_cons_self)
  have second : ∀ c, ('+' :: rest).head? = some c → c.isAlphanum = false := by
    intro c head
    cases head
    decide
  rw [(span_exact opened first).2, (span_exact alphanum second).2]
  exact not_closes_plus count rest

/-- A decimal number without a zero before other digits is a zero alone if it begins with one. -/
theorem zero_alone {digits behind : List Char} {number : Nat} (spells : Spells 10 digits number)
    (unled : ¬ZeroLed (digits ++ behind)) (zero : digits.head? = some '0') : digits = ['0'] := by
  cases digits with
  | nil => cases zero
  | cons first others =>
    obtain rfl : first = '0' := Option.some.inj zero
    cases others with
    | nil => rfl
    | cons second rest =>
      have among : second ∈ '0' :: second :: rest := List.mem_cons_of_mem _ List.mem_cons_self
      obtain ⟨digit, value⟩ := spells.digit among
      exact absurd ⟨second, rest ++ behind, rfl, isDigit_of_digitValue? value⟩ unled

/-- In a tidy line that binds a name, the name is defined as a literal with its value. -/
theorem constant_of_tidy {line : List Char} {name : String} {value : UInt32}
    (binds : binding? line = some (name, value)) (tidy : Tidy line) : Constant line name value := by
  obtain ⟨word, rest, split, plain, read⟩ := binding?_eq_some binds
  obtain ⟨closes, unled⟩ := tidy _ _ _ split
  obtain ⟨tail, spacing, blank⟩ := spaced_cons word rest
  obtain ⟨opening, suffix, closing, shape, parentheses, letters, closed⟩ := bareInteger_shape word
  have opened : ∀ c ∈ opening, opens c = true := fun c among => parentheses c among ▸ rfl
  have ends : ∀ c, (closing ++ tail).head? = some c → c.isAlphanum = false := by
    intro c head
    cases closing with
    | nil => exact blank c head ▸ rfl
    | cons first others =>
      cases head
      exact closed c List.mem_cons_self ▸ rfl
  have text : spaced (word :: rest) =
      opening ++ (bareInteger word ++ (suffix ++ (closing ++ tail))) := by
    rw [spacing]
    conv_lhs => rw [shape]
    simp only [List.append_assoc]
  have literal (number : Integer (bareInteger word) value) :
      Literal (spaced (word :: rest)) value := by
    obtain ⟨before, after, whole⟩ :=
      parts_exact opened number.ne_nil number.alphanum letters ends
    rw [text, before, after, whole] at closes
    exact ⟨opening, bareInteger word, suffix, closing ++ tail, text, opened, number, letters,
      closes⟩
  refine ⟨word :: rest, split, plain, ?_⟩
  -- A sign stands behind no letter or digit, so in a tidy line there is none.
  rw [text] at closes unled
  rcases integer?_eq_some read with
    ⟨digits, bare | bare, nonempty, spells⟩ | ⟨mark, digits, marks, bare | bare, nonempty, spells⟩
  · have alphanum : ∀ c ∈ digits, c.isAlphanum = true := fun c among =>
      isAlphanum_of_digitValue? (spells.digit among).choose_spec
    rw [bare, (parts_exact opened nonempty alphanum letters ends).2.1] at unled
    rw [bare] at literal
    exact literal (.decimal nonempty (zero_alone spells unled) spells)
  · rw [bare] at closes
    exact absurd closes (not_closes_signed opened [] nofun)
  · rw [bare] at literal
    exact literal (.hexadecimal marks nonempty spells)
  · have alphanum : ∀ c ∈ ['0', mark], c.isAlphanum = true := by
      rw [List.forall_mem_cons, List.forall_mem_singleton]
      refine ⟨by decide, ?_⟩
      rcases marks with rfl | rfl <;> decide
    rw [bare] at closes
    exact absurd closes (not_closes_signed opened ['0', mark] alphanum)

/-- The value of a name comes from the last line that binds it. -/
theorem last_of_lookup {name : String} {value : UInt32} {all : List (List Char)}
    (found : (all.filterMap binding?).reverse.lookup name = some value) : ∃ front line back,
    all = front ++ line :: back ∧ binding? line = some (name, value) ∧
      ∀ other ∈ back, ∀ later, binding? other ≠ some (name, later) := by
  induction all with
  | nil => cases found
  | cons first rest ih =>
    -- A binding in the rest comes before one in the first line, which counts only without any.
    have among : (rest.filterMap binding?).reverse.lookup name = some value ∨
        ((rest.filterMap binding?).reverse.lookup name = none ∧
          binding? first = some (name, value)) := by
      cases bound : binding? first with
      | none =>
        rw [List.filterMap_cons_none bound] at found
        exact .inl found
      | some pair =>
        rw [List.filterMap_cons_some bound, List.reverse_cons, List.lookup_append] at found
        cases later : (rest.filterMap binding?).reverse.lookup name with
        | some other =>
          rw [later] at found
          exact .inl found
        | none =>
          rw [later, Option.none_or, List.lookup_cons] at found
          split at found
          · next same =>
            obtain rfl : name = pair.1 := beq_iff_eq.1 same
            cases found
            exact .inr ⟨rfl, rfl⟩
          · cases found
    rcases among with later | ⟨absent, bound⟩
    · obtain ⟨front, line, back, rfl, binds, last⟩ := ih later
      exact ⟨first :: front, line, back, rfl, binds, last⟩
    · refine ⟨[], first, rest, rfl, bound, fun other among later binds => ?_⟩
      have member : (name, later) ∈ (rest.filterMap binding?).reverse :=
        List.mem_reverse.2 (List.mem_filterMap.2 ⟨other, among, binds⟩)
      have differs := List.lookup_eq_none_iff.1 absent _ member
      exact absurd differs (by simp)

/-- A header is read faithfully exactly where every line that binds a name is tidy. -/
theorem faithful_iff_tidy (text : String) : Faithful text ↔
    ∀ line ∈ Text.lines text.toList, (binding? line).isSome → Tidy line := by
  constructor
  · intro faithful line among binds
    obtain ⟨⟨name, value⟩, bound⟩ := Option.isSome_iff_exists.1 binds
    exact (faithful.lines line among name value bound).tidy
  · intro tidy
    have constant (line : List Char) (among : line ∈ Text.lines text.toList) (name : String)
        (value : UInt32) (bound : binding? line = some (name, value)) : Constant line name value :=
      constant_of_tidy bound (tidy line among (bound ▸ rfl))
    refine ⟨fun name value found => ?_, constant⟩
    obtain ⟨front, line, back, split, bound, last⟩ := last_of_lookup found
    have among : line ∈ Text.lines text.toList := by
      rw [split]
      exact List.mem_append_right front List.mem_cons_self
    exact ⟨front, line, back, split, bound, constant line among name value bound, last⟩

/-- The first term of a sum is read for the sum. -/
theorem sum_misread : (parse "#define RATIO 1 + 2\n").get? "RATIO" = some 1 ∧
    ¬Faithful "#define RATIO 1 + 2\n" := by
  refine ⟨by decide, fun faithful => ?_⟩
  have bound : binding? "#define RATIO 1 + 2".toList = some ("RATIO", 1) := by decide
  have split : words "#define RATIO 1 + 2".toList =
      "#define".toList :: "RATIO".toList :: [['1'], ['+'], ['2']] := by decide
  have tidy := (faithful.lines "#define RATIO 1 + 2".toList (by decide) "RATIO" 1 bound).tidy
  have closes : Closes 0 " + 2".toList := (tidy _ _ _ split).1
  cases closes with
  | blank _ closes => exact not_closes_plus 0 _ closes

end Bringup.Defines
