import Bringup.Header.Settings
import Bringup.Proofs.Header.Constants
import Bringup.Proofs.Text.Printed
import Bringup.Proofs.Text.Utf8
/-!
# The text of settings is read back

The text of settings is read line by line. A line opens a structure, closes one, or holds the value
of a field, which is found by the names of the structures around it and its own (`fields`). What is
read of the text of any settings are the fields that were put in, each once and in order
(`fields_render`), and their values stand for the words that were put in (`wordOf?_wordText`,
`wordOf?_decimal`, `wordsOf?_wordTexts`).
-/

namespace Bringup.Settings

open Calibration Text

/-- What a line of the text says. -/
inductive Item where
  | opens (name : String)
  | closes
  | holds (name value : String)

/-- What a line says. Blanks before it mean nothing; a name ends at a colon, and a comma stands
behind a value. -/
def Item.ofLine (line : List Char) : Item :=
  let text := line.dropWhile (· == ' ')
  let name := String.ofList (text.takeWhile (· != ':'))
  let value := (text.dropWhile (· != ':')).drop 2
  if text.head? = some '\x7d' then .closes
  else if value.getLast? = some '\x7b' then .opens name
  else .holds name (String.ofList value.dropLast)

/-- The fields that lines hold inside of some structures: their names behind those of the structures
around them, and their values. -/
def fieldsFrom (path : List String) : List (List Char) → List (List String × String)
  | [] => []
  | line :: rest =>
    match Item.ofLine line with
    | .opens name => fieldsFrom (path ++ [name]) rest
    | .closes => fieldsFrom path.dropLast rest
    | .holds name value => (path ++ [name], value) :: fieldsFrom path rest

/-- The fields of a text, in order. -/
def fields (text : String) : List (List String × String) := fieldsFrom [] (lines text.toList)

/-- What the text holds at the top: the configuration. -/
def constantName : String := "pub const CONFIG"

/-- The value of a field of the configuration. -/
def fieldAt (text : String) (path : List String) : Option String :=
  (fields text).lookup (constantName :: path)

/-- The word that a value stands for, in decimal or marked hexadecimal digits or by its name. -/
def wordOf? (value : String) : Option UInt32 :=
  if value = "DEFAULT_PLL_MGR" then some defaultPllManager else (readLooseWord32 value).toOption

/-- Whether a character stands around the words of a list. -/
def besideWords (c : Char) : Bool := c == '[' || c == ']' || c == ' '

/-- The words of a list, with brackets around them and a comma between any two. -/
def wordsOf? (value : String) : Option (List UInt32) :=
  ((value.toList.filter (!besideWords ·)).splitOn ',').mapM fun word =>
    wordOf? (String.ofList word)

/-- The word of a field of the configuration. -/
def wordAt (text : String) (path : List String) : Option UInt32 := (fieldAt text path).bind wordOf?

/-- The words of a field of the configuration. -/
def wordsAt (text : String) (path : List String) : Option (List UInt32) :=
  (fieldAt text path).bind wordsOf?

/-- A text that holds no line end. -/
def Inline (text : String) : Prop := '\n' ∉ text.toList ∧ '\r' ∉ text.toList

instance : DecidablePred Inline := fun _ => inferInstanceAs (Decidable (_ ∧ _))

/-- What a field or structure can be named: the name holds no colon and no line end, and it begins
like none of the other lines. -/
def IsName (name : String) : Prop :=
  (':' ∉ name.toList ∧ name.toList.head? ∉ [none, some ' ', some '\x7d']) ∧ Inline name

instance : DecidablePred IsName := fun _ => inferInstanceAs (Decidable (_ ∧ _))

/-- Blanks alone stand before a field of the configuration. -/
theorem blank_outer : ∀ c ∈ "    ".toList, c = ' ' := by
  have blanks : "    ".toList = List.replicate 4 ' ' := rfl
  rw [blanks]
  exact fun c among => List.eq_of_mem_replicate among

/-- Blanks alone stand before a field of a structure. -/
theorem blank_inner : ∀ c ∈ "        ".toList, c = ' ' := by
  have blanks : "        ".toList = List.replicate 8 ' ' := rfl
  rw [blanks]
  exact fun c among => List.eq_of_mem_replicate among

/-- A line that begins with a name, after some blanks, is taken apart at the colon. -/
theorem parts_of_line {name : String} (named : IsName name) {blanks : List Char}
    (blank : ∀ c ∈ blanks, c = ' ') (value : List Char) :
    let text := (blanks ++ (name.toList ++ ':' :: ' ' :: value)).dropWhile (· == ' ')
    text.head? ≠ some '\x7d' ∧ String.ofList (text.takeWhile (· != ':')) = name ∧
      (text.dropWhile (· != ':')).drop 2 = value := by
  obtain ⟨⟨uncut, first⟩, -⟩ := named
  obtain ⟨letter, others, split⟩ : ∃ letter others, name.toList = letter :: others := by
    cases characters : name.toList with
    | nil => simp [characters] at first
    | cons letter others => exact ⟨letter, others, rfl⟩
  have text : (blanks ++ (name.toList ++ ':' :: ' ' :: value)).dropWhile (· == ' ') =
      name.toList ++ ':' :: ' ' :: value := by
    refine (Defines.span_exact (fun c among => by simp [blank c among]) ?_).2
    intro c head
    rw [split] at first head
    cases head
    exact beq_false_of_ne fun same => first (by simp [same])
  have letters : ∀ c ∈ name.toList, (c != ':') = true := by
    intro c among
    rw [bne_iff_ne]
    rintro rfl
    exact uncut among
  have colon : ∀ c, (':' :: ' ' :: value).head? = some c → (c != ':') = false := by
    intro c head
    cases head
    rfl
  have cut := Defines.span_exact letters colon
  rw [text]
  refine ⟨?_, ?_, ?_⟩
  · rw [split] at first ⊢
    intro head
    exact first (by simp [Option.some.inj head])
  · rw [cut.1, String.ofList_toList]
  · rw [cut.2]
    rfl

/-- A line with a name and a value behind it holds the value. -/
theorem ofLine_entry {name : String} (named : IsName name) {blanks : List Char}
    (blank : ∀ c ∈ blanks, c = ' ') (value : String) :
    Item.ofLine (blanks ++ (entry name value).toList) = .holds name value := by
  have shape : (entry name value).toList =
      name.toList ++ ':' :: ' ' :: (value.toList ++ [',']) := by
    simp [entry]
  obtain ⟨unclosed, front, back⟩ := parts_of_line named blank (value.toList ++ [','])
  rw [Item.ofLine, shape]
  rw [if_neg unclosed, front, back, List.getLast?_concat, if_neg (by decide), List.dropLast_concat,
    String.ofList_toList]

/-- A line with a name and a brace at its end opens a structure. -/
theorem ofLine_opening {name : String} (named : IsName name) {blanks : List Char}
    (blank : ∀ c ∈ blanks, c = ' ') (type : String) :
    Item.ofLine (blanks ++ (name ++ ": " ++ type ++ " \x7b").toList) = .opens name := by
  have shape : (name ++ ": " ++ type ++ " \x7b").toList =
      name.toList ++ ':' :: ' ' :: ((type.toList ++ [' ']) ++ ['\x7b']) := by
    simp
  obtain ⟨unclosed, front, back⟩ := parts_of_line named blank ((type.toList ++ [' ']) ++ ['\x7b'])
  rw [Item.ofLine, shape]
  rw [if_neg unclosed, front, back, List.getLast?_concat, if_pos rfl]

/-- Fields that are read back: their names can be read, and their values hold no line end. -/
def Legible (held : List (String × String)) : Prop :=
  ∀ field ∈ held, IsName field.1 ∧ Inline field.2

/-- A field is read back in front of others. -/
theorem Legible.cons {name value : String} {held : List (String × String)} (named : IsName name)
    (valued : Inline value) (others : Legible held) : Legible ((name, value) :: held) :=
  List.forall_mem_cons.2 ⟨⟨named, valued⟩, others⟩

/-- No field has to be read back. -/
theorem Legible.nil : Legible [] := fun _ member => absurd member List.not_mem_nil

/-- The lines of fields hold these fields. -/
theorem fieldsFrom_entries {blanks : List Char} (blank : ∀ c ∈ blanks, c = ' ') (path : List String)
    {held : List (String × String)} (legible : Legible held) (rest : List (List Char)) :
    fieldsFrom path ((held.map fun field => blanks ++ (entry field.1 field.2).toList) ++ rest) =
      (held.map fun field => (path ++ [field.1], field.2)) ++ fieldsFrom path rest := by
  induction held with
  | nil => rfl
  | cons field held ih =>
    obtain ⟨⟨named, -⟩, others⟩ := List.forall_mem_cons.1 legible
    rw [List.map_cons, List.cons_append, fieldsFrom, ofLine_entry named blank, List.map_cons,
      List.cons_append]
    exact congrArg _ (ih others)

/-- The lines of a structure hold its fields. -/
theorem fieldsFrom_block (path : List String) {name : String} (type : String)
    {held : List (String × String)} (outer : IsName name) (legible : Legible held)
    (rest : List (List Char)) :
    fieldsFrom path ((block name type (held.map fun field => entry field.1 field.2)).map
        String.toList ++ rest) =
      (held.map fun field => (path ++ [name, field.1], field.2)) ++ fieldsFrom path rest := by
  have opening := ofLine_opening outer blank_outer type
  have closing : Item.ofLine "    \x7d,".toList = .closes := rfl
  have shape : (block name type (held.map fun field => entry field.1 field.2)).map String.toList ++
      rest = ("    ".toList ++ (name ++ ": " ++ type ++ " \x7b").toList) ::
        ((held.map fun field => "        ".toList ++ (entry field.1 field.2).toList) ++
          "    \x7d,".toList :: rest) := by
    simp [block, List.append_assoc]
  rw [shape, fieldsFrom, opening]
  dsimp only
  rw [fieldsFrom_entries blank_inner _ legible, fieldsFrom, closing]
  simp

/-- A word that is printed behind its radix mark is read back. -/
theorem wordOf?_wordText (word : UInt32) : wordOf? (wordText word) = some word := by
  have other : wordText word ≠ "DEFAULT_PLL_MGR" := by
    intro same
    have characters := congrArg String.toList same
    rw [wordText, toList_markedHex] at characters
    cases characters
  rw [wordOf?, if_neg other, wordText, readLooseWord32_markedHex]
  rfl

/-- A word that is printed in decimal digits is read back. -/
theorem wordOf?_decimal (word : UInt32) : wordOf? (decimal word.toNat) = some word := by
  have other : decimal word.toNat ≠ "DEFAULT_PLL_MGR" := by
    intro same
    have letter : 'D' ∈ Nat.toDigits 10 word.toNat := by
      rw [← toList_digits (Nat.zero_le 1), ← decimal, same]
      decide
    exact absurd (Nat.isDigit_of_mem_toDigits (by decide) (by decide) letter) (by decide)
  rw [wordOf?, if_neg other, readLooseWord32_decimal]
  rfl

/-- What is filtered out of parts and of what stands between them is filtered out of the whole. -/
theorem filter_intercalate {α : Type} (keep : α → Bool) (between : List α) (parts : List (List α)) :
    (between.intercalate parts).filter keep =
      (between.filter keep).intercalate (parts.map (List.filter keep)) := by
  induction parts with
  | nil => rfl
  | cons part parts ih =>
    cases parts with
    | nil => simp
    | cons next parts =>
      rw [List.intercalate_cons_cons, List.filter_append, List.filter_append, ih, List.map_cons,
        List.map_cons, List.map_cons, List.intercalate_cons_cons]

/-- The characters of a word behind its radix mark are letters and digits. -/
theorem isAlphanum_of_mem_wordText {word : UInt32} {c : Char} (among : c ∈ (wordText word).toList) :
    c.isAlphanum = true := by
  rw [wordText, toList_markedHex, List.mem_cons, List.mem_cons] at among
  rcases among with rfl | rfl | digit
  · decide
  · decide
  · exact isAlphanum_of_mem_toDigits (.inr rfl) digit

/-- What stands around the words of a list is neither letter nor digit. -/
theorem isAlphanum_of_besideWords {c : Char} (beside : besideWords c = true) :
    c.isAlphanum = false := by
  simp only [besideWords, Bool.or_eq_true, beq_iff_eq] at beside
  rcases beside with (rfl | rfl) | rfl <;> decide

/-- Words that are printed as a list are read back. -/
theorem wordsOf?_wordTexts {words : List UInt32} (nonempty : words ≠ []) :
    wordsOf? ("[" ++ ", ".intercalate (words.map wordText) ++ "]") = some words := by
  have kept (word : UInt32) :
      (wordText word).toList.filter (!besideWords ·) = (wordText word).toList := by
    rw [List.filter_eq_self]
    intro c among
    cases beside : besideWords c with
    | false => rfl
    | true =>
      have alphanum := isAlphanum_of_mem_wordText among
      rw [isAlphanum_of_besideWords beside] at alphanum
      cases alphanum
  have uncut : ∀ word ∈ words.map fun word => (wordText word).toList, ',' ∉ word := by
    intro text among comma
    obtain ⟨word, -, rfl⟩ := List.mem_map.1 among
    exact absurd (isAlphanum_of_mem_wordText comma) (by decide)
  have inner : ("[" ++ ", ".intercalate (words.map wordText) ++ "]").toList.filter
      (!besideWords ·) = [','].intercalate (words.map fun word => (wordText word).toList) := by
    have texts : (words.map wordText).map String.toList =
        words.map fun word => (wordText word).toList := List.map_map
    have each : (words.map fun word => (wordText word).toList).map
        (List.filter (!besideWords ·)) = words.map fun word => (wordText word).toList := by
      rw [List.map_map]
      exact List.map_congr_left fun word _ => kept word
    rw [String.toList_append, String.toList_append, String.toList_intercalate, texts,
      List.filter_append, List.filter_append, filter_intercalate, each]
    exact List.append_nil _
  have split := List.splitOn_intercalate ',' uncut (by simpa using nonempty)
  rw [wordsOf?, inner, split, List.mapM_map]
  have read : (fun word : List Char => wordOf? (String.ofList word)) ∘
      (fun word => (wordText word).toList) = some := by
    funext word
    rw [Function.comp, String.ofList_toList, wordOf?_wordText]
  rw [read, mapM_some]

/-- Texts without line ends are put together to one. -/
theorem Inline.append {front back : String} (first : Inline front) (second : Inline back) :
    Inline (front ++ back) := by
  rw [Inline, String.toList_append, List.mem_append, List.mem_append]
  exact ⟨not_or.2 ⟨first.1, second.1⟩, not_or.2 ⟨first.2, second.2⟩⟩

/-- Texts without line ends are put together with what stands between any two of them. -/
theorem inline_intercalate {between : String} (separated : Inline between) {texts : List String}
    (inline : ∀ text ∈ texts, Inline text) : Inline (between.intercalate texts) := by
  induction texts with
  | nil =>
    rw [String.intercalate_nil]
    decide
  | cons text texts ih =>
    obtain ⟨first, others⟩ := List.forall_mem_cons.1 inline
    cases texts with
    | nil => rwa [String.intercalate_singleton]
    | cons next texts =>
      rw [String.intercalate_cons_cons]
      exact (first.append separated).append (ih others)

/-- Letters and digits are no line ends. -/
theorem inline_of_isAlphanum {text : String} (alphanum : ∀ c ∈ text.toList, c.isAlphanum = true) :
    Inline text :=
  ⟨fun among => absurd (alphanum _ among) (by decide),
    fun among => absurd (alphanum _ among) (by decide)⟩

/-- A word behind its radix mark holds no line end. -/
theorem inline_wordText (word : UInt32) : Inline (wordText word) :=
  inline_of_isAlphanum fun _ among => isAlphanum_of_mem_wordText among

/-- A number in decimal digits holds no line end. -/
theorem inline_decimal (number : Nat) : Inline (decimal number) := by
  refine inline_of_isAlphanum fun c among => ?_
  rw [decimal, toList_digits (Nat.zero_le 1)] at among
  exact isAlphanum_of_mem_toDigits (.inl rfl) among

/-- A field's line holds no line end if its name and value hold none. -/
theorem inline_entry {name value : String} (first : Inline name) (second : Inline value) :
    Inline (entry name value) := by
  have colon : Inline ": " := by decide
  have comma : Inline "," := by decide
  exact ((first.append colon).append second).append comma

/-- The lines of a structure hold no line end if its fields can be read back. -/
theorem inline_block {name type : String} {held : List (String × String)} (outer : Inline name)
    (typed : Inline type) (legible : Legible held) :
    ∀ line ∈ block name type (held.map fun field => entry field.1 field.2), Inline line := by
  have blanks : Inline "    " := by decide
  have deeper : Inline "        " := by decide
  have colon : Inline ": " := by decide
  have brace : Inline " \x7b" := by decide
  intro line among
  rw [block, List.mem_append, List.mem_append, List.mem_singleton, List.mem_singleton,
    List.map_map, List.mem_map] at among
  rcases among with (rfl | ⟨field, among, rfl⟩) | rfl
  · exact (((blanks.append outer).append colon).append typed).append brace
  · obtain ⟨named, valued⟩ := legible field among
    exact deeper.append (inline_entry named.2 valued)
  · decide

/-- Lines without line ends are read back from their text. -/
theorem lines_join {all : List String} (inline : ∀ line ∈ all, Inline line) :
    lines (String.join (all.map (· ++ "\n"))).toList = all.map String.toList := by
  have whole : (String.join (all.map (· ++ "\n"))).toList =
      (all.map String.toList).flatMap (· ++ ['\n']) := by
    rw [String.toList_join, List.flatMap_map, List.flatMap_map]
    exact List.flatMap_congr fun line _ => String.toList_append
  rw [whole]
  refine lines_terminated fun line among => ?_
  obtain ⟨text, member, rfl⟩ := List.mem_map.1 among
  exact inline text member

/-- The base of the PLL manager in the text: its usual place goes by a name. -/
def pllText : Option UInt32 → String
  | some base => wordText base
  | none => "DEFAULT_PLL_MGR"

/-- The base of the PLL manager is read back. -/
theorem wordOf?_pllText (base : Option UInt32) :
    wordOf? (pllText base) = some (base.getD defaultPllManager) := by
  cases base with
  | some base => exact wordOf?_wordText base
  | none => rfl

section Written

variable (settings : Settings)

/-- The base addresses in the text. -/
def layoutFields : List (String × String) :=
  [("phy_mgr", wordText settings.phyManager), ("rw_mgr", wordText settings.rwManager),
    ("pll_mgr", pllText settings.pllManager)]

/-- The programs in the text. -/
def romFields : List (String × String) :=
  ((RomProgram.all.filter (· ∉ waitPrograms)).map fun program =>
      (program.field, wordText (settings.programs program))) ++
    [("guaranteed_write_wait",
      "[" ++ ", ".intercalate ((waitPrograms.map settings.programs).map wordText) ++ "]")]

/-- The dimensions in the text. -/
def geometryFields : List (String × String) :=
  Dimension.all.map fun dimension =>
    (dimension.field, decimal (settings.geometry dimension).toNat)

/-- The choices in the text. -/
def choiceFields : List (String × String) :=
  [("protocol", protocolText settings.protocol), ("groups", groupsText settings.groups)]

/-- All fields of the text, with their values. -/
def written : List (List String × String) :=
  (settings.layoutFields.map fun field => ([constantName, "layout", field.1], field.2)) ++
    (settings.romFields.map fun field => ([constantName, "rom", field.1], field.2)) ++
    (settings.geometryFields.map fun field => ([constantName, "geometry", field.1], field.2)) ++
    settings.choiceFields.map fun field => ([constantName, field.1], field.2)

/-- The lines of the text are those of its fields, with structures around them. -/
theorem textLines_eq : settings.textLines =
    [constantName ++ ": " ++ "Config = Config" ++ " \x7b"] ++
      block "layout" "Layout" (settings.layoutFields.map fun field => entry field.1 field.2) ++
      block "rom" "InstRom" (settings.romFields.map fun field => entry field.1 field.2) ++
      block "geometry" "Geometry"
        (settings.geometryFields.map fun field => entry field.1 field.2) ++
      (settings.choiceFields.map fun field => "    " ++ entry field.1 field.2) ++ ["\x7d;"] := by
  rfl

/-- The names of the programs can be read. -/
theorem isName_program (program : RomProgram) : IsName program.field := by
  cases program <;> decide

/-- The names of the dimensions can be read. -/
theorem isName_dimension (dimension : Dimension) : IsName dimension.field := by
  cases dimension <;> decide

/-- The base addresses are read back. -/
theorem legible_layout : Legible settings.layoutFields := by
  have pll : Inline (pllText settings.pllManager) := by
    cases settings.pllManager with
    | none => decide
    | some base => exact inline_wordText base
  apply Legible.cons (by decide) (inline_wordText _)
  apply Legible.cons (by decide) (inline_wordText _)
  exact Legible.cons (by decide) pll Legible.nil

/-- The programs are read back. -/
theorem legible_rom : Legible settings.romFields := by
  have comma : Inline ", " := by decide
  have opening : Inline "[" := by decide
  have closing : Inline "]" := by decide
  have waits : ∀ text ∈ (waitPrograms.map settings.programs).map wordText, Inline text := by
    intro text among
    obtain ⟨word, -, rfl⟩ := List.mem_map.1 among
    exact inline_wordText word
  have list := (opening.append (inline_intercalate comma waits)).append closing
  intro field among
  rw [romFields, List.mem_append, List.mem_map] at among
  rcases among with ⟨program, -, rfl⟩ | last
  · exact ⟨isName_program program, inline_wordText _⟩
  · exact Legible.cons (by decide) list Legible.nil field last

/-- The dimensions are read back. -/
theorem legible_geometry : Legible settings.geometryFields := by
  intro field among
  obtain ⟨dimension, -, rfl⟩ := List.mem_map.1 among
  exact ⟨isName_dimension dimension, inline_decimal _⟩

/-- The choices are read back. -/
theorem legible_choice : Legible settings.choiceFields := by
  have protocol : Inline (protocolText settings.protocol) := by
    cases settings.protocol <;> decide
  have groups : Inline (groupsText settings.groups) := by
    cases settings.groups with
    | x16 twoCaptureClocks => cases twoCaptureClocks <;> decide
    | x8 | x24 => decide
  apply Legible.cons (by decide) protocol
  exact Legible.cons (by decide) groups Legible.nil

/-- No line of the text holds a line end. -/
theorem inline_textLines : ∀ line ∈ settings.textLines, Inline line := by
  have blanks : Inline "    " := by decide
  intro line among
  rw [textLines_eq] at among
  simp only [List.mem_append, List.mem_singleton] at among
  rcases among with ((((rfl | layout) | rom) | geometry) | choice) | rfl
  · decide
  · exact inline_block (by decide) (by decide) settings.legible_layout line layout
  · exact inline_block (by decide) (by decide) settings.legible_rom line rom
  · exact inline_block (by decide) (by decide) settings.legible_geometry line geometry
  · obtain ⟨field, among, rfl⟩ := List.mem_map.1 choice
    obtain ⟨named, valued⟩ := settings.legible_choice field among
    exact blanks.append (inline_entry named.2 valued)
  · decide

/-- What is read of the text are the fields that were put in, each once and in order. -/
theorem fields_render : fields settings.render = settings.written := by
  have opening : Item.ofLine
      (constantName ++ ": " ++ "Config = Config" ++ " \x7b").toList = .opens constantName := rfl
  have choices : (settings.choiceFields.map fun field =>
      "    " ++ entry field.1 field.2).map String.toList =
        settings.choiceFields.map fun field => "    ".toList ++ (entry field.1 field.2).toList := by
    rw [List.map_map]
    exact List.map_congr_left fun field _ => String.toList_append
  rw [fields, render, lines_join settings.inline_textLines, textLines_eq]
  simp only [List.map_append, List.map_cons, List.map_nil, List.append_assoc, List.cons_append,
    List.nil_append, choices]
  rw [fieldsFrom, opening]
  dsimp only
  rw [fieldsFrom_block _ _ (by decide) settings.legible_layout,
    fieldsFrom_block _ _ (by decide) settings.legible_rom,
    fieldsFrom_block _ _ (by decide) settings.legible_geometry,
    fieldsFrom_entries blank_outer _ settings.legible_choice]
  simp only [written, List.append_assoc]
  rfl

end Written

end Bringup.Settings
