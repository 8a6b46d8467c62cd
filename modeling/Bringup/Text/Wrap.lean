import Bringup.Text.Blank
import Bringup.Text.Escapes
/-!
# Wrapping lines

Text is wrapped between words: a word that reaches beyond the width begins a new line, with
the blanks that began the text in front of it. A word keeps the spaces behind it, unless a
line ends there. The first word of each piece of text stays where it is.
-/

namespace Bringup.Text

/-- A text without the blanks at its end. -/
def trimEnd (text : List Char) : List Char := (text.reverse.dropWhile isBlank).reverse

/-- The bytes of a text. -/
def byteCount (text : List Char) : Nat := (String.ofList text).utf8ByteSize

/-- The columns that a text fills. From a control character up to an m nothing counts. -/
def columns (hidden : Bool) : List Char → Nat
  | [] => 0
  | c :: rest =>
    if c.toNat < 0x20 || c.toNat = 0x7f then columns true rest
    else if hidden then columns (c != 'm') rest
    else columns false rest + 1

/-- The words of a line with the spaces behind them; `word` is the beginning of the first one
in reverse, and `spaced` tells whether it ends in a space. -/
def spacedWords (word : List Char) (spaced : Bool) : List Char → List (List Char)
  | [] => if word.isEmpty then [] else [word.reverse]
  | c :: rest =>
    if spaced && c != ' ' then word.reverse :: spacedWords [c] false rest
    else spacedWords (c :: word) (c == ' ') rest

/-- The lines of a text with their line feeds; `line` is the beginning of the first one in
reverse. -/
def fedLines (line : List Char) : List Char → List (List Char)
  | [] => if line.isEmpty then [] else [line.reverse]
  | c :: rest =>
    if c = '\n' then (c :: line).reverse :: fedLines [] rest else fedLines (c :: line) rest

/-- Wrapping that is under way. -/
structure Wrapping where
  /-- The columns that the current line fills. -/
  filled : Nat := 0
  /-- What new lines begin with, once that is known. -/
  lead : Option (List Char) := none

namespace Wrapping

/-- Adds a word to those in front of it, the latest first. -/
def addWord (width : Nat) (state : Wrapping × List (List Char)) (word : List Char) :
    Wrapping × List (List Char) :=
  let (wrapping, words) := state
  let trimmed := trimEnd word
  let size := columns false trimmed
  let (filled, words) := match words with
    | latest :: others =>
      if width < wrapping.filled + size then
        let lead := wrapping.lead.getD []
        (byteCount lead, lead :: ['\n'] :: trimEnd latest :: others)
      else (wrapping.filled, words)
    | [] => (wrapping.filled, words)
  ({ wrapping with filled := filled + size + (byteCount word - byteCount trimmed) }, word :: words)

/-- Wraps a line. -/
def addLine (width : Nat) (wrapping : Wrapping) (line : List Char) : Wrapping × List Char :=
  let words := spacedWords [] false line
  let lead := wrapping.lead.orElse fun _ => words.head?.map fun word =>
    if word.all isBlank then word else []
  let (wrapping, words) := words.foldl (addWord width) ({ wrapping with lead }, [])
  (wrapping, words.reverse.flatten)

/-- Wraps lines of which all but the first begin afresh. -/
def addLines (width : Nat) (wrapping : Wrapping) : List (List Char) → Wrapping × List Char
  | [] => (wrapping, [])
  | line :: rest =>
    let (wrapping, wrapped) := wrapping.addLine width line
    if rest.isEmpty then (wrapping, wrapped)
    else
      let (wrapping, others) := addLines width {} rest
      (wrapping, wrapped ++ others)

/-- Wraps pieces of text; those that are not shown stay as they are. -/
def addPieces (width : Nat) (wrapping : Wrapping) : List (Bool × List Char) → List Char
  | [] => []
  | (shown, piece) :: rest =>
    if shown then
      let (wrapping, wrapped) := wrapping.addLines width (fedLines [] piece)
      wrapped ++ addPieces width wrapping rest
    else piece ++ addPieces width wrapping rest

end Wrapping

/-- A text in lines that fill no more than so many columns where words allow that, without
blanks at its end. -/
def wrap (width : Nat) (text : String) : String :=
  String.ofList (trimEnd
    (Wrapping.addPieces width {} (shownPieces .ground false [] text.toList)))

end Bringup.Text
