/-!
# Blanks, words and lines

A blank is a character with the Unicode property `White_Space`. Words are the longest
runs of other characters. Lines end at a line feed, which a carriage return may precede.
-/

namespace Bringup.Text

/-- The Unicode property `White_Space`. -/
def isBlank (c : Char) : Bool :=
  let code := c.toNat
  (0x9 ≤ code && code ≤ 0xd) || code == 0x20 || code == 0x85 || code == 0xa0
    || code == 0x1680 || (0x2000 ≤ code && code ≤ 0x200a) || code == 0x2028
    || code == 0x2029 || code == 0x202f || code == 0x205f || code == 0x3000

/-- The words of a text. The first argument holds the word that is being read. -/
def wordsFrom (word : List Char) : List Char → List (List Char)
  | [] => if word.isEmpty then [] else [word.reverse]
  | c :: rest =>
    if isBlank c then
      if word.isEmpty then wordsFrom [] rest else word.reverse :: wordsFrom [] rest
    else wordsFrom (c :: word) rest

/-- The words of a text, in order. -/
def words (text : List Char) : List (List Char) := wordsFrom [] text

/-- Removes a carriage return from the end of a reversed line. -/
def dropReturn : List Char → List Char
  | '\r' :: line => line
  | line => line

/-- The lines of a text, given the reversed beginning of the current one. The last line
needs no line feed, and only a line that has one loses a carriage return. -/
def linesFrom (line : List Char) : List Char → List (List Char)
  | [] => if line.isEmpty then [] else [line.reverse]
  | c :: rest =>
    if c = '\n' then (dropReturn line).reverse :: linesFrom [] rest
    else linesFrom (c :: line) rest

/-- The lines of a text, in order and without their line ends. -/
def lines (text : List Char) : List (List Char) := linesFrom [] text

end Bringup.Text
