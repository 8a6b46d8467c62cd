import Bringup.Pattern.CharSet
/-!
# What patterns mean

An expression says which stretches of a text match. It is matched against a whole text at
once: from the marked places of the text it leads to the places where a match that begins at
one of them may end.
-/

namespace Bringup.Pattern

/-- What is asked of a place in a text. -/
inductive Look where
  | textStart
  | textEnd
  /-- The start of a line; with `returns`, a carriage return ends a line, too. -/
  | lineStart (returns : Bool)
  | lineEnd (returns : Bool)
  | boundary
  | noBoundary
  | wordStart
  | wordEnd
  | wordStartHalf
  | wordEndHalf
  /-- Something about words of letters beyond ASCII, of which nothing is known. -/
  | unknownBoundary
  deriving DecidableEq, Repr

/-- Whether a character belongs to a word. -/
def isWordChar (c : Char) : Bool := c.isAlphanum || c == '_'

/-- Whether a place is as asked, given the characters before and behind it. -/
def Look.holds (before behind : Option Char) : Look → Bool
  | .textStart => before.isNone
  | .textEnd => behind.isNone
  | .lineStart returns =>
    before.all (· == '\n') || (returns && before == some '\r' && behind != some '\n')
  | .lineEnd returns =>
    if returns then
      behind.all (· == '\r') || (behind == some '\n' && before != some '\r')
    else behind.all (· == '\n')
  | .boundary => before.any isWordChar != behind.any isWordChar
  | .noBoundary => before.any isWordChar == behind.any isWordChar
  | .wordStart => !before.any isWordChar && behind.any isWordChar
  | .wordEnd => before.any isWordChar && !behind.any isWordChar
  | .wordStartHalf => !before.any isWordChar
  | .wordEndHalf => !behind.any isWordChar
  | .unknownBoundary => false

/-- An expression. -/
inductive Expr where
  | empty
  | look (asked : Look)
  /-- One character of a set. -/
  | set (members : CharSet)
  | repeated (least : Nat) (most : Option Nat) (inner : Expr)
  /-- An expression whose match is remembered. -/
  | captured (inner : Expr)
  | oneOf (branches : List Expr)
  | inOrder (parts : List Expr)

/-- Which places of a text are marked, from its beginning to its end. -/
abbrev Marks : Type := List Bool

namespace Marks

/-- The places that are marked by either. -/
def either (left right : Marks) : Marks := List.zipWith (· || ·) left right

/-- The marked places that are as asked, given the character before them. -/
def lookingFrom (look : Look) (before : Option Char) : List Char → Marks → Marks
  | _, [] => []
  | [], mark :: marks => (mark && look.holds before none) :: marks
  | c :: text, mark :: marks =>
    (mark && look.holds before (some c)) :: lookingFrom look (some c) text marks

/-- The places behind the characters of a set that stand at marked places. -/
def stepping (set : CharSet) (text : List Char) (marks : Marks) : Marks :=
  false :: List.zipWith (fun mark c => mark && set.contains c) marks text

/-- Applies a step so many times, or until it changes nothing. -/
def saturate (step : Marks → Marks) : (times : Nat) → Marks → Marks
  | 0, marks => marks
  | times + 1, marks =>
    let stepped := step marks
    if stepped == marks then marks else saturate step times stepped

end Marks

mutual

/-- Where matches that begin at marked places end. A repetition of more rounds than the text
has places leads no further than one of just so many. -/
def Expr.ends (text : List Char) : Expr → Marks → Marks
  | .empty, marks => marks
  | .look asked, marks => Marks.lookingFrom asked none text marks
  | .set members, marks => Marks.stepping members text marks
  | .repeated least most inner, marks =>
    let rounds := text.length + 2
    let required := Marks.saturate (fun marks => inner.ends text marks) (min least rounds) marks
    let optional := match most with
      | some most => min (most - least) rounds
      | none => rounds
    Marks.saturate (fun marks => marks.either (inner.ends text marks)) optional required
  | .captured inner, marks => inner.ends text marks
  | .oneOf branches, marks => Expr.endsOfAny text branches marks
  | .inOrder parts, marks => Expr.endsOfAll text parts marks

/-- Where matches of any of some expressions end. -/
def Expr.endsOfAny (text : List Char) : List Expr → Marks → Marks
  | [], marks => marks.map fun _ => false
  | branch :: rest, marks => (branch.ends text marks).either (Expr.endsOfAny text rest marks)

/-- Where matches of some expressions one behind the other end. -/
def Expr.endsOfAll (text : List Char) : List Expr → Marks → Marks
  | [], marks => marks
  | part :: rest, marks => Expr.endsOfAll text rest (part.ends text marks)

end

/-- Whether a match begins anywhere in a text. -/
def Expr.isFoundIn (inner : Expr) (text : List Char) : Bool :=
  (inner.ends text (List.replicate (text.length + 1) true)).any id

end Bringup.Pattern
