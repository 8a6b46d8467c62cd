import Bringup.Pattern.Complaint
/-!
# Going through a pattern

A cursor stands in a pattern. It knows what is left of it, whether blanks and comments are
ignored where it stands, and the names of the groups that it has passed.
-/

namespace Bringup.Pattern

/-- A place in a pattern and what is left of it. -/
structure Cursor where
  rest : List Char
  place : Place := {}
  /-- Whether blanks, and comments from a number sign on, are ignored. -/
  spaced : Bool := false
  /-- The names of groups and where they stand. -/
  names : List (List Char × Span) := []

namespace Cursor

/-- The cursor behind the current character. -/
def advance (cursor : Cursor) : Cursor :=
  match cursor.rest with
  | c :: rest => { cursor with rest, place := cursor.place.after c }
  | [] => cursor

/-- Passes over blanks and comments, given whether it is in a comment already. -/
def skip (comment : Bool) : List Char → Place → List Char × Place
  | [], place => ([], place)
  | c :: rest, place =>
    if comment then skip (c != '\n') rest (place.after c)
    else if Text.isBlank c then skip false rest (place.after c)
    else if c = '#' then skip true rest (place.after c)
    else (c :: rest, place)

/-- Passes over blanks and comments where they are ignored. -/
def skipBlanks (cursor : Cursor) : Cursor :=
  if cursor.spaced then
    let (rest, place) := skip false cursor.rest cursor.place
    { cursor with rest, place }
  else cursor

/-- The first character that is neither a blank nor the number sign of a comment. -/
def firstMark (comment : Bool) : List Char → Option Char
  | [] => none
  | c :: rest =>
    if Text.isBlank c then firstMark comment rest
    else if !comment && c == '#' then firstMark true rest
    else some c

/-- The character behind the current one; where blanks are ignored, the first mark there. -/
def glance (cursor : Cursor) : Option Char :=
  let rest := cursor.rest.tail
  if cursor.spaced then (firstMark false rest).or rest.head? else rest.head?

end Cursor

/-- Reading part of a pattern. -/
abbrev Reading (α : Type) : Type := EStateM Complaint Cursor α

namespace Reading

/-- Where the cursor stands. -/
def here : Reading Place := do pure (← get).place

/-- The current character, if the pattern goes on. -/
def current : Reading (Option Char) := do pure (← get).rest.head?

/-- The span from a place to the cursor. -/
def since (start : Place) : Reading Span := do pure ⟨start, ← here⟩

/-- The span of the current character. -/
def spanOfCurrent : Reading Span := do
  let cursor ← get
  pure ⟨cursor.place, cursor.advance.place⟩

/-- Gives up. -/
def complain {α : Type} (reason : Reason) (span : Span) : Reading α := throw { reason, span }

/-- Moves on by one character; answers whether there is another. -/
def step : Reading Bool := do
  modify Cursor.advance
  pure (← current).isSome

/-- Moves on by one character and over what is ignored; answers whether there is more. -/
def next : Reading Bool := do
  modify fun cursor => cursor.advance.skipBlanks
  pure (← current).isSome

/-- Moves over a text if it stands here. -/
def accept (text : String) : Reading Bool := do
  if text.toList.isPrefixOf (← get).rest then
    modify fun cursor => text.toList.foldl (fun cursor _ => cursor.advance) cursor
    pure true
  else pure false

/-- Takes characters that pass a test, at most `most` of them. -/
def collectUpTo (move : Reading Bool) (accepts : Char → Bool) : (most : Nat) →
    Reading (List Char)
  | 0 => pure []
  | most + 1 => do
    match (← current).filter accepts with
    | some c =>
      let _ ← move
      pure (c :: (← collectUpTo move accepts most))
    | none => pure []

/-- Takes characters as long as they pass a test, moving on from each as told. -/
def collect (move : Reading Bool) (accepts : Char → Bool) : Reading (List Char) := do
  collectUpTo move accepts (← get).rest.length

/-- Reads a number below 2^32, with blanks around it. -/
def number : Reading (Except Complaint Nat) := do
  let _ ← collect next Text.isBlank
  let start ← here
  let digits ← collect next Char.isDigit
  let span ← since start
  let _ ← collect next Text.isBlank
  let value := digits.foldl (fun value c => 10 * value + (c.toNat - '0'.toNat)) 0
  if digits.isEmpty then pure (.error { reason := .repetitionCountDecimalEmpty, span })
  else if value < UInt32.size then pure (.ok value)
  else pure (.error { reason := .decimalInvalid, span })

/-- The value of a result, or else its complaint. -/
def ofResult {α : Type} (result : Except Complaint α) : Reading α :=
  match result with
  | .ok value => pure value
  | .error complaint => throw complaint

end Reading

end Bringup.Pattern
