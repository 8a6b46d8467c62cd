import Bringup.Text.Blank
/-!
# Places in a pattern

A place is known by the characters before it, its line and its column. A span reaches from
one place to another; a span that begins where it ends marks a single place.
-/

namespace Bringup.Pattern

/-- A place in a pattern. Lines and columns are counted from one. -/
structure Place where
  offset : Nat := 0
  line : Nat := 1
  column : Nat := 1
  deriving DecidableEq, Repr

/-- The place behind a character that stands at a place. -/
def Place.after (place : Place) (c : Char) : Place :=
  if c = '\n' then ⟨place.offset + 1, place.line + 1, 1⟩
  else ⟨place.offset + 1, place.line, place.column + 1⟩

/-- From one place to another. -/
structure Span where
  start : Place
  stop : Place
  deriving DecidableEq, Repr

namespace Span

/-- The span that marks a single place. -/
def point (place : Place) : Span := ⟨place, place⟩

/-- Whether the span stays on one line. -/
def isOnOneLine (span : Span) : Bool := span.start.line == span.stop.line

/-- Whether a span comes before another, or is the same. -/
def precedes (first second : Span) : Bool :=
  decide (first.start.offset < second.start.offset) ||
    (first.start.offset == second.start.offset
      && decide (first.stop.offset ≤ second.stop.offset))

/-- The carets that stand below a line for its spans, which are in order; `column` columns
are filled already. -/
def carets (column : Nat) : List Span → List Char
  | [] => []
  | span :: rest =>
    let gap := span.start.column - 1 - column
    let width := max 1 (span.stop.column - span.start.column)
    List.replicate gap ' ' ++ List.replicate width '^' ++ carets (column + gap + width) rest

end Span

end Bringup.Pattern
