import Bringup.Pattern.Atom
/-!
# Classes in brackets

A class in brackets lists characters, ranges and other classes. Classes in brackets may stand
in each other, and operators between two lists work on all that stands on either side.
-/

namespace Bringup.Pattern

/-- A list of parts of a class under construction. -/
structure ClassItems where
  span : Span
  /-- The parts, the latest first. -/
  items : List ClassNode := []

namespace ClassItems

/-- Adds a part. -/
def push (list : ClassItems) (item : ClassNode) : ClassItems where
  span := ⟨if list.items.isEmpty then item.span.start else list.span.start, item.span.stop⟩
  items := item :: list.items

/-- The list as a part; a single part stands for itself. -/
def node (list : ClassItems) : ClassNode :=
  match list.items with
  | [] => .empty list.span
  | [item] => item
  | items => .union list.span items.reverse

end ClassItems

/-- What a part of a class is waiting for. -/
inductive ClassFrame where
  /-- An inner class, to be closed, with what stands in front of it. -/
  | opened (outer : ClassItems) (span : Span) (negated : Bool)
  /-- The right side of an operator. -/
  | operand (op : ClassOp) (left : ClassNode)

/-- The classes that are written by a name between colons. -/
def asciiClasses : List (String × List (Char × Char)) :=
  [("alnum", [('0', '9'), ('A', 'Z'), ('a', 'z')]), ("alpha", [('A', 'Z'), ('a', 'z')]),
    ("ascii", [('\x00', '\x7f')]), ("blank", [('\t', '\t'), (' ', ' ')]),
    ("cntrl", [('\x00', '\x1f'), ('\x7f', '\x7f')]), ("digit", [('0', '9')]),
    ("graph", [('!', '~')]), ("lower", [('a', 'z')]), ("print", [(' ', '~')]),
    ("punct", [('!', '/'), (':', '@'), ('[', '\x60'), ('\x7b', '~')]),
    ("space", [('\t', '\r'), (' ', ' ')]), ("upper", [('A', 'Z')]),
    ("word", [('0', '9'), ('A', 'Z'), ('_', '_'), ('a', 'z')]),
    ("xdigit", [('0', '9'), ('A', 'F'), ('a', 'f')])]

/-- The ranges of code points of a class that is written by a name. -/
def asciiRanges? (name : String) : Option (List (Nat × Nat)) :=
  (asciiClasses.lookup name).map fun ranges =>
    ranges.map fun (first, last) => (first.toNat, last.toNat)

namespace Bracket

open Reading

/-- Reads a class between colons, if one stands here. -/
def asciiClass? : Reading (Option ClassNode) := do
  let start ← here
  match (← get).rest with
  | '[' :: ':' :: rest =>
    let negated := rest.head? == some '^'
    let rest := if negated then rest.tail else rest
    let name := rest.takeWhile (· != ':')
    match (rest.dropWhile (· != ':')).take 2, asciiRanges? (String.ofList name) with
    | [':', ']'], some ranges =>
      let _ ← accept ("[:" ++ (if negated then "^" else "") ++ String.ofList name ++ ":]")
      pure (some (.ascii (← since start) negated ranges))
    | _, _ => pure none
  | _ => pure none

/-- Complains that the innermost class was not closed. -/
def unclosed {α : Type} (frames : List ClassFrame) : Reading α := do
  let innermost := frames.findSome? fun
    | .opened _ span _ => some span
    | .operand _ _ => none
  complain .classUnclosed (innermost.getD (.point (← here)))

/-- Reads dashes at the beginning of a class, which stand for themselves. -/
def leadingDashes (start : Place) : (most : Nat) → ClassItems → Reading ClassItems
  | 0, list => pure list
  | most + 1, list => do
    if (← current) ≠ some '-' then return list
    let span ← spanOfCurrent
    if !(← next) then complain .classUnclosed (.point start)
    leadingDashes start most (list.push (.literal { span, char := '-' }))

/-- Reads the beginning of a class: the bracket, what negates the class, and characters that
stand for themselves only there. -/
def opening (outer : ClassItems) : Reading (ClassFrame × ClassItems) := do
  let start ← here
  let goOn : Reading Unit := do
    if !(← next) then complain .classUnclosed (← since start)
  goOn
  let negated := (← current) == some '^'
  if negated then goOn
  let list ← leadingDashes start (← get).rest.length { span := .point (← here) }
  let mut list := list
  if list.items.isEmpty && (← current) == some ']' then
    list := list.push (.literal { span := ← spanOfCurrent, char := ']' })
    goOn
  pure (.opened outer (← since start) negated, list)

/-- Reads a character of a class or what stands for some. -/
def element (frames : List ClassFrame) : Reading Atom := do
  match ← current with
  | none => unclosed frames
  | some '\\' => Atom.escape
  | some c => Atom.plain c

/-- The atom as part of a class. -/
def ofAtom : Atom → Reading ClassNode
  | .literal character => pure (.literal character)
  | .property span negated property => pure (.property span negated property)
  | .short span negated kind => pure (.short span negated kind)
  | atom => complain .classEscapeInvalid atom.span

/-- The atom as the end of a range. -/
def bound : Atom → Reading Literal
  | .literal character => pure character
  | atom => complain .classRangeLiteral atom.span

/-- Reads a character, a class or a range. A dash before a bracket or another dash makes no
range. -/
def range (frames : List ClassFrame) : Reading ClassNode := do
  let first ← element frames
  modify Cursor.skipBlanks
  let some c ← current | unclosed frames
  if c ≠ '-' || (← get).glance ∈ [some ']', some '-'] then ofAtom first
  else
    if !(← next) then unclosed frames
    let last ← element frames
    let span : Span := ⟨first.span.start, last.span.stop⟩
    let first ← bound first
    let last ← bound last
    if last.char < first.char then complain .classRangeInvalid span
    pure (.range first last)

/-- Puts the sides of an operator together, now that the right one is complete. -/
def combine (frames : List ClassFrame) (right : ClassNode) : ClassNode × List ClassFrame :=
  match frames with
  | .operand op left :: rest =>
    (.combined ⟨left.span.start, right.span.stop⟩ op left right, rest)
  | _ => (right, frames)

/-- The operators between lists. -/
def operators : List (String × ClassOp) :=
  [("&&", .intersection), ("--", .difference), ("~~", .symmetricDifference)]

/-- Reads an operator, if one stands here. -/
def operator? : List (String × ClassOp) → Reading (Option ClassOp)
  | [] => pure none
  | (text, op) :: rest => do if ← accept text then pure (some op) else operator? rest

/-- Reads the rest of a class, part by part. -/
def parts : (most : Nat) → List ClassFrame → ClassItems → Reading Node
  | 0, frames, _ => unclosed frames
  | most + 1, frames, list => do
    modify Cursor.skipBlanks
    match ← current with
    | none => unclosed frames
    | some '[' =>
      match ← asciiClass? with
      | some item => parts most frames (list.push item)
      | none =>
        let (frame, inner) ← opening list
        parts most (frame :: frames) inner
    | some ']' =>
      let (inner, frames) := combine frames list.node
      let _ ← step
      match frames with
      | .opened outer span negated :: rest =>
        let span ← since span.start
        if rest.isEmpty then pure (.bracketed span negated inner)
        else parts most rest (outer.push (.bracketed span negated inner))
      | _ => unclosed frames
    | some _ =>
      match ← operator? operators with
      | some op =>
        let (left, frames) := combine frames list.node
        parts most (.operand op left :: frames) { span := .point (← here) }
      | none => parts most frames (list.push (← range frames))

/-- Reads a class in brackets. -/
def read : Reading Node := do
  let (frame, list) ← opening { span := .point (← here) }
  parts ((← get).rest.length + 1) [frame] list

end Bracket

end Bringup.Pattern
