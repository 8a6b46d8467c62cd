import Bringup.Pattern.Cursor
import Bringup.Pattern.Tree
import Bringup.Text.Unsigned
/-!
# Atoms of a pattern

An atom stands for one character or one place: a character itself, a dot, an assertion, or
what is written behind a backslash.
-/

namespace Bringup.Pattern

/-- The smallest part of a pattern. -/
inductive Atom where
  | literal (character : Literal)
  | dot (span : Span)
  | assertion (span : Span) (kind : Assertion)
  | property (span : Span) (negated : Bool) (property : Property)
  | short (span : Span) (negated : Bool) (kind : ShortClass)

namespace Atom

/-- Where an atom stands. -/
def span : Atom → Span
  | .literal character => character.span
  | .dot span => span
  | .assertion span _ => span
  | .property span _ _ => span
  | .short span _ _ => span

/-- The atom as part of a pattern. -/
def node : Atom → Node
  | .literal character => .literal character
  | .dot span => .dot span
  | .assertion span kind => .assertion span kind
  | .property span negated named => .property span negated named
  | .short span negated kind => .short span negated kind

/-- The characters that mean something of their own. -/
def metaCharacters : List Char := "\\.+*?()|[]\x7b\x7d^$#&-~".toList

/-- Whether a backslash in front of a character changes nothing about it but takes away its
meaning. -/
def isEscapable (c : Char) : Bool :=
  c ∈ metaCharacters || (c.toNat < 0x80 && !c.isAlphanum && c != '<' && c != '>')

/-- The characters that are written by a backslash and a letter. -/
def controls : List (Char × Char) :=
  [('a', '\x07'), ('f', '\x0c'), ('t', '\t'), ('n', '\n'), ('r', '\r'), ('v', '\x0b')]

/-- The assertions that are written by a backslash and another character. -/
def assertions : List (Char × Assertion) :=
  [('A', .textStart), ('z', .textEnd), ('b', .boundary), ('B', .noBoundary),
    ('<', .wordStart), ('>', .wordEnd)]

/-- The assertions that are written by a name between braces. -/
def namedBoundaries : List (String × Assertion) :=
  [("start", .wordStart), ("end", .wordEnd), ("start-half", .wordStartHalf),
    ("end-half", .wordEndHalf)]

/-- The classes that are written by a letter. -/
def shortClasses : List (Char × ShortClass) :=
  [('d', .digit), ('s', .space), ('w', .word)]

/-- Whether a character is a hexadecimal digit. -/
def isHexDigit (c : Char) : Bool := (Text.digitValue? 16 c).isSome

/-- The character of a code in hexadecimal digits. -/
def charOfHex? (digits : List Char) : Option Char :=
  let code := digits.foldl (fun code c => 16 * code + (Text.digitValue? 16 c).getD 0) 0
  if code.isValidChar then some (Char.ofNat code) else none

open Reading

/-- Reads so many hexadecimal digits; the cursor stands on the first. -/
def hexDigits : Nat → Reading (List Char)
  | 0 => pure []
  | count + 1 => do
    match ← current with
    | none => complain .escapeUnexpectedEnd (.point (← here))
    | some c =>
      if !isHexDigit c then complain .escapeHexInvalidDigit (← spanOfCurrent)
      let _ ← next
      pure (c :: (← hexDigits count))

/-- Reads a code between braces. -/
def bracedHex : Reading Literal := do
  let brace ← here
  let start := (← spanOfCurrent).stop
  let _ ← next
  let digits ← collect next isHexDigit
  match ← current with
  | none => complain .escapeUnexpectedEnd (← since brace)
  | some c => if c != '\x7d' then complain .escapeHexInvalidDigit (← spanOfCurrent)
  let stop ← here
  let _ ← next
  if digits.isEmpty then complain .escapeHexEmpty (← since brace)
  match charOfHex? digits with
  | some char => pure { span := ← since start, char }
  | none => complain .escapeHexInvalid ⟨start, stop⟩

/-- Reads a code; the cursor stands on the letter that says how many digits it has. -/
def hexLiteral (digitCount : Nat) : Reading Literal := do
  if !(← next) then complain .escapeUnexpectedEnd (.point (← here))
  if (← current) = some '\x7b' then bracedHex
  else
    let start ← here
    let digits ← hexDigits digitCount
    let span ← since start
    match charOfHex? digits with
    | some char => pure { span, char, asByte := digitCount == 2 }
    | none => complain .escapeHexInvalid span

/-- Splits a text at the first place where another stands. -/
def splitAt? (mark : List Char) : List Char → Option (List Char × List Char)
  | [] => none
  | c :: rest =>
    if mark.isPrefixOf (c :: rest) then some ([], (c :: rest).drop mark.length)
    else (splitAt? mark rest).map fun (before, behind) => (c :: before, behind)

/-- The property of a text between braces. -/
def propertyOf (text : List Char) : Property :=
  match ["!=", ":", "="].findSome? fun mark => splitAt? mark.toList text with
  | some (name, value) => .valued name value
  | none => .named text

/-- Reads a property; the cursor stands on the letter in front of it. -/
def readProperty (start : Place) (negated : Bool) : Reading Atom := do
  if !(← next) then complain .escapeUnexpectedEnd (.point (← here))
  match ← current with
  | some '\x7b' =>
    let _ ← next
    let text ← collect next (· != '\x7d')
    if (← current).isNone then complain .escapeUnexpectedEnd (.point (← here))
    let _ ← step
    pure (.property (← since start) negated (propertyOf text))
  | some c =>
    if c = '\\' then complain .propertyInvalid (← spanOfCurrent)
    let _ ← next
    pure (.property (← since start) negated (.named [c]))
  | none => complain .escapeUnexpectedEnd (.point (← here))

/-- Whether a character may stand in the name of a boundary. -/
def isBoundaryChar (c : Char) : Bool := c.isAlpha || c == '-'

/-- Reads the name of a boundary between braces, if that is what stands here. What cannot be
such a name is left for a repetition. -/
def boundaryName? (start : Place) : Reading (Option Assertion) := do
  let saved ← get
  if !(← next) then complain .specialBoundaryUnexpectedEnd (← since start)
  let contents ← here
  if !(← current).any isBoundaryChar then
    set saved
    return none
  let name ← collect next isBoundaryChar
  if (← current) ≠ some '\x7d' then complain .specialBoundaryUnclosed (← since saved.place)
  let span ← since contents
  let _ ← step
  match namedBoundaries.lookup (String.ofList name) with
  | some kind => pure (some kind)
  | none => complain .specialBoundaryUnrecognized span

/-- Reads what is written by a backslash and one character. -/
def simpleEscape (start : Place) (c : Char) : Reading Atom := do
  let _ ← step
  let span ← since start
  if isEscapable c then return .literal { span, char := c }
  if let some char := controls.lookup c then return .literal { span, char }
  match assertions.lookup c with
  | none => complain .escapeUnrecognized span
  | some kind =>
    if c = 'b' && (← current) = some '\x7b' then
      match ← boundaryName? start with
      | some named => return .assertion (← since start) named
      | none => pure ()
    pure (.assertion span kind)

/-- Reads what is written by a backslash. -/
def escape : Reading Atom := do
  let start ← here
  if !(← step) then complain .escapeUnexpectedEnd (← since start)
  match ← current with
  | none => complain .escapeUnexpectedEnd (← since start)
  | some c =>
    if c.isDigit then complain .backreference ⟨start, (← spanOfCurrent).stop⟩
    else if let some count := [('x', 2), ('u', 4), ('U', 8)].lookup c then
      let code ← hexLiteral count
      pure (.literal { code with span := ⟨start, code.span.stop⟩ })
    else if c ∈ ['p', 'P'] then readProperty start (c == 'P')
    else if let some kind := shortClasses.lookup c.toLower then
      let _ ← step
      pure (.short (← since start) c.isUpper kind)
    else simpleEscape start c

/-- Reads a character that stands for itself. -/
def plain (c : Char) : Reading Atom := do
  let span ← spanOfCurrent
  let _ ← step
  pure (.literal { span, char := c })

/-- Reads an atom that begins with a character. -/
def read (c : Char) : Reading Atom := do
  let span ← spanOfCurrent
  match c with
  | '\\' => escape
  | '.' => do let _ ← step; pure (.dot span)
  | '^' => do let _ ← step; pure (.assertion span .lineStart)
  | '$' => do let _ ← step; pure (.assertion span .lineEnd)
  | c => plain c

end Atom

end Bringup.Pattern
