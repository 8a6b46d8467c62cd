import Bringup.Pattern.Span
/-!
# Patterns as they are written

A tree holds what a pattern says, part by part, and where it says it. What the parts mean
depends on the flags that are in force, so it is found out in a second step.
-/

namespace Bringup.Pattern

/-- A character, perhaps written by its code. -/
structure Literal where
  span : Span
  char : Char
  /-- Whether it is written by two hexadecimal digits, as a byte is. -/
  asByte : Bool := false
  deriving DecidableEq, Repr

/-- What an assertion asks of the place where it stands. -/
inductive Assertion where
  | lineStart
  | lineEnd
  | textStart
  | textEnd
  | boundary
  | noBoundary
  | wordStart
  | wordEnd
  /-- No word reaches up to here. -/
  | wordStartHalf
  /-- No word goes on from here. -/
  | wordEndHalf
  deriving DecidableEq, Repr

/-- The classes that are written by a letter. -/
inductive ShortClass where
  | digit
  | space
  | word
  deriving DecidableEq, Repr

/-- A Unicode property: named, or given by its name and its value. -/
inductive Property where
  | named (name : List Char)
  | valued (name value : List Char)
  deriving DecidableEq, Repr

/-- How two classes are put together. -/
inductive ClassOp where
  | intersection
  | difference
  | symmetricDifference
  deriving DecidableEq, Repr

/-- What stands between brackets. -/
inductive ClassNode where
  | empty (span : Span)
  | literal (character : Literal)
  | range (first last : Literal)
  /-- A class between colons, known by its ranges. -/
  | ascii (span : Span) (negated : Bool) (ranges : List (Nat × Nat))
  | property (span : Span) (negated : Bool) (property : Property)
  | short (span : Span) (negated : Bool) (kind : ShortClass)
  | bracketed (span : Span) (negated : Bool) (inner : ClassNode)
  | union (span : Span) (items : List ClassNode)
  | combined (span : Span) (op : ClassOp) (left right : ClassNode)

/-- Where part of a class stands. -/
def ClassNode.span : ClassNode → Span
  | .empty span => span
  | .literal character => character.span
  | .range first last => ⟨first.span.start, last.span.stop⟩
  | .ascii span _ _ => span
  | .property span _ _ => span
  | .short span _ _ => span
  | .bracketed span _ _ => span
  | .union span _ => span
  | .combined span _ _ _ => span

/-- What flags change about the rest of a pattern. -/
inductive Flag where
  | caseInsensitive
  | multiLine
  | dotMatchesNewLine
  | swapGreed
  | unicode
  | crlf
  | ignoreWhitespace
  deriving DecidableEq, Repr

/-- Flags that are set or cleared. -/
abbrev FlagChanges : Type := List (Flag × Bool)

/-- What becomes of a flag. -/
def FlagChanges.state? (changes : FlagChanges) (flag : Flag) : Option Bool :=
  List.lookup flag changes

/-- Part of a pattern. -/
inductive Node where
  | empty (span : Span)
  /-- Changes flags from here to the end of the group. -/
  | flags (span : Span) (changes : FlagChanges)
  | literal (character : Literal)
  | dot (span : Span)
  | assertion (span : Span) (kind : Assertion)
  | property (span : Span) (negated : Bool) (property : Property)
  | short (span : Span) (negated : Bool) (kind : ShortClass)
  | bracketed (span : Span) (negated : Bool) (inner : ClassNode)
  | repeated (span : Span) (least : Nat) (most : Option Nat) (node : Node)
  /-- A group, with the changes of flags that hold in it. -/
  | group (span : Span) (captures : Bool) (changes : FlagChanges) (node : Node)
  | oneOf (span : Span) (branches : List Node)
  | inOrder (span : Span) (nodes : List Node)

namespace Node

/-- Where a node stands. -/
def span : Node → Span
  | .empty span => span
  | .flags span _ => span
  | .literal character => character.span
  | .dot span => span
  | .assertion span _ => span
  | .property span _ _ => span
  | .short span _ _ => span
  | .bracketed span _ _ => span
  | .repeated span _ _ _ => span
  | .group span _ _ _ => span
  | .oneOf span _ => span
  | .inOrder span _ => span

/-- Nodes one behind the other; a single one stands for itself. -/
def sequence (span : Span) : List Node → Node
  | [] => .empty span
  | [node] => node
  | nodes => .inOrder span nodes

/-- Whether a repetition may stand behind the node. -/
def isRepeatable : Node → Bool
  | .empty _ => false
  | .flags _ _ => false
  | _ => true

end Node

end Bringup.Pattern
