import Bringup.Pattern.Complaint
import Bringup.Pattern.Expr
import Bringup.Pattern.Tree
/-!
# The meaning of a pattern

Going through the tree of a pattern with the flags that are in force gives its expression.
Characters are Unicode characters unless the flag for that is cleared; nothing is known of
their properties, classes and cases then. Where it is cleared, nothing may match part of a
character, so that bytes beyond ASCII and negated classes are refused.
-/

namespace Bringup.Pattern

/-- The flags that are in force. -/
structure Flags where
  caseless : Bool := false
  multiLine : Bool := false
  dotMatchesAll : Bool := false
  unicode : Bool := true
  returns : Bool := false
  deriving DecidableEq, Repr

/-- Sets or clears a flag. Whether blanks are ignored, and which match is preferred, makes no
difference here. -/
def Flags.change (flags : Flags) (flag : Flag) (value : Bool) : Flags :=
  match flag with
  | .caseInsensitive => { flags with caseless := value }
  | .multiLine => { flags with multiLine := value }
  | .dotMatchesNewLine => { flags with dotMatchesAll := value }
  | .unicode => { flags with unicode := value }
  | .crlf => { flags with returns := value }
  | .swapGreed => flags
  | .ignoreWhitespace => flags

/-- Sets and clears flags. -/
def Flags.apply (flags : Flags) (changes : FlagChanges) : Flags :=
  changes.foldl (fun flags (flag, value) => flags.change flag value) flags

/-- A class of characters, and whether it is known to hold the other cases of its letters. -/
structure CharClass where
  set : CharSet := .empty
  folded : Bool := true

namespace CharClass

/-- The class of some ranges. -/
def ofRanges (ranges : List (Nat × Nat)) : CharClass := ⟨.ofRanges ranges, ranges.isEmpty⟩

/-- Adds a range. -/
def push (members : CharClass) (first last : Char) : CharClass :=
  ⟨members.set.union (.ofRanges [(first.toNat, last.toNat)]), false⟩

/-- What is in either class. -/
def union (left right : CharClass) : CharClass :=
  if right.set.isEmpty || left.set == right.set then left
  else ⟨left.set.union right.set, left.folded && right.folded⟩

/-- Puts two classes together. -/
def combine (left right : CharClass) : ClassOp → CharClass
  | .intersection =>
    ⟨left.set.inter right.set, left.set.isEmpty && left.folded || right.set.isEmpty
      || left.folded && right.folded⟩
  | .difference =>
    ⟨left.set.diff right.set,
      if left.set.isEmpty || right.set.isEmpty then left.folded else left.folded && right.folded⟩
  | .symmetricDifference => ⟨left.set.symmDiff right.set, left.folded && right.folded⟩

/-- Everything that is not in a class. -/
def negate (members : CharClass) : CharClass :=
  ⟨members.set.complement, members.folded || members.set.isEmpty⟩

end CharClass

/-- Reports a reason at a span. -/
def refuse {α : Type} (reason : Reason) (span : Span) : Except Complaint α :=
  .error { reason, span }

/-- Adds the other cases of letters, if the flags ask for that. -/
def CharClass.fold (flags : Flags) (span : Span) (members : CharClass) :
    Except Complaint CharClass :=
  if !flags.caseless then .ok members
  else if !flags.unicode then .ok ⟨members.set.foldAscii, true⟩
  else if members.folded || members.set.isEmpty then .ok { members with folded := true }
  else refuse .caseFoldingUnavailable span

/-- Adds the other cases of letters, and then negates the class if it is to be negated. -/
def CharClass.foldAndNegate (flags : Flags) (span : Span) (negated : Bool)
    (members : CharClass) : Except Complaint CharClass := do
  let members ← members.fold flags span
  if !negated then pure members
  else if flags.unicode then pure members.negate
  else refuse .invalidUtf8 span

/-- The ranges of a class that is written by a letter, in ASCII. -/
def ShortClass.ranges : ShortClass → List (Nat × Nat)
  | .digit => [(0x30, 0x39)]
  | .space => [(0x9, 0xd), (0x20, 0x20)]
  | .word => [(0x30, 0x39), (0x41, 0x5a), (0x5f, 0x5f), (0x61, 0x7a)]

/-- The class that is written by a letter. -/
def ShortClass.meaning (flags : Flags) (span : Span) (negated : Bool) (kind : ShortClass) :
    Except Complaint CharClass :=
  if flags.unicode then refuse .shortClassNotFound span
  else if negated then refuse .invalidUtf8 span
  else .ok (.ofRanges kind.ranges)

/-- The name of a property in the form that is looked up: small letters of ASCII without
blanks, dashes, underscores and a leading `is`. -/
def normalizedName (name : List Char) : List Char :=
  let rest := match name with
    | a :: b :: rest => if a.toLower = 'i' ∧ b.toLower = 's' then rest else name
    | _ => name
  (rest.filter fun c => c.toNat < 0x80 && c ∉ [' ', '_', '-']).map Char.toLower

/-- The names that are looked up as values of the general category at once. -/
def categoryNames : List String := ["cf", "sc", "lc"]

/-- Why a property means nothing: none is known. -/
def Property.reason (flags : Flags) : Property → Reason
  | .named name =>
    if !flags.unicode then .unicodeNotAllowed
    else if String.ofList (normalizedName name) ∈ categoryNames then .propertyValueNotFound
    else .propertyNotFound
  | .valued _ _ => if flags.unicode then .propertyNotFound else .unicodeNotAllowed

/-- The character that a literal of a class stands for. -/
def Literal.inClass (flags : Flags) (literal : Literal) : Except Complaint Char :=
  if flags.unicode || literal.char.toNat < 0x80 then .ok literal.char
  else if literal.asByte then refuse .invalidUtf8 literal.span
  else refuse .unicodeNotAllowed literal.span

mutual

/-- Adds what stands between brackets to a class. -/
def ClassNode.addTo (flags : Flags) (members : CharClass) :
    ClassNode → Except Complaint CharClass
  | .empty _ => .ok members
  | .literal character => do
    let c ← character.inClass flags
    pure (members.push c c)
  | .range first last => do
    let first ← first.inClass flags
    pure (members.push first (← last.inClass flags))
  | .ascii span negated ranges => do
    pure (members.union (← (CharClass.ofRanges ranges).foldAndNegate flags span negated))
  | .property span _ wanted => refuse (wanted.reason flags) span
  | .short span negated kind => do pure (members.union (← kind.meaning flags span negated))
  | .bracketed span negated inner => do
    let inner ← inner.addTo flags {}
    pure (members.union (← inner.foldAndNegate flags span negated))
  | .union _ items => ClassNode.addAll flags members items
  | .combined _ op left right => do
    let leftClass ← left.addTo flags {}
    let rightClass ← (← right.addTo flags {}).fold flags right.span
    let leftClass ← leftClass.fold flags left.span
    pure (members.union (leftClass.combine rightClass op))

/-- Adds parts of a class to a class. -/
def ClassNode.addAll (flags : Flags) (members : CharClass) :
    List ClassNode → Except Complaint CharClass
  | [] => .ok members
  | item :: rest => do ClassNode.addAll flags (← item.addTo flags members) rest

end

/-- What a character that stands for itself matches. -/
def Literal.meaning (flags : Flags) (literal : Literal) : Except Complaint CharSet :=
  let one := CharSet.singleton literal.char
  if !flags.unicode && literal.asByte && 0x80 ≤ literal.char.toNat then
    refuse .invalidUtf8 literal.span
  else if !flags.caseless then .ok one
  else if flags.unicode then refuse .caseFoldingUnavailable literal.span
  else .ok one.foldAscii

/-- What a dot matches. -/
def dotMeaning (flags : Flags) (span : Span) : Except Complaint CharSet :=
  if !flags.unicode then refuse .invalidUtf8 span
  else if flags.dotMatchesAll then .ok .all
  else if flags.returns then .ok (CharSet.complement ⟨[(0xa, 0xa), (0xd, 0xd)]⟩)
  else .ok (CharSet.complement ⟨[(0xa, 0xa)]⟩)

/-- What an assertion asks. -/
def Assertion.meaning (flags : Flags) (assertion : Assertion) : Look :=
  let ofWords (look : Look) : Look := if flags.unicode then .unknownBoundary else look
  match assertion with
  | .lineStart => if flags.multiLine then .lineStart flags.returns else .textStart
  | .lineEnd => if flags.multiLine then .lineEnd flags.returns else .textEnd
  | .textStart => .textStart
  | .textEnd => .textEnd
  | .boundary => ofWords .boundary
  | .noBoundary => ofWords .noBoundary
  | .wordStart => ofWords .wordStart
  | .wordEnd => ofWords .wordEnd
  | .wordStartHalf => ofWords .wordStartHalf
  | .wordEndHalf => ofWords .wordEndHalf

/-- A repetition; nothing at all repeated is empty, and so is anything repeated no times. -/
def Expr.repeating (least : Nat) (most : Option Nat) (inner : Expr) : Expr :=
  if most = some 0 then .empty else .repeated least most inner

/-- Finding the meaning of nodes, with the flags that are in force. -/
abbrev Interpreting (α : Type) : Type := EStateM Complaint Flags α

/-- Goes on with a result. -/
def Interpreting.lift {α : Type} (result : Flags → Except Complaint α) : Interpreting α :=
  fun flags => match result flags with
    | .ok value => .ok value flags
    | .error complaint => .error complaint flags

mutual

/-- The expression of a node. -/
def Node.meaning : Node → Interpreting Expr
  | .empty _ => pure .empty
  | .flags _ changes => do
    modify (·.apply changes)
    pure .empty
  | .literal character => do pure (.set (← Interpreting.lift fun flags => character.meaning flags))
  | .dot span => do pure (.set (← Interpreting.lift fun flags => dotMeaning flags span))
  | .assertion _ kind => do pure (.look (kind.meaning (← get)))
  | .property span _ wanted => do throw { reason := wanted.reason (← get), span }
  | .short span negated kind => do
    pure (.set (← Interpreting.lift fun flags => kind.meaning flags span negated).set)
  | .bracketed span negated inner => do
    let found ← Interpreting.lift fun flags => do
      (← inner.addTo flags {}).foldAndNegate flags span negated
    pure (.set found.set)
  | .repeated _ least most node => do pure (.repeating least most (← node.meaning))
  | .group _ captures changes node => do
    let outside ← get
    modify (·.apply changes)
    let inner ← node.meaning
    set outside
    pure (if captures then .captured inner else inner)
  | .oneOf _ branches => do pure (.oneOf (← Node.meanings branches))
  | .inOrder _ nodes => do pure (.inOrder (← Node.meanings nodes))

/-- The expressions of nodes, from the first on. -/
def Node.meanings : List Node → Interpreting (List Expr)
  | [] => pure []
  | node :: rest => do
    let first ← node.meaning
    pure (first :: (← Node.meanings rest))

end

end Bringup.Pattern
