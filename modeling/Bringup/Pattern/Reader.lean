import Bringup.Pattern.Bracket
import Bringup.Text.Letters
/-!
# Reading a pattern

A pattern is a sequence of atoms, classes and groups, with repetitions behind them and bars
between alternatives. Groups that are open are kept on a stack while what is in them is read.
-/

namespace Bringup.Pattern

/-- Nodes one behind the other, under construction. -/
structure Series where
  start : Place
  /-- The nodes, the latest first. -/
  nodes : List Node := []

namespace Series

/-- Adds a node. -/
def push (series : Series) (node : Node) : Series :=
  { series with nodes := node :: series.nodes }

/-- The nodes as one, given where they stop. -/
def node (series : Series) (stop : Place) : Node :=
  .sequence ⟨series.start, stop⟩ series.nodes.reverse

end Series

/-- What is open where the cursor stands. -/
inductive Frame where
  /-- A group, with what stands in front of it and whether blanks were ignored there. -/
  | group (outer : Series) (span : Span) (captures : Bool) (changes : FlagChanges)
    (spaced : Bool)
  /-- Alternatives that were read, the latest first. -/
  | alternatives (start : Place) (branches : List Node)

/-- The flags by their letters. -/
def flagLetters : List (Char × Flag) :=
  [('i', .caseInsensitive), ('m', .multiLine), ('s', .dotMatchesNewLine), ('U', .swapGreed),
    ('u', .unicode), ('R', .crlf), ('x', .ignoreWhitespace)]

/-- A group or a change of flags. -/
inductive Opening where
  | flags (span : Span) (changes : FlagChanges)
  | group (span : Span) (captures : Bool) (changes : FlagChanges)

namespace Reader

open Reading

/-- Reads the letters of flags up to a colon or a bracket. `minus` is where a dash stood, if
one did, and the last argument tells whether the latest character was one. -/
def flagItems : (most : Nat) → (seen : List (Flag × Bool × Span)) → (minus : Option Span) →
    (dangling : Bool) → Reading FlagChanges
  | 0, seen, _, _ => pure (seen.reverse.map fun (flag, enabled, _) => (flag, enabled))
  | most + 1, seen, minus, dangling => do
    let span ← spanOfCurrent
    let goOn (seen : List (Flag × Bool × Span)) (minus : Option Span) (dangling : Bool) :
        Reading FlagChanges := do
      if !(← step) then complain .flagUnexpectedEnd (.point (← here))
      flagItems most seen minus dangling
    match ← current with
    | some '-' =>
      match minus with
      | some earlier => throw { reason := .flagRepeatedNegation, span, earlier }
      | none => goOn seen (some span) true
    | some c =>
      if c = ':' || c = ')' then
        if dangling then complain .flagDanglingNegation (minus.getD span)
        pure (seen.reverse.map fun (flag, enabled, _) => (flag, enabled))
      else
        match flagLetters.lookup c with
        | none => complain .flagUnrecognized span
        | some flag =>
          match seen.lookup flag with
          | some (_, earlier) => throw { reason := .flagDuplicate, span, earlier }
          | none => goOn ((flag, minus.isNone, span) :: seen) minus false
    | none => complain .flagUnexpectedEnd (.point (← here))

/-- Whether a character may stand in the name of a group, at its beginning or behind it. -/
def isNameChar (first : Bool) (c : Char) : Bool :=
  c == '_' || if first then Text.isLetter c
    else c ∈ ['.', '[', ']'] || Text.isLetterOrNumeral c

/-- Reads the name of a group, up to the angle behind it. -/
def groupName : Reading Unit := do
  let start ← here
  let first ← match ← current with
    | some c => if isNameChar true c then collectUpTo step (fun _ => true) 1 else pure []
    | none => pure []
  let more ← if first.isEmpty then pure [] else collect step (isNameChar false)
  match ← current with
  | none => complain .groupNameUnexpectedEnd (.point (← here))
  | some c => if c ≠ '>' then complain .groupNameInvalid (← spanOfCurrent)
  let span ← since start
  let _ ← step
  let name := first ++ more
  if name.isEmpty then complain .groupNameEmpty (.point start)
  match (← get).names.lookup name with
  | some earlier => throw { reason := .groupNameDuplicate, span, earlier }
  | none => modify fun cursor => { cursor with names := (name, span) :: cursor.names }

/-- Moves over the first of some texts that stands here, if any. -/
def acceptAny : List String → Reading Bool
  | [] => pure false
  | text :: rest => do if ← accept text then pure true else acceptAny rest

/-- Reads the beginning of a group, or a change of flags. -/
def opening : Reading Opening := do
  let span ← spanOfCurrent
  let _ ← next
  if ← acceptAny ["?=", "?!", "?<=", "?<!"] then complain .lookAround (← since span.start)
  let inner ← here
  if ← acceptAny ["?P<", "?<"] then
    groupName
    pure (.group span true [])
  else if ← accept "?" then
    if (← current).isNone then complain .groupUnclosed span
    let changes ← flagItems (← get).rest.length [] none false
    let closes := (← current) == some ')'
    let _ ← step
    if !closes then pure (.group span false changes)
    else if changes.isEmpty then complain .repetitionMissing (.point inner)
    else pure (.flags (← since span.start) changes)
  else pure (.group span true [])

/-- Opens a group, or changes flags. -/
def openGroup (frames : List Frame) (series : Series) : Reading (List Frame × Series) := do
  let spaced := (← get).spaced
  let setSpaced (changes : FlagChanges) : Reading Unit := modify fun cursor =>
    { cursor with spaced := (changes.state? .ignoreWhitespace).getD spaced }
  match ← opening with
  | .flags span changes =>
    setSpaced changes
    pure (frames, series.push (.flags span changes))
  | .group span captures changes =>
    setSpaced changes
    pure (.group series span captures changes spaced :: frames, { start := ← here })

/-- The alternatives that were read and the last one, which is complete now. -/
def gathered (frames : List Frame) (series : Series) (stop : Place) : Node × List Frame :=
  match frames with
  | .alternatives start branches :: rest =>
    (.oneOf ⟨start, stop⟩ (series.node stop :: branches).reverse, rest)
  | _ => (series.node stop, frames)

/-- Closes the innermost group. -/
def closeGroup (frames : List Frame) (series : Series) : Reading (List Frame × Series) := do
  let bracket ← spanOfCurrent
  let (node, frames) := gathered frames series bracket.start
  match frames with
  | .group outer span captures changes spaced :: rest =>
    modify fun cursor => { cursor.advance with spaced }
    pure (rest, outer.push (.group (← since span.start) captures changes node))
  | _ => complain .groupUnopened bracket

/-- Begins another alternative. -/
def alternate (frames : List Frame) (series : Series) : Reading (List Frame × Series) := do
  let node := series.node (← here)
  let _ ← step
  let fresh : Series := { start := ← here }
  match frames with
  | .alternatives start branches :: rest =>
    pure (.alternatives start (node :: branches) :: rest, fresh)
  | _ => pure (.alternatives series.start [node] :: frames, fresh)

/-- The node that a repetition stands behind, and those before it. -/
def repeatable (series : Series) : Reading (Node × Series) := do
  match series.nodes with
  | node :: before =>
    if node.isRepeatable then pure (node, { series with nodes := before })
    else complain .repetitionMissing (.point (← here))
  | [] => complain .repetitionMissing (.point (← here))

/-- Repeats the node, up to the cursor. -/
def repeating (node : Node) (series : Series) (least : Nat) (most : Option Nat) :
    Reading Series := do
  pure (series.push (.repeated (← since node.span.start) least most node))

/-- Reads a repetition that is written by one character, and perhaps a question mark. -/
def repetition (series : Series) (least : Nat) (most : Option Nat) : Reading Series := do
  let (node, series) ← repeatable series
  let _ ← step
  let _ ← accept "?"
  repeating node series least most

/-- Reads how often something is repeated; `start` is where the brace stands. -/
def counts (start : Place) : Reading (Nat × Option Nat) := do
  let unclosed {α : Type} : Reading α := do complain .repetitionCountUnclosed (← since start)
  if !(← next) then unclosed
  let least ← number
  match ← current with
  | none => unclosed
  | some ',' =>
    if !(← next) then unclosed
    if (← current) = some '\x7d' then pure (← ofResult least, none)
    else
      let least ← ofResult least
      pure (least, some (← ofResult (← number)))
  | some _ =>
    let count ← ofResult least
    pure (count, some count)

/-- Reads a repetition between braces. -/
def countedRepetition (series : Series) : Reading Series := do
  let start ← here
  let (node, series) ← repeatable series
  let (least, most) ← counts start
  if (← current) ≠ some '\x7d' then complain .repetitionCountUnclosed (← since start)
  let _ ← next
  let _ ← accept "?"
  if most.any (· < least) then complain .repetitionCountInvalid (← since start)
  repeating node series least most

/-- The whole pattern, now that it ends. -/
def finish (frames : List Frame) (series : Series) : Reading Node := do
  let (node, frames) := gathered frames series (← here)
  match frames with
  | .group _ span _ _ _ :: _ => complain .groupUnclosed span
  | _ => pure node

/-- Reads the rest of a pattern, part by part. -/
def parts : (most : Nat) → List Frame → Series → Reading Node
  | 0, frames, series => finish frames series
  | most + 1, frames, series => do
    modify Cursor.skipBlanks
    match ← current with
    | none => finish frames series
    | some '(' =>
      let (frames, series) ← openGroup frames series
      parts most frames series
    | some ')' =>
      let (frames, series) ← closeGroup frames series
      parts most frames series
    | some '|' =>
      let (frames, series) ← alternate frames series
      parts most frames series
    | some '[' => parts most frames (series.push (← Bracket.read))
    | some '?' => parts most frames (← repetition series 0 (some 1))
    | some '*' => parts most frames (← repetition series 0 none)
    | some '+' => parts most frames (← repetition series 1 none)
    | some '\x7b' => parts most frames (← countedRepetition series)
    | some c =>
      let atom ← Atom.read c
      parts most frames (series.push atom.node)

end Reader

/-- How deep parts of a pattern may stand in each other. -/
def nestLimit : Nat := 250

/-- One level further down, unless that is too deep. -/
def deeper (span : Span) (depth : Nat) : Except Complaint Nat :=
  if depth < nestLimit then .ok (depth + 1)
  else .error { reason := .nestLimitExceeded nestLimit, span }

mutual

/-- Checks that a class is not nested too deep. -/
def ClassNode.checkDepth (depth : Nat) : ClassNode → Except Complaint Unit
  | .bracketed span _ inner => do inner.checkDepth (← deeper span depth)
  | .union span items => do ClassNode.checkDepths (← deeper span depth) items
  | .combined span _ left right => do
    let depth ← deeper span depth
    left.checkDepth depth
    right.checkDepth depth
  | _ => .ok ()

/-- Checks classes from the first on. -/
def ClassNode.checkDepths (depth : Nat) : List ClassNode → Except Complaint Unit
  | [] => .ok ()
  | item :: rest => do
    item.checkDepth depth
    ClassNode.checkDepths depth rest

end

mutual

/-- Checks that a pattern is not nested too deep. -/
def Node.checkDepth (depth : Nat) : Node → Except Complaint Unit
  | .bracketed span _ inner => do inner.checkDepth (← deeper span depth)
  | .repeated span _ _ node => do node.checkDepth (← deeper span depth)
  | .group span _ _ node => do node.checkDepth (← deeper span depth)
  | .oneOf span branches => do Node.checkDepths (← deeper span depth) branches
  | .inOrder span nodes => do Node.checkDepths (← deeper span depth) nodes
  | _ => .ok ()

/-- Checks nodes from the first on. -/
def Node.checkDepths (depth : Nat) : List Node → Except Complaint Unit
  | [] => .ok ()
  | node :: rest => do
    node.checkDepth depth
    Node.checkDepths depth rest

end

/-- Reads a pattern. -/
def Node.read (pattern : List Char) : Except Complaint Node := do
  match (Reader.parts (pattern.length + 1) [] { start := {} }).run { rest := pattern } with
  | .ok node _ =>
    node.checkDepth 0
    pure node
  | .error complaint _ => throw complaint

end Bringup.Pattern
