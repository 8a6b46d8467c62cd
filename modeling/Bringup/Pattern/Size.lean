import Bringup.Pattern.Expr
/-!
# The size of a pattern

A pattern is only accepted if the automata that recognise it in either direction are small
enough. An automaton reads bytes, so a set of characters beyond ASCII costs as much as the
byte sequences that encode its characters.
-/

namespace Bringup.Pattern

/-- Ranges of values, one for each part of a sequence. -/
abbrev Sequences : Type := List (List (Nat × Nat))

/-- The sequences of digits in base 64 of the numbers from one to another, of which all but
the first are a given number of digits below 64. -/
def digitSequences : (digits : Nat) → (first last : Nat) → Sequences
  | 0, first, last => [[(first, last)]]
  | digits + 1, first, last =>
    let unit := 64 ^ (digits + 1)
    let (high, low) := (first / unit, first % unit)
    let (top, rest) := (last / unit, last % unit)
    let under (lead : Nat) (tails : Sequences) : Sequences := tails.map ((lead, lead) :: ·)
    if high = top then under high (digitSequences digits low rest)
    else
      let whole := List.replicate (digits + 1) (0, 63)
      let start := if low = 0 then high else high + 1
      let stop := if rest + 1 = unit then top + 1 else top
      (if low = 0 then [] else under high (digitSequences digits low (unit - 1)))
        ++ (if start < stop then [(start, stop - 1) :: whole] else [])
        ++ (if rest + 1 = unit then [] else under top (digitSequences digits 0 rest))

/-- The code points that are encoded in one to four bytes, and what marks the first byte. -/
def encodingLengths : List (Nat × Nat × Nat × Nat) :=
  [(0, 0, 0x7f, 0), (1, 0x80, 0x7ff, 0xc0), (2, 0x800, 0xffff, 0xe0),
    (3, 0x10000, 0x10ffff, 0xf0)]

/-- Adds the mark to the first part of a sequence. -/
def marking (mark : Nat) : List (Nat × Nat) → List (Nat × Nat)
  | (first, last) :: rest => (first + mark, last + mark) :: rest
  | [] => []

/-- The byte sequences that encode the characters of a set, without the marks of the bytes
behind the first. -/
def CharSet.sequences (set : CharSet) : Sequences :=
  set.ranges.flatMap fun (first, last) =>
    encodingLengths.flatMap fun (digits, low, high, mark) =>
      if max first low ≤ min last high then
        (digitSequences digits (max first low) (min last high)).map (marking mark)
      else []

/-- The beginnings of a sequence. -/
def beginnings {α : Type} : List α → List (List α)
  | [] => []
  | a :: rest => [a] :: (beginnings rest).map (a :: ·)

/-- The most bytes that an automaton may take. -/
def sizeLimit : Nat := 10485760

/-- The bytes of a state. -/
def stateSize : Nat := 32

/-- The bytes of a transition to a set of bytes. -/
def transitionSize : Nat := 8

/-- The bytes of a transition that needs no input. -/
def branchSize : Nat := 4

/-- The bytes of a state with two transitions that need no input. -/
def forkSize : Nat := stateSize + 2 * branchSize

/-- The bytes that a set takes in the automaton that reads forwards or backwards. -/
def CharSet.cost (backwards : Bool) (set : CharSet) : Nat :=
  let sequences := set.sequences
  match set.ranges with
  | [] => stateSize
  | [(first, last)] =>
    if first = last then stateSize * sequences.flatten.length
    else if last < 0x80 then 2 * stateSize + transitionSize
    else costOf sequences
  | ranges =>
    if ranges.all fun (_, last) => decide (last < 0x80) then
      2 * stateSize + transitionSize * ranges.length
    else costOf sequences
where
  costOf (sequences : Sequences) : Nat :=
    if backwards then
      stateSize * (2 + ((sequences.flatMap beginnings).eraseDups).length)
        + branchSize * sequences.length
    else 2 * stateSize + transitionSize * sequences.length

mutual

/-- Whether an expression matches nothing but the empty text. -/
def Expr.isBlank : Expr → Bool
  | .empty => true
  | .look _ => true
  | .set _ => false
  | .repeated _ most inner => most = some 0 || inner.isBlank
  | .captured inner => inner.isBlank
  | .oneOf branches => Expr.areBlank branches
  | .inOrder parts => Expr.areBlank parts

/-- Whether none of some expressions matches anything but the empty text. -/
def Expr.areBlank : List Expr → Bool
  | [] => true
  | inner :: rest => inner.isBlank && Expr.areBlank rest

end

/-- The bytes of a repetition of an expression that takes `inner` bytes itself. -/
def repeatedCost (inner least : Nat) : (most : Option Nat) → Nat
  | none => max least 1 * inner + forkSize
  | some most =>
    if most = least then least * inner
    else if most = 1 then inner + forkSize + stateSize
    else max (least * inner) stateSize + stateSize + (most - least) * (inner + forkSize)

mutual

/-- The bytes that an expression takes in the automaton that reads forwards or backwards.
Only the former remembers matches. -/
def Expr.cost (backwards : Bool) : Expr → Nat
  | .empty => stateSize
  | .look _ => stateSize
  | .set members => members.cost backwards
  | .repeated least most inner =>
    if inner.isBlank then inner.cost backwards
    else repeatedCost (inner.cost backwards) least most
  | .captured inner => inner.cost backwards + (if backwards then 0 else 2 * stateSize)
  | .oneOf branches => 2 * stateSize + Expr.costs backwards branchSize branches
  | .inOrder parts => Expr.costs backwards 0 parts

/-- The bytes that expressions take, with so many more for each. -/
def Expr.costs (backwards : Bool) (more : Nat) : List Expr → Nat
  | [] => 0
  | inner :: rest => inner.cost backwards + more + Expr.costs backwards more rest

end

/-- The bytes of an automaton besides those of its expression: a loop in front that skips
what does not match, and a last state. -/
def frameCost : Nat := 4 * stateSize + 2 * branchSize + transitionSize

/-- Whether the automaton that reads forwards or backwards is small enough. -/
def Expr.fits (backwards : Bool) (inner : Expr) : Bool :=
  decide (frameCost + (Expr.captured inner).cost backwards ≤ sizeLimit)

mutual

/-- Whether an expression asks something of which nothing is known. -/
def Expr.asksUnknown : Expr → Bool
  | .look asked => asked == .unknownBoundary
  | .repeated _ _ inner => inner.asksUnknown
  | .captured inner => inner.asksUnknown
  | .oneOf branches => Expr.anyAsksUnknown branches
  | .inOrder parts => Expr.anyAsksUnknown parts
  | .empty => false
  | .set _ => false

/-- Whether one of some expressions asks something of which nothing is known. -/
def Expr.anyAsksUnknown : List Expr → Bool
  | [] => false
  | inner :: rest => inner.asksUnknown || Expr.anyAsksUnknown rest

end

end Bringup.Pattern
