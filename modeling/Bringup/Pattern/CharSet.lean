/-!
# Sets of characters

A set of characters is kept as ranges of code points, in order and with gaps between them.
The code points that stand for no character are in no set.
-/

namespace Bringup.Pattern

/-- A set of characters, as ranges from one code point to another. -/
structure CharSet where
  ranges : List (Nat × Nat)
  deriving DecidableEq, Repr

namespace CharSet

/-- The set of nothing. -/
def empty : CharSet := ⟨[]⟩

/-- The set of every character. -/
def all : CharSet := ⟨[(0, 0xd7ff), (0xe000, 0x10ffff)]⟩

/-- Whether a character is in the set. -/
def contains (set : CharSet) (c : Char) : Bool :=
  set.ranges.any fun (first, last) => decide (first ≤ c.toNat) && decide (c.toNat ≤ last)

/-- Whether nothing is in the set. -/
def isEmpty (set : CharSet) : Bool := set.ranges.isEmpty

/-- Puts a range among others, joined with those that it meets. -/
def insertRange (first last : Nat) : List (Nat × Nat) → List (Nat × Nat)
  | [] => [(first, last)]
  | (start, stop) :: rest =>
    if last + 1 < start then (first, last) :: (start, stop) :: rest
    else if stop + 1 < first then (start, stop) :: insertRange first last rest
    else insertRange (min first start) (max last stop) rest

/-- What two sets have in common. -/
def inter (left right : CharSet) : CharSet where
  ranges := left.ranges.flatMap fun (first, last) => right.ranges.filterMap fun (start, stop) =>
    if max first start ≤ min last stop then some (max first start, min last stop) else none

/-- What is in either of two sets. -/
def union (left right : CharSet) : CharSet where
  ranges := right.ranges.foldl (fun ranges (first, last) => insertRange first last ranges)
    left.ranges

/-- The characters of some ranges; a range whose end comes first is empty. -/
def ofRanges (ranges : List (Nat × Nat)) : CharSet :=
  inter all (union empty ⟨ranges.filter fun (first, last) => decide (first ≤ last)⟩)

/-- The set of one character. -/
def singleton (c : Char) : CharSet := ⟨[(c.toNat, c.toNat)]⟩

/-- The gaps between ranges, from a code point on. -/
def gaps (start : Nat) : List (Nat × Nat) → List (Nat × Nat)
  | [] => [(start, 0x10ffff)]
  | (first, last) :: rest =>
    (if start < first then [(start, first - 1)] else []) ++ gaps (last + 1) rest

/-- The characters that are not in a set. -/
def complement (set : CharSet) : CharSet := inter all ⟨gaps 0 set.ranges⟩

/-- What is in the first of two sets only. -/
def diff (left right : CharSet) : CharSet := inter left right.complement

/-- What is in one of two sets only. -/
def symmDiff (left right : CharSet) : CharSet := (left.diff right).union (right.diff left)

/-- The set with the other case of each of its ASCII letters. -/
def foldAscii (set : CharSet) : CharSet :=
  let moved (letters : Nat × Nat) (shift : Nat → Nat) : CharSet :=
    ⟨(set.inter ⟨[letters]⟩).ranges.map fun (first, last) => (shift first, shift last)⟩
  (set.union (moved (0x41, 0x5a) (· + 0x20))).union (moved (0x61, 0x7a) (· - 0x20))

end CharSet

end Bringup.Pattern
