import Std.Data.HashMap
/-!
# Word memory

A memory of 64-bit words that are all zero at first. Only the words that were written are
stored, so a large memory costs nothing until it is used. The enable bits of a write say
which of the eight bytes of a word it changes.
-/

namespace Bringup

/-- A memory of `words` words. -/
structure Memory where
  words : Nat
  written : Std.HashMap Nat UInt64

namespace Memory

/-- A memory of zeros. -/
def zeros (words : Nat) : Memory := ⟨words, ∅⟩

/-- The word at an address. -/
def get (memory : Memory) (address : Nat) : UInt64 := memory.written.getD address 0

/-- Replaces the word at an address. -/
def set (memory : Memory) (address : Nat) (word : UInt64) : Memory :=
  { memory with written := memory.written.insert address word }

/-- A fresh memory holds zeros. -/
@[simp] theorem get_zeros (words address : Nat) : (zeros words).get address = 0 := by
  simp [get, zeros]

/-- A word that was replaced is the new one; the others stay. -/
theorem get_set (memory : Memory) (address other : Nat) (word : UInt64) :
    (memory.set address word).get other = if address = other then word else memory.get other := by
  simp [get, set, Std.HashMap.getD_insert]

end Memory

/-- The bits of the bytes that are enabled. Bits past the eighth enable nothing. -/
def byteMask (byteEnable : UInt32) : UInt64 :=
  (List.range 8).foldl
    (fun mask index =>
      if byteEnable >>> UInt32.ofNat index &&& 1 = 1
      then mask ||| (0xff <<< UInt64.ofNat (8 * index)) else mask) 0

/-- The old word with the enabled bytes taken from the new one. -/
def mergeBytes (byteEnable : UInt32) (old new : UInt64) : UInt64 :=
  let mask := byteMask byteEnable
  (old &&& ~~~mask) ||| (new &&& mask)

end Bringup
