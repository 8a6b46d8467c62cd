import Bringup.Board.I2c
/-!
# Bytes as bits

The bits of a byte are sent and received with the highest first. Appending the bits of a byte one by
one gives the byte, and eight bits are those of the byte that they make.
-/

namespace Bringup.I2c

/-- A byte with a bit appended to it. -/
def appendBit (byte : UInt8) (bit : Bool) : UInt8 := byte * 2 + (if bit then 1 else 0)

/-- The byte that bits make. -/
def byteOf (bits : List Bool) : UInt8 := bits.foldl appendBit 0

/-- A byte has eight bits. -/
@[simp] theorem length_bitsOf (byte : UInt8) : (bitsOf byte).length = 8 := rfl

/-- Every number below 256 is made by its bits. -/
theorem byteOf_bitsOf_lt : ∀ number < 256, byteOf (bitsOf (UInt8.ofNat number)) =
    UInt8.ofNat number := by
  decide +kernel

/-- A byte is made by its bits. -/
@[simp] theorem byteOf_bitsOf (byte : UInt8) : byteOf (bitsOf byte) = byte := by
  have same := byteOf_bitsOf_lt byte.toNat byte.toNat_lt
  rwa [UInt8.ofNat_toNat] at same

/-- Eight bits are those of the byte that they make. -/
theorem bitsOf_byteOf {bits : List Bool} (eight : bits.length = 8) :
    bitsOf (byteOf bits) = bits := by
  have all : ∀ a b c d e f g h : Bool,
      bitsOf (byteOf [a, b, c, d, e, f, g, h]) = [a, b, c, d, e, f, g, h] := by
    decide +kernel
  match bits, eight with
  | [a, b, c, d, e, f, g, h], _ => exact all a b c d e f g h

end Bringup.I2c
