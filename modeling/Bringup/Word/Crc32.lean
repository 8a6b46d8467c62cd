/-!
# CRC-32

The reflected cyclic redundancy check with polynomial `0xEDB88320`, initial value and
final exclusive-or of all ones. A table holds the effect of each byte; it is computed from
the bit step, so that the two cannot differ.
-/

namespace Bringup.Crc32

/-- The generator polynomial, lowest power in the highest bit. -/
def polynomial : UInt32 := 0xedb88320

/-- Takes one bit out of the register. -/
def shiftBit (register : UInt32) : UInt32 :=
  if register &&& 1 = 1 then (register >>> 1) ^^^ polynomial else register >>> 1

/-- Takes eight bits out of the register. -/
def shiftByte (register : UInt32) : UInt32 :=
  shiftBit (shiftBit (shiftBit (shiftBit (shiftBit (shiftBit (shiftBit (shiftBit register)))))))

/-- The effect of every low byte. -/
def table : Array UInt32 := Array.ofFn fun (index : Fin 256) => shiftByte (UInt32.ofNat index.val)

/-- The table has an entry for every byte. -/
theorem size_table : table.size = 256 := by simp [table]

/-- Takes a byte into the register. -/
def step (register : UInt32) (byte : UInt8) : UInt32 :=
  (register >>> 8) ^^^ table.getD ((register ^^^ byte.toUInt32) &&& 0xff).toNat 0

/-- The register before any byte. -/
def start : UInt32 := 0xffffffff

/-- The check value of a register. -/
def finish (register : UInt32) : UInt32 := register ^^^ 0xffffffff

/-- The CRC-32 of a byte sequence. -/
def checksum (bytes : List UInt8) : UInt32 := finish (bytes.foldl step start)

/-- Takes the two bytes of a little-endian half word into the register. -/
def stepHalf (register : UInt32) (half : UInt16) : UInt32 :=
  step (step register half.toUInt8) (half >>> 8).toUInt8

/-- The CRC-32 of half words written in little-endian order. -/
def checksumHalves (halves : Array UInt16) : UInt32 := finish (halves.foldl stepHalf start)

end Bringup.Crc32
