import Bringup.Simulation.Design
import Bringup.Word.LittleEndian
/-!
# The program ROM

The ROM holds a program image with zeros behind it. Its words are little-endian, and their
addresses wrap around.
-/

namespace Bringup

/-- The size of the program ROM in bytes. -/
def programRomSize : Nat := 0x10000

/-- The content of the program ROM. -/
structure ProgramRom where
  image : Array UInt8
  size_le : image.size ≤ programRomSize

namespace ProgramRom

/-- The ROM that holds an image, if it fits. -/
def ofImage (image : Array UInt8) : Except SimulationError ProgramRom :=
  if fits : image.size ≤ programRomSize then .ok ⟨image, fits⟩
  else .error (.romTooLarge image.size programRomSize)

/-- A ROM of zeros. -/
def empty : ProgramRom := ⟨#[], Nat.zero_le _⟩

/-- A byte of the ROM. -/
def byte (rom : ProgramRom) (offset : Nat) : UInt8 := rom.image.getD offset 0

/-- The word at a word address. -/
def word (rom : ProgramRom) (address : UInt32) : UInt32 :=
  let offset := 4 * (address.toNat % (programRomSize / 4))
  LittleEndian.word32 [rom.byte offset, rom.byte (offset + 1), rom.byte (offset + 2),
    rom.byte (offset + 3)]

end ProgramRom

end Bringup
