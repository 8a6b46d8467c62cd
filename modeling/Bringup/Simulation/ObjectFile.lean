import Bringup.Word.LittleEndian
/-!
# Files that are no libraries

A shared library is loaded from a file that begins with a header. Any other file is refused,
and the first part of its header that is not as it has to be is named.
-/

namespace Bringup.ObjectFile

/-- The size of the header. -/
def headerSize : Nat := 64

/-- The size of an entry of the table of segments. -/
def segmentSize : Nat := 56

/-- The number that so many bytes from an offset on stand for. -/
def field (content : List UInt8) (offset size : Nat) : Nat :=
  LittleEndian.natOfBytes ((content.drop offset).take size)

/-- What every such file begins with. -/
def magic : List UInt8 := [0x7f, 0x45, 0x4c, 0x46]

/-- The kinds of systems that a file may be made for. -/
def systems : List Nat := [0, 3]

/-- The versions of the interface to the second kind of system. -/
def systemVersions : Nat := 5

/-- The kinds of files that can be loaded: programs and libraries. -/
def loadableKinds : List Nat := [2, 3]

/-- The kind of processor. -/
def processor : Nat := 62

/-- The kind of a segment that is loaded. -/
def loadedSegment : Nat := 1

/-- Whether the table of segments lies within the file. -/
def holdsSegments (content : List UInt8) : Bool :=
  decide (field content 32 8 + segmentSize * field content 56 2 ≤ content.length)

/-- The kinds of the segments of a file. -/
def segmentKinds (content : List UInt8) : List Nat :=
  if holdsSegments content then
    (List.range (field content 56 2)).map fun index =>
      field content (field content 32 8 + segmentSize * index) 4
  else []

/-- What a file must not be, and what is said of it then, in the order in which it is looked
at. -/
def faults (content : List UInt8) : List (Bool × String) :=
  let byte (offset : Nat) : Nat := field content offset 1
  [(decide (content.length < headerSize), "file too short"),
    (content.take 4 != magic, "invalid ELF header"),
    (byte 4 != 2, "wrong ELF class: ELFCLASS32"),
    (byte 5 != 1, "ELF file data encoding not little-endian"),
    (byte 6 != 1, "ELF file version ident does not match current one"),
    (byte 7 ∉ systems, "ELF file OS ABI invalid"),
    (byte 8 != 0 && (byte 7 == 0 || decide (systemVersions ≤ byte 8)),
      "ELF file ABI version invalid"),
    (field content 9 7 != 0, "nonzero padding in e_ident"),
    (field content 20 4 != 1, "ELF file version does not match current one"),
    (field content 18 2 != processor,
      "cannot open shared object file: No such file or directory"),
    (field content 16 2 ∉ loadableKinds, "only ET_DYN and ET_EXEC can be loaded"),
    (field content 54 2 != segmentSize, "ELF file's phentsize not the expected size"),
    (!holdsSegments content, "cannot read file data"),
    (loadedSegment ∉ segmentKinds content, "object file has no loadable segments")]

/-- Why a file is no library. -/
def fault (content : List UInt8) : String :=
  (((faults content).find? Prod.fst).map Prod.snd).getD "object file has no dynamic section"

end Bringup.ObjectFile
