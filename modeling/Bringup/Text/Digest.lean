import Bringup.Text.Radix
import Bringup.Text.Utf8
import Bringup.Word.Crc32
/-!
# Digests of long lists

A list that is too long to be shown is described by its length, the CRC-32 of its content,
and its first and last entries.
-/

namespace Bringup.Text

/-- A list as it is shown: as a whole, or by a digest. -/
inductive Shown (α : Type) where
  | whole (entries : List α)
  | digest (count : Nat) (crc : UInt32) (head tail : List α)
  deriving Repr

/-- Shows at most `most` entries whole, and `edge` entries at each end otherwise. -/
def Shown.of {α : Type} (most edge : Nat) (crc : Array α → UInt32) (entries : Array α) : Shown α :=
  if entries.size ≤ most then .whole entries.toList
  else .digest entries.size (crc entries) (entries.toList.take edge)
    (entries.toList.drop (entries.size - edge))

/-- The CRC-32 of lines, each with a line feed behind it. -/
def crcOfLines (lines : Array String) : UInt32 :=
  Crc32.finish (lines.foldl
    (fun register line => Crc32.step ((utf8Bytes line).foldl Crc32.step register) 10) Crc32.start)

/-- Shows at most `most` lines whole, and a quarter as many at each end otherwise. -/
def Shown.ofLines (most : Nat) (lines : Array String) : Shown String :=
  .of most (most / 4) crcOfLines lines

/-- Shows at most 2048 bytes whole, and 32 at each end otherwise. -/
def Shown.ofBytes (bytes : List UInt8) : Shown UInt8 :=
  .of 2048 32 (fun bytes => Crc32.finish (bytes.foldl Crc32.step Crc32.start)) bytes.toArray

/-- Puts equal neighbours together, with how often they occur in a row. -/
def runLengths {α : Type} [DecidableEq α] : List α → List (α × Nat)
  | [] => []
  | entry :: rest =>
    match runLengths rest with
    | (next, count) :: runs =>
      if entry = next then (next, count + 1) :: runs else (entry, 1) :: (next, count) :: runs
    | [] => [(entry, 1)]

/-- The bytes written as pairs of hexadecimal digits. -/
def bytesOfHex : List Char → List UInt8
  | high :: low :: rest =>
    UInt8.ofNat (digitOf high * 16 + digitOf low) :: bytesOfHex rest
  | _ => []
where
  /-- The value of a digit, zero for a character that is none. -/
  digitOf (c : Char) : Nat :=
    if c.isDigit then c.toNat - '0'.toNat
    else if 'a' ≤ c ∧ c ≤ 'f' then c.toNat - 'a'.toNat + 10
    else if 'A' ≤ c ∧ c ≤ 'F' then c.toNat - 'A'.toNat + 10
    else 0

/-- The number written in hexadecimal digits. -/
def natOfHex (text : List Char) : Nat :=
  text.foldl (fun number c => number * 16 + bytesOfHex.digitOf c) 0

end Bringup.Text
