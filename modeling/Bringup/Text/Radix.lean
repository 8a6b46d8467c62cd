/-!
# Numbers as digits

Unsigned numbers are printed in lower case, with an optional radix mark, and are
filled on the left to a least width. A width never cuts digits off.
-/

namespace Bringup.Text

/-- Fills a text on the left with `fill` until it has at least `width` characters. -/
def padLeft (width : Nat) (fill : Char) (text : String) : String :=
  String.ofList (List.replicate (width - text.length) fill ++ text.toList)

/-- The digits of a number in a radix from 2 to 16, with at least `width` of them. -/
def digits (radix width number : Nat) : String :=
  let shown := Nat.toDigits radix number
  String.ofList (List.replicate (width - shown.length) '0' ++ shown)

/-- Decimal digits, as few as possible. -/
def decimal (number : Nat) : String := digits 10 0 number

/-- Hexadecimal digits, at least `width` of them and no mark in front. -/
def hex (width number : Nat) : String := digits 16 width number

/-- Hexadecimal digits behind the mark `0x`, at least `width` of them. -/
def markedHex (width number : Nat) : String := "0x" ++ hex width number

/-- Binary digits behind the mark `0b`, at least `width` of them. -/
def markedBinary (width number : Nat) : String := "0b" ++ digits 2 width number

/-- Two hexadecimal digits for each byte, in order. -/
def hexBytes (bytes : List UInt8) : String :=
  bytes.foldl (fun text byte => text ++ hex 2 byte.toNat) ""

end Bringup.Text
