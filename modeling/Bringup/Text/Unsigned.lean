/-!
# Reading unsigned numbers

A number is an optional plus sign and one or more digits. Digits are read from the left
and the first problem is reported: at one digit a wrong character comes before a value
that is too large.
-/

namespace Bringup.Text

/-- Why a text is no unsigned number of the wanted size. -/
inductive NumberError where
  /-- There is no character at all. -/
  | empty
  /-- A character is no digit of the radix, or a sign stands alone. -/
  | invalidDigit
  /-- The value lies past the largest one allowed. -/
  | overflow
  deriving DecidableEq, Repr

/-- The wording of a number error. -/
def NumberError.message : NumberError → String
  | .empty => "cannot parse integer from empty string"
  | .invalidDigit => "invalid digit found in string"
  | .overflow => "number too large to fit in target type"

/-- The value of a digit in a radix up to 16. -/
def digitValue? (radix : Nat) (c : Char) : Option Nat :=
  let value :=
    if '0' ≤ c ∧ c ≤ '9' then some (c.toNat - '0'.toNat)
    else if 'a' ≤ c ∧ c ≤ 'f' then some (c.toNat - 'a'.toNat + 10)
    else if 'A' ≤ c ∧ c ≤ 'F' then some (c.toNat - 'A'.toNat + 10)
    else none
  value.filter (· < radix)

/-- Appends digits to the value read so far, which must stay below `bound`. -/
def appendDigits (radix bound : Nat) : (value : Nat) → List Char → Except NumberError Nat
  | value, [] => .ok value
  | value, c :: rest =>
    match digitValue? radix c with
    | none => .error .invalidDigit
    | some digit =>
      if value * radix + digit < bound then appendDigits radix bound (value * radix + digit) rest
      else .error .overflow

/-- Reads an unsigned number below `bound`. -/
def readUnsigned (radix bound : Nat) (text : List Char) : Except NumberError Nat :=
  match text with
  | [] => .error .empty
  | ['+'] => .error .invalidDigit
  | '+' :: rest => appendDigits radix bound 0 rest
  | _ => appendDigits radix bound 0 text

/-- Reads a 32-bit word. -/
def readWord32 (radix : Nat) (text : List Char) : Except NumberError UInt32 :=
  (readUnsigned radix UInt32.size text).map UInt32.ofNat

/-- Reads a word as it is written on a command line: decimal, or hexadecimal behind `0x`
or `0X`. Underscores may stand anywhere and mean nothing. -/
def readLooseWord32 (text : String) : Except NumberError UInt32 :=
  match text.toList.filter (· ≠ '_') with
  | '0' :: 'x' :: rest => readWord32 16 rest
  | '0' :: 'X' :: rest => readWord32 16 rest
  | rest => readWord32 10 rest

end Bringup.Text
