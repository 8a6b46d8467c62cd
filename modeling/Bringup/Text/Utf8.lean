/-!
# Text as bytes

UTF-8 encoding of text, strict decoding, and decoding that puts U+FFFD in place of
each ill-formed part. A part is the longest beginning of a valid sequence that is
there, and one byte where even the first does not begin a sequence.
-/

namespace Bringup.Text

/-- The UTF-8 bytes of a text. -/
def utf8Bytes (text : String) : List UInt8 :=
  text.toList.flatMap String.utf8EncodeChar

/-- The character shown in place of an ill-formed part. -/
def replacementCharacter : Char := '\ufffd'

/-- Continuation bytes carry six payload bits below the mark `10`. -/
def isContinuation (byte : UInt8) : Bool := 0x80 ≤ byte && byte ≤ 0xbf

/-- The second bytes allowed after the first byte of a longer sequence. The bounds
exclude overlong forms, surrogates and values past the last code point. -/
def secondByteBounds (first : UInt8) : UInt8 × UInt8 :=
  if first == 0xe0 then (0xa0, 0xbf)
  else if first == 0xed then (0x80, 0x9f)
  else if first == 0xf0 then (0x90, 0xbf)
  else if first == 0xf4 then (0x80, 0x8f)
  else (0x80, 0xbf)

/-- How many bytes the sequence begun by a byte has; zero where none begins. -/
def sequenceLength (first : UInt8) : Nat :=
  if first < 0x80 then 1
  else if first < 0xc2 then 0
  else if first < 0xe0 then 2
  else if first < 0xf0 then 3
  else if first < 0xf5 then 4
  else 0

/-- The low six bits of a continuation byte, put below the bits read so far. -/
def appendPayload (bits : Nat) (byte : UInt8) : Nat := bits * 64 + byte.toNat % 64

/-- Reads one sequence from its first byte and the bytes behind it: the character, or
nothing for an ill-formed part, and how many of the bytes behind belong to it. -/
def scalarAt (first : UInt8) (behind : List UInt8) : Option Char × Nat :=
  let bounds := secondByteBounds first
  let inBounds (byte : UInt8) : Bool := bounds.1 ≤ byte && byte ≤ bounds.2
  match sequenceLength first with
  | 1 => (some (Char.ofNat first.toNat), 0)
  | 2 =>
    match behind with
    | second :: _ =>
      if isContinuation second then
        (some (Char.ofNat (appendPayload (first.toNat % 32) second)), 1)
      else (none, 0)
    | [] => (none, 0)
  | 3 =>
    match behind with
    | second :: third :: _ =>
      if inBounds second then
        if isContinuation third then
          (some (Char.ofNat (appendPayload (appendPayload (first.toNat % 16) second) third)), 2)
        else (none, 1)
      else (none, 0)
    | [second] => (none, if inBounds second then 1 else 0)
    | [] => (none, 0)
  | 4 =>
    match behind with
    | second :: third :: fourth :: _ =>
      if inBounds second then
        if isContinuation third then
          if isContinuation fourth then
            (some (Char.ofNat (appendPayload
              (appendPayload (appendPayload (first.toNat % 8) second) third) fourth)), 3)
          else (none, 2)
        else (none, 1)
      else (none, 0)
    | [second, third] =>
      (none, if inBounds second then (if isContinuation third then 2 else 1) else 0)
    | [second] => (none, if inBounds second then 1 else 0)
    | [] => (none, 0)
  | _ => (none, 0)

/-- The characters of a byte sequence, `none` for each ill-formed part. The budget is
the number of bytes: every part takes at least one. -/
def scalarsWithin : (budget : Nat) → List UInt8 → List (Option Char)
  | 0, _ => []
  | _ + 1, [] => []
  | budget + 1, first :: behind =>
    let part := scalarAt first behind
    part.1 :: scalarsWithin budget (behind.drop part.2)

/-- The characters of a byte sequence, `none` for each ill-formed part. -/
def scalars (bytes : List UInt8) : List (Option Char) := scalarsWithin bytes.length bytes

/-- Decodes bytes, with U+FFFD for each ill-formed part. -/
def decodeLossy (bytes : List UInt8) : String :=
  String.ofList ((scalars bytes).map (·.getD replacementCharacter))

/-- Decodes bytes that are well-formed as a whole. -/
def decodeStrict? (bytes : List UInt8) : Option String :=
  ((scalars bytes).mapM id).map String.ofList

end Bringup.Text
