import Bringup.Part
import Bringup.Wire.Message
import Bringup.Word.Crc32
/-!
# Sending a program to the board

The board asks for a program by name. The answer is the length of the image, the image and
its CRC-32. The board accepts the program only if it fits and the check value agrees.
-/

namespace Bringup.Program

variable {σ ε : Type}

/-- Why a program was not accepted. -/
inductive LoadError (ε : Type) where
  | tooLarge (length capacity : Nat)
  | wrongCrc (expected actual : UInt32)
  | transfer (error : TransferError ε)
  deriving DecidableEq, Repr

/-- The wording of a load error. -/
def LoadError.message (device : ε → String) : LoadError ε → String
  | .tooLarge length capacity =>
    "program is " ++ Text.decimal length ++ " bytes, only " ++ Text.decimal capacity
      ++ " bytes available"
  | .wrongCrc expected actual =>
    "program CRC failed (actual " ++ Text.hex 8 actual.toNat ++ ", expected "
      ++ Text.hex 8 expected.toNat ++ ")"
  | .transfer error => error.message device

/-- Asks for a program. -/
def request (stream : ByteStream σ ε) (name : List UInt8) : EStateM (TransferError ε) σ Unit :=
  (Message.loadProgram name).send stream

/-- The answer to a request: length, image and check value. -/
def encode (image : List UInt8) : List UInt8 :=
  LittleEndian.bytes32 (UInt32.ofNat image.length) ++ image
    ++ LittleEndian.bytes32 (Crc32.checksum image)

/-- Answers a request. -/
def serve (stream : ByteStream σ ε) (image : List UInt8) : EStateM (TransferError ε) σ Unit :=
  stream.writeAll (encode image)

/-- Receives `count` image bytes from position `index` on and hands each to `store` as it
arrives. Answers the check register after them. -/
def receiveImage (stream : ByteStream σ ε) (store : Nat → UInt8 → EStateM ε σ Unit) :
    (count index : Nat) → (register : UInt32) → EStateM (TransferError ε) σ UInt32
  | 0, _, register => pure register
  | count + 1, index, register => do
    let byte ← stream.readByte
    EStateM.adaptExcept TransferError.device (store index byte)
    receiveImage stream store count (index + 1) (Crc32.step register byte)

/-- Receives a program of at most `capacity` bytes and answers its length. Each image byte
is handed to `store` with its position; nothing is stored of a program that does not fit. -/
def load (stream : ByteStream σ ε) (capacity : Nat) (store : Nat → UInt8 → EStateM ε σ Unit) :
    EStateM (LoadError ε) σ Nat := do
  let length ← EStateM.adaptExcept LoadError.transfer stream.readWord32
  if capacity < length.toNat then throw (.tooLarge length.toNat capacity)
  let register ← EStateM.adaptExcept LoadError.transfer
    (receiveImage stream store length.toNat 0 Crc32.start)
  let expected ← EStateM.adaptExcept LoadError.transfer stream.readWord32
  let actual := Crc32.finish register
  if actual = expected then pure length.toNat else throw (.wrongCrc expected actual)

/-- A link, the memory a program is loaded into, and the bytes noticed on arrival. -/
structure Loading (σ : Type) where
  link : σ
  memory : Array UInt8
  seen : Array UInt8

/-- Keeps an image byte in memory and notices it. -/
def Loading.store (index : Nat) (byte : UInt8) : EStateM ε (Loading σ) Unit :=
  fun ⟨link, memory, seen⟩ => .ok () ⟨link, memory.setIfInBounds index byte, seen.push byte⟩

/-- The link. -/
def Loading.linkPart : Part (Loading σ) σ :=
  ⟨fun ⟨link, memory, seen⟩ => (link, fun link => ⟨link, memory, seen⟩)⟩

/-- Receives a program into memory. -/
def loadInto (stream : ByteStream σ ε) : EStateM (LoadError ε) (Loading σ) Nat := do
  load (Loading.linkPart.stream stream) (← get).memory.size Loading.store

end Bringup.Program
