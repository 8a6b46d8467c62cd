import Bringup.Text.Radix
import Bringup.Word.LittleEndian
/-!
# Byte streams

A byte stream reads and writes over a state `σ` and fails with errors of type `ε`. A read
of no bytes means that the stream has ended, and so does a write that takes none. The
state survives a failure, so what was transferred before it stays transferred.
-/

namespace Bringup

/-- A byte stream over a state `σ`. -/
structure ByteStream (σ ε : Type) where
  /-- Reads at most so many bytes; none means the end. -/
  read : Nat → EStateM ε σ (List UInt8)
  /-- Writes a beginning of the bytes and answers its length. -/
  write : List UInt8 → EStateM ε σ Nat
  /-- Hands on what was written. -/
  flush : EStateM ε σ Unit
  /-- A bound on the bytes that can still be read. -/
  pending : σ → Nat

/-- How a transfer of a wanted number of bytes fails. -/
inductive TransferError (ε : Type) where
  /-- The stream ended, or stopped taking bytes. -/
  | unexpectedEnd
  /-- The stream itself failed. -/
  | device (error : ε)
  deriving DecidableEq, Repr

/-- The wording of a transfer error, given that of the stream's own errors. -/
def TransferError.message {ε : Type} (device : ε → String) : TransferError ε → String
  | .unexpectedEnd => "stream ended mid-transfer"
  | .device error => device error

/-- A failed read together with the bytes that had arrived. -/
structure Shortfall (ε : Type) where
  received : List UInt8
  error : TransferError ε

/-- Puts bytes that arrived earlier in front of those of a shortfall. -/
def Shortfall.after {ε : Type} (bytes : List UInt8) (short : Shortfall ε) : Shortfall ε :=
  ⟨bytes ++ short.received, short.error⟩

namespace ByteStream

variable {σ ε : Type}

/-- Reads until `want` bytes have arrived. Each round but the last brings at least one, so
as many rounds as bytes are enough. -/
def gather (stream : ByteStream σ ε) : (rounds want : Nat) →
    EStateM (Shortfall ε) σ (List UInt8)
  | 0, _ => pure []
  | rounds + 1, want =>
    if want = 0 then pure [] else do
      let bytes ← EStateM.adaptExcept (fun error => ⟨[], .device error⟩) (stream.read want)
      if bytes.isEmpty then throw ⟨[], .unexpectedEnd⟩
      let rest ← EStateM.adaptExcept (Shortfall.after bytes)
        (gather stream rounds (want - bytes.length))
      pure (bytes ++ rest)

/-- Reads exactly so many bytes. -/
def readExact (stream : ByteStream σ ε) (want : Nat) : EStateM (Shortfall ε) σ (List UInt8) :=
  stream.gather want want

/-- Reads a field of so many bytes. -/
def readField (stream : ByteStream σ ε) (count : Nat) : EStateM (TransferError ε) σ (List UInt8) :=
  EStateM.adaptExcept Shortfall.error (stream.readExact count)

/-- Reads one byte. -/
def readByte (stream : ByteStream σ ε) : EStateM (TransferError ε) σ UInt8 :=
  (·.headD 0) <$> stream.readField 1

/-- Reads a 32-bit word. -/
def readWord32 (stream : ByteStream σ ε) : EStateM (TransferError ε) σ UInt32 :=
  LittleEndian.word32 <$> stream.readField 4

/-- Reads a 64-bit word. -/
def readWord64 (stream : ByteStream σ ε) : EStateM (TransferError ε) σ UInt64 :=
  LittleEndian.word64 <$> stream.readField 8

/-- Reads up to and including a zero byte and keeps the first `capacity` bytes before it.
Each round takes one byte of those pending. -/
def gatherCString (stream : ByteStream σ ε) : (rounds capacity : Nat) →
    EStateM (Shortfall ε) σ (List UInt8)
  | 0, _ => throw ⟨[], .unexpectedEnd⟩
  | rounds + 1, capacity => do
    let byte ← EStateM.adaptExcept (Shortfall.mk []) stream.readByte
    if byte = 0 then pure []
    else if capacity = 0 then gatherCString stream rounds 0
    else do
      let rest ← EStateM.adaptExcept (Shortfall.after [byte])
        (gatherCString stream rounds (capacity - 1))
      pure (byte :: rest)

/-- Reads a name that ends at a zero byte. Bytes past the capacity are read and dropped, so
that the next field starts where it should. -/
def readCString (stream : ByteStream σ ε) (capacity : Nat) :
    EStateM (Shortfall ε) σ (List UInt8) := do
  let state ← get
  stream.gatherCString (stream.pending state + 1) capacity

/-- Writes until all bytes are taken. Each round but the last takes at least one. -/
def putAll (stream : ByteStream σ ε) : (rounds : Nat) → List UInt8 →
    EStateM (TransferError ε) σ Unit
  | 0, _ => pure ()
  | rounds + 1, bytes =>
    if bytes.isEmpty then pure () else do
      let count ← EStateM.adaptExcept TransferError.device (stream.write bytes)
      if count = 0 then throw .unexpectedEnd
      putAll stream rounds (bytes.drop count)

/-- Writes all bytes. -/
def writeAll (stream : ByteStream σ ε) (bytes : List UInt8) : EStateM (TransferError ε) σ Unit :=
  stream.putAll bytes.length bytes

/-- Writes a 32-bit word. -/
def writeWord32 (stream : ByteStream σ ε) (word : UInt32) : EStateM (TransferError ε) σ Unit :=
  stream.writeAll (LittleEndian.bytes32 word)

/-- Writes a 64-bit word. -/
def writeWord64 (stream : ByteStream σ ε) (word : UInt64) : EStateM (TransferError ε) σ Unit :=
  stream.writeAll (LittleEndian.bytes64 word)

/-- Writes a name and the zero byte that ends it. -/
def writeCString (stream : ByteStream σ ε) (name : List UInt8) :
    EStateM (TransferError ε) σ Unit :=
  stream.writeAll (name ++ [0])

end ByteStream

end Bringup
