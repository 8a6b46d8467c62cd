import Bringup.Stream.Basic
/-!
# Messages of the board

The board has one line to the host, so everything it sends begins with a command byte that
says how the rest is to be read: a console byte, a request for a program by name, or the
word that the monitor waits for requests.
-/

namespace Bringup

/-- Why no message could be decoded. An unknown command takes only its own byte. -/
inductive DecodeError (ε : Type) where
  | unknown (command : UInt8)
  | transfer (error : TransferError ε)
  deriving DecidableEq, Repr

/-- A message from the board to the host. -/
inductive Message where
  /-- One byte of console text. -/
  | putc (byte : UInt8)
  /-- The program of this name is wanted; the name has no zero byte. -/
  | loadProgram (name : List UInt8)
  /-- The monitor waits for requests. -/
  | ready
  deriving DecidableEq, Repr

namespace Message

variable {σ ε : Type}

/-- The bytes of a message. -/
def encode : Message → List UInt8
  | .putc byte => [0x00, byte]
  | .loadProgram name => 0x01 :: (name ++ [0])
  | .ready => [0x02]

/-- Sends a message. -/
def send (stream : ByteStream σ ε) (message : Message) : EStateM (TransferError ε) σ Unit :=
  stream.writeAll message.encode

/-- Receives a message. A name is cut at `capacity` bytes. -/
def receive (stream : ByteStream σ ε) (capacity : Nat) : EStateM (DecodeError ε) σ Message := do
  let command ← EStateM.adaptExcept DecodeError.transfer stream.readByte
  if command = 0x00 then
    putc <$> EStateM.adaptExcept DecodeError.transfer stream.readByte
  else if command = 0x01 then
    loadProgram <$> EStateM.adaptExcept (fun short => DecodeError.transfer short.error)
      (stream.readCString capacity)
  else if command = 0x02 then pure ready
  else throw (.unknown command)

/-- The wording of a failure to decode a message. -/
def errorText (device : ε → String) : DecodeError ε → String
  | .unknown command => "unknown device message " ++ Text.markedHex 2 command.toNat
  | .transfer error => error.message device

end Message

end Bringup
