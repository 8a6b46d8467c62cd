import Bringup.Log
import Bringup.Part
import Bringup.Wire.Message
/-!
# The board as the host sees it

A device is a running board at the other end of a line: bytes can be read one at a time,
written and pushed out. Seen as a stream it carries the wire protocol, so what a device sends
and receives is encoded as on the board.
-/

namespace Bringup

/-- Why the host cannot go on talking to the board. -/
inductive DeviceError where
  /-- The system refused a transfer, for this cause. -/
  | io (cause : String)
  /-- The system refused to set up a serial port, for this cause. -/
  | serial (cause : String)
  /-- The port runs at another rate than was asked for. -/
  | baudRate (requested actual : UInt32)
  /-- The line ended. -/
  | closed
  /-- The board sent a message that has no place here. -/
  | unrecognized
  /-- The board sent a command that there is not. -/
  | unknownMessage (command : UInt8)
  deriving DecidableEq, Repr

namespace DeviceError

/-- The kind of a device error. -/
def kind : DeviceError → String
  | .io _ => "Io"
  | .serial _ => "Serial"
  | .baudRate _ _ => "BaudRate"
  | .closed => "Closed"
  | .unrecognized => "Unrecognized"
  | .unknownMessage _ => "UnknownMessage"

/-- The wording of a device error. -/
def message : DeviceError → String
  | .io cause => "I/O error: " ++ cause
  | .serial cause => "serial port error: " ++ cause
  | .baudRate requested actual =>
    "unable to achieve baud rate " ++ Text.decimal requested.toNat
      ++ " (got " ++ Text.decimal actual.toNat ++ ")"
  | .closed => "device closed the connection"
  | .unrecognized => "unexpected message from device"
  | .unknownMessage command => "unknown device message " ++ Text.markedHex 2 command.toNat

/-- The wording of a device error, followed by that of the cause below it. -/
def chain (error : DeviceError) : List String :=
  error.message :: match error with
    | .io cause | .serial cause => [cause]
    | _ => []

/-- A stream over a device that ends has lost its line. -/
def ofTransfer : TransferError DeviceError → DeviceError
  | .unexpectedEnd => .closed
  | .device error => error

/-- What a message that could not be decoded means for the line. -/
def ofDecode : DecodeError DeviceError → DeviceError
  | .unknown command => .unknownMessage command
  | .transfer error => ofTransfer error

end DeviceError

/-- A board at the other end of a line, over a state `σ`. -/
structure Device (σ : Type) where
  readByte : EStateM DeviceError σ UInt8
  writeBytes : List UInt8 → EStateM DeviceError σ Unit
  /-- Pushes out what was written. -/
  flush : EStateM DeviceError σ Unit
  /-- A bound on the bytes that can still be read. -/
  pending : σ → Nat

namespace Device

variable {σ τ : Type}

/-- Writes bytes one at a time, up to the first that fails. -/
def eachByte (writeByte : UInt8 → EStateM DeviceError σ Unit) :
    List UInt8 → EStateM DeviceError σ Unit
  | [] => pure ()
  | byte :: rest => do
    writeByte byte
    eachByte writeByte rest

/-- A device over a part of a state is a device over the whole. -/
def onPart (device : Device τ) (place : Part σ τ) : Device σ where
  readByte := place.run device.readByte
  writeBytes bytes := place.run (device.writeBytes bytes)
  flush := place.run device.flush
  pending state := device.pending (place.get state)

/-- Reads a 32-bit word. -/
def readWord32 (device : Device σ) : EStateM DeviceError σ UInt32 := do
  let a ← device.readByte
  let b ← device.readByte
  let c ← device.readByte
  let d ← device.readByte
  pure (LittleEndian.word32 [a, b, c, d])

/-- Writes a 32-bit word. -/
def writeWord32 (device : Device σ) (word : UInt32) : EStateM DeviceError σ Unit :=
  device.writeBytes (LittleEndian.bytes32 word)

/-- The device as a stream: a read gives one byte, a write takes all. -/
def link (device : Device σ) : ByteStream σ DeviceError where
  read want := if want = 0 then pure [] else do pure [← device.readByte]
  write bytes := do
    device.writeBytes bytes
    pure bytes.length
  flush := device.flush
  pending := device.pending

/-- Receives a message of the board. A name is cut at `capacity` bytes. -/
def receive (device : Device σ) (capacity : Nat) : EStateM DeviceError σ Message :=
  EStateM.adaptExcept DeviceError.ofDecode (Message.receive device.link capacity)

end Device

/-- A device that replays a fixed input and keeps what is written to it. -/
structure Replay where
  unread : List UInt8
  written : Array UInt8 := #[]
  /-- How many more reads may be tried before the reading side is gone. -/
  readsLeft : Option Nat := none
  /-- How many more bytes may be written before the writing side is gone. -/
  writesLeft : Option Nat := none

namespace Replay

/-- Takes the next byte. A read past the end finds the line closed. -/
def readByte : EStateM DeviceError Replay UInt8 := fun replay =>
  if replay.readsLeft = some 0 then .error (.io "read side gone") replay
  else
    let replay := { replay with readsLeft := replay.readsLeft.map (· - 1) }
    match replay.unread with
    | byte :: unread => .ok byte { replay with unread }
    | [] => .error .closed replay

/-- Keeps a byte. -/
def writeByte (byte : UInt8) : EStateM DeviceError Replay Unit := fun replay =>
  if replay.writesLeft = some 0 then .error (.io "write side gone") replay
  else .ok () { replay with
    written := replay.written.push byte, writesLeft := replay.writesLeft.map (· - 1) }

/-- The device that replays. -/
def device : Device Replay where
  readByte := readByte
  writeBytes := Device.eachByte writeByte
  flush := pure ()
  pending replay := replay.unread.length

end Replay

end Bringup
