import Bringup.Wire.Message
/-!
# Requests to the monitor

The host writes and reads words of the board's memory, moves whole tiles, starts the
rasterizer and ends the frame. A request is a command byte and its little-endian fields.
-/

namespace Bringup

/-- The number of pixels in a tile. -/
def tilePixels : Nat := 256

/-- The pixels of a tile, in the order in which they are sent. -/
abbrev Tile : Type := Vector UInt32 tilePixels

namespace Tile

/-- The little-endian words of a byte sequence. -/
def wordsOfBytes : List UInt8 → List UInt32
  | a :: b :: c :: d :: rest => LittleEndian.word32 [a, b, c, d] :: wordsOfBytes rest
  | _ => []

/-- The tile made of these words, filled up with zeros. -/
def ofWords (words : Array UInt32) : Tile := Vector.ofFn fun index => words.getD index.val 0

/-- The tile whose pixels were sent as these bytes. -/
def ofBytes (bytes : List UInt8) : Tile := ofWords (wordsOfBytes bytes).toArray

/-- The bytes of a tile. -/
def encode (tile : Tile) : List UInt8 := tile.toList.flatMap LittleEndian.bytes32

end Tile

/-- A request of the host. -/
inductive Request where
  | writeWord (address data : UInt32)
  | readWord (address : UInt32)
  | writeTile (tile : Tile)
  | readTile
  | rasterize
  | endFrame
  deriving DecidableEq

namespace Request

variable {σ ε : Type}

/-- The request as a log shows it. -/
def describe : Request → String
  | .writeWord address data =>
    "WriteWord \x7b addr: " ++ Text.markedHex 8 address.toNat ++ ", data: "
      ++ Text.markedHex 8 data.toNat ++ " \x7d"
  | .readWord address => "ReadWord \x7b addr: " ++ Text.markedHex 8 address.toNat ++ " \x7d"
  | .writeTile _ => "WriteTile(..)"
  | .readTile => "ReadTile"
  | .rasterize => "Rasterize"
  | .endFrame => "EndFrame"

/-- The bytes of a request. -/
def encode : Request → List UInt8
  | .writeWord address data =>
    0x00 :: (LittleEndian.bytes32 address ++ LittleEndian.bytes32 data)
  | .readWord address => 0x01 :: LittleEndian.bytes32 address
  | .writeTile tile => 0x02 :: tile.encode
  | .readTile => [0x03]
  | .rasterize => [0x04]
  | .endFrame => [0x05]

/-- Sends a request. -/
def send (stream : ByteStream σ ε) (request : Request) : EStateM (TransferError ε) σ Unit :=
  stream.writeAll request.encode

/-- Receives a request. -/
def receive (stream : ByteStream σ ε) : EStateM (DecodeError ε) σ Request := do
  let command ← EStateM.adaptExcept DecodeError.transfer stream.readByte
  if command = 0x00 then EStateM.adaptExcept DecodeError.transfer do
    let address ← stream.readWord32
    let data ← stream.readWord32
    pure (writeWord address data)
  else if command = 0x01 then
    readWord <$> EStateM.adaptExcept DecodeError.transfer stream.readWord32
  else if command = 0x02 then
    (fun bytes => writeTile (Tile.ofBytes bytes)) <$>
      EStateM.adaptExcept DecodeError.transfer (stream.readField (4 * tilePixels))
  else if command = 0x03 then pure readTile
  else if command = 0x04 then pure rasterize
  else if command = 0x05 then pure endFrame
  else throw (.unknown command)

/-- The wording of a failure to decode a request. -/
def errorText (device : ε → String) : DecodeError ε → String
  | .unknown command => "unknown packet " ++ Text.markedHex 2 command.toNat
  | .transfer error => error.message device

end Request

end Bringup
