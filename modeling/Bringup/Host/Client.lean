import Bringup.Host.Device
import Bringup.Host.Screen
import Bringup.Text.Utf8
import Bringup.Wire.Request
/-!
# The monitor's client

Once the monitor has announced itself, the host sends it requests and reads the replies.
Console text that comes before the announcement is shown on a screen.
-/

namespace Bringup

/-- What a client of the monitor works with, over a state `σ`. -/
structure Client (σ : Type) where
  device : Device σ
  log : Logger σ Empty

namespace Client

variable {σ : Type}

/-- The part of the system that speaks to the monitor, as the log names it. -/
def logTarget : String := "xw_host::monitor"

/-- The most bytes kept of the name in a request that has no place here. -/
def maxName : Nat := 64

/-- Acts on a screen; its failure is one of the system. -/
def showing {α : Type} (action : EStateM String σ α) : EStateM DeviceError σ α :=
  EStateM.adaptExcept DeviceError.io action

/-- Handles at most `rounds` messages. -/
def awaitReady (client : Client σ) (screen : Screen σ) : (rounds : Nat) → EStateM DeviceError σ Unit
  | 0 => throw .closed
  | rounds + 1 => do
    match ← client.device.receive maxName with
    | .putc byte =>
      showing (screen.write [byte])
      awaitReady client screen rounds
    | .ready => showing screen.flush
    | .loadProgram name =>
      client.log.note ⟨.warn, logTarget,
        "device asked for " ++ Text.decodeLossy name ++ " while waiting for the monitor"⟩
      throw .unrecognized

/-- Shows console text until the monitor announces itself. -/
def waitReady (client : Client σ) (screen : Screen σ) : EStateM DeviceError σ Unit := do
  let state ← get
  client.awaitReady screen (client.device.pending state + 1)

/-- Sends a request. -/
def request (client : Client σ) (request : Request) : EStateM DeviceError σ Unit := do
  client.log.note ⟨.debug, logTarget, "request " ++ request.describe⟩
  EStateM.adaptExcept DeviceError.ofTransfer (request.send client.device.link)
  client.device.flush

/-- Writes a word of the board's memory. -/
def writeWord (client : Client σ) (address data : UInt32) : EStateM DeviceError σ Unit :=
  client.request (.writeWord address data)

/-- Reads a word of the board's memory. -/
def readWord (client : Client σ) (address : UInt32) : EStateM DeviceError σ UInt32 := do
  client.request (.readWord address)
  client.device.readWord32

/-- Writes the tile buffer. -/
def writeTile (client : Client σ) (tile : Tile) : EStateM DeviceError σ Unit :=
  client.request (.writeTile tile)

/-- Receives words one after the other. -/
def readWords (device : Device σ) : (count : Nat) → EStateM DeviceError σ (Array UInt32)
  | 0 => pure #[]
  | count + 1 => do
    let words ← readWords device count
    pure (words.push (← device.readWord32))

/-- Reads the tile buffer. -/
def readTile (client : Client σ) : EStateM DeviceError σ Tile := do
  client.request .readTile
  pure (Tile.ofWords (← readWords client.device tilePixels))

/-- Runs the rasterizer over the tile buffer and answers the cycles it took. -/
def rasterize (client : Client σ) : EStateM DeviceError σ UInt64 := do
  client.request .rasterize
  EStateM.adaptExcept DeviceError.ofTransfer client.device.link.readWord64

/-- Lets the monitor go on to the next frame. -/
def endFrame (client : Client σ) : EStateM DeviceError σ Unit :=
  client.request .endFrame

end Client

end Bringup
