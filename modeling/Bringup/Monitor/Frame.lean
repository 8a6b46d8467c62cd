import Bringup.Log
import Bringup.Monitor.Target
/-!
# Serving a frame

The monitor announces itself and carries out requests until the host ends the frame. A
command byte that it does not know is skipped. A request acts only when it has arrived as a
whole.

The loop is bounded by the bytes that can still arrive, since each request takes at least
one. Waiting for the rasterizer is bounded by `patience`, a number of polls; a rasterizer
that is busy for longer is reported as stalled.
-/

namespace Bringup.Monitor

variable {σ ε : Type}

/-- Why a frame was not served to its end. -/
inductive FrameError (ε : Type) where
  | transfer (error : TransferError ε)
  /-- The rasterizer was still busy when the patience ran out. -/
  | stalled
  deriving DecidableEq, Repr

/-- The part of the system that serves frames, as the log names it. -/
def logTarget : String := "proto_xw::monitor_proto"

/-- Lifts an action of the stream's own kind. -/
def acting {α : Type} (action : EStateM ε σ α) : EStateM (FrameError ε) σ α :=
  EStateM.adaptExcept (fun error => .transfer (.device error)) action

/-- Lifts a transfer. -/
def transferring {α : Type} (action : EStateM (TransferError ε) σ α) :
    EStateM (FrameError ε) σ α :=
  EStateM.adaptExcept .transfer action

/-- Polls the rasterizer until it is idle. -/
def awaitIdle (target : Target σ ε) : (patience : Nat) → EStateM (FrameError ε) σ Unit
  | 0 => throw .stalled
  | patience + 1 => do
    if ← acting target.rasterizerBusy then awaitIdle target patience else pure ()

/-- Runs the rasterizer and answers the cycles it took. -/
def rasterize (target : Target σ ε) (patience : Nat) : EStateM (FrameError ε) σ UInt64 := do
  let start ← acting target.cycles
  acting target.startRasterizer
  awaitIdle target patience
  let stop ← acting target.cycles
  pure (stop - start)

/-- Writes pixels to the tile buffer from position `index` on. -/
def writePixels (target : Target σ ε) : (index : Nat) → List UInt32 → EStateM ε σ Unit
  | _, [] => pure ()
  | index, pixel :: rest => do
    target.writeWord (tileAddress index) pixel
    writePixels target (index + 1) rest

/-- Reads `count` pixels of the tile buffer from position `index` on and sends each. -/
def sendPixels (stream : ByteStream σ ε) (target : Target σ ε) :
    (count index : Nat) → EStateM (FrameError ε) σ Unit
  | 0, _ => pure ()
  | count + 1, index => do
    let pixel ← acting (target.readWord (tileAddress index))
    transferring (stream.writeWord32 pixel)
    sendPixels stream target count (index + 1)

/-- Carries out one request; says whether the frame goes on. -/
def perform (stream : ByteStream σ ε) (target : Target σ ε) (patience : Nat) :
    Request → EStateM (FrameError ε) σ Bool
  | .writeWord address data => do
    acting (target.writeWord address data)
    pure true
  | .readWord address => do
    let data ← acting (target.readWord address)
    transferring (stream.writeWord32 data)
    pure true
  | .writeTile tile => do
    acting (writePixels target 0 tile.toList)
    pure true
  | .readTile => do
    sendPixels stream target tilePixels 0
    pure true
  | .rasterize => do
    let elapsed ← rasterize target patience
    transferring (stream.writeWord64 elapsed)
    pure true
  | .endFrame => pure false

/-- What came next on the stream: a request, or a command byte that is none. -/
def nextRequest (stream : ByteStream σ ε) : EStateM (FrameError ε) σ (UInt8 ⊕ Request) :=
  fun state =>
    match Request.receive stream state with
    | .ok request state => .ok (.inr request) state
    | .error (.unknown command) state => .ok (.inl command) state
    | .error (.transfer error) state => .error (.transfer error) state

/-- Carries out requests until the frame ends. -/
def serveRequests (stream : ByteStream σ ε) (target : Target σ ε) (log : Logger σ ε)
    (patience : Nat) : (rounds : Nat) → EStateM (FrameError ε) σ Unit
  | 0 => throw (.transfer .unexpectedEnd)
  | rounds + 1 => do
    match ← nextRequest stream with
    | .inl command =>
      acting (log ⟨.warn, logTarget,
        "skipping unknown request " ++ Text.markedHex 2 command.toNat⟩)
      serveRequests stream target log patience rounds
    | .inr request =>
      acting (log ⟨.trace, logTarget, "request: " ++ request.describe⟩)
      if ← perform stream target patience request then
        serveRequests stream target log patience rounds
      else pure ()

/-- Announces the monitor and serves one frame. -/
def serveFrame (stream : ByteStream σ ε) (target : Target σ ε) (log : Logger σ ε)
    (patience : Nat) : EStateM (FrameError ε) σ Unit := do
  transferring (Message.ready.send stream)
  let state ← get
  serveRequests stream target log patience (stream.pending state + 1)

end Bringup.Monitor
