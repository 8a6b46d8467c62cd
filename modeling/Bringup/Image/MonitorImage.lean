import Bringup.Image.Platform
import Bringup.Monitor.Frame
/-!
# The monitor image

The monitor serves frames over the UART, one after the other, with the board itself as the
target. Its log shares the line with the replies.
-/

namespace Bringup.MonitorImage

variable {σ ε : Type}

/-- The image, as the log names it. -/
def logTarget : String := "monitor"

/-- The board as the monitor acts on it. -/
def target (platform : Platform σ ε) : Target σ (Halt ε) where
  readWord address := Board.access (platform.registers.readWord address)
  writeWord address value := Board.access (platform.registers.writeWord address value)
  startRasterizer := Board.access (platform.registers.writeWord Board.rasterizer 1)
  rasterizerBusy := (· != 0) <$> Board.access (platform.registers.readWord Board.rasterizer)
  cycles := platform.cycles

/-- Serves one frame; says what went wrong with it, if anything. -/
def serveFrame (platform : Platform σ ε) :
    EStateM (Halt ε) σ (Option (TransferError (Halt ε))) := fun state =>
  match Monitor.serveFrame platform.uart (target platform) platform.log platform.patience state with
  | .ok _ state => .ok none state
  | .error .stalled state => .error .stalled state
  | .error (.transfer (.device halt)) state => .error halt state
  | .error (.transfer error) state => .ok (some error) state

/-- Serves so many frames; `served` were served before. -/
def serveFrames (platform : Platform σ ε) : (rounds : Nat) → (served : UInt32) →
    EStateM (Halt ε) σ Unit
  | 0, _ => pure ()
  | rounds + 1, served => do
    match ← serveFrame platform with
    | none =>
      let served := served + 1
      platform.log ⟨.debug, logTarget, "frame " ++ Text.decimal served.toNat ++ " done"⟩
      serveFrames platform rounds served
    | some error =>
      platform.log ⟨.warn, logTarget, "frame aborted: " ++ error.message (fun _ => "")⟩
      serveFrames platform rounds served

/-- Runs the monitor. -/
def run (platform : Platform σ ε) (rounds : Nat) : EStateM (Halt ε) σ Unit := do
  platform.printLine "Ready for commands!"
  serveFrames platform rounds 0

end Bringup.MonitorImage
