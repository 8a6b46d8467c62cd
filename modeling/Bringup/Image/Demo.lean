import Bringup.Board.Breather
import Bringup.Board.Panel
import Bringup.Board.Transmitter
import Bringup.Image.Platform
/-!
# The demonstration image

The demonstration brings up the transmitter and shows a box that bounces on the screen while
an LED breathes. It says how long its first frame took.
-/

namespace Bringup.Demo

variable {σ ε : Type}

/-- The image, as the log names it. -/
def logTarget : String := "demo"

/-- Cycles between two frames. -/
def pacingCycles : UInt64 := 1000

/-- The size of the box. -/
def boxSize : Nat := 150

/-- Brings up the transmitter and says how that went. -/
def bringUp (platform : Platform σ ε) : EStateM (Halt ε) σ Unit := do
  let pins := Panel.pins platform.registers platform.clock
  let state ← get
  match Transmitter.bringUp pins platform.clock.spin state with
  | .ok _ state =>
    set state
    platform.log ⟨.info, logTarget, "HDMI transmitter ready"⟩
  | .error (.failed error) state =>
    set state
    platform.log ⟨.error, logTarget, "HDMI transmitter: " ++ error.message⟩
  | .error (.device error) state =>
    set state
    throw (.device error)

/-- When a frame was begun, cleared and drawn. -/
structure Timing where
  start : UInt64
  cleared : UInt64
  drawn : UInt64

/-- The lines that say how long a frame took. -/
def Timing.lines (timing : Timing) : List String :=
  let line (what : String) (cycles : UInt64) := what ++ " cycles: " ++ Text.decimal cycles.toNat
  [line "Total frame" (timing.drawn - timing.start), line "Clear" (timing.cleared - timing.start),
    line "Box" (timing.drawn - timing.cleared)]

/-- What moves from frame to frame. -/
structure Scene where
  display : Display
  box : BouncingBox
  breather : Breather

/-- Draws the next frame. -/
def drawFrame (platform : Platform σ ε) (scene : Scene) :
    EStateM (Halt ε) σ (Scene × Timing) := do
  let start ← platform.cycles
  let display := scene.display.draw (·.clear black)
  let cleared ← platform.cycles
  let box ← Board.checked scene.box.step
  let display := display.draw fun surface => box.draw surface white
  let drawn ← platform.cycles
  pure ({ scene with display, box }, ⟨start, cleared, drawn⟩)

/-- Shows so many frames. The timing of the first is said if `first`. -/
def animate (platform : Platform σ ε) : (frames : Nat) → (first : Bool) → Scene →
    EStateM (Halt ε) σ Unit
  | 0, _, _ => pure ()
  | frames + 1, first, scene => do
    platform.spin pacingCycles
    let (lit, breather) ← Board.checked scene.breather.tick
    platform.setLeds (if lit then 1 else 0)
    let (scene, timing) ← drawFrame platform { scene with breather }
    if first then platform.printLines timing.lines
    let display ← scene.display.swap platform.scanout platform.patience true
    animate platform frames false { scene with display }

/-- Runs the demonstration. -/
def run (platform : Platform σ ε) (frames : Nat) : EStateM (Halt ε) σ Unit := do
  bringUp platform
  let frame (address : UInt32) :=
    Board.checked (Display.frameOf address (Array.replicate screenPixels 0))
  let display ← Display.start platform.scanout (← frame 0) (← frame 1)
  animate platform frames true ⟨display, .ofSize boxSize, .initial⟩

end Bringup.Demo
