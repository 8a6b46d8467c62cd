import Bringup.Board.Registers
import Bringup.Display.Bouncing
/-!
# Double buffering

Of two frames one is shown and the other is drawn on. Swapping shows the drawn frame; with
`vsync` it first waits for the vertical blank, so that no frame is torn.
-/

namespace Bringup

/-- A surface and its address. -/
structure Frame where
  address : UInt32
  surface : Surface

/-- The display controller over a state `σ`. -/
structure Scanout (σ ε : Type) where
  inVerticalBlank : EStateM ε σ Bool
  /-- Shows a frame from now on. -/
  publish : Frame → EStateM ε σ Unit

/-- The frame that is drawn on and the frame that is shown. -/
structure Display where
  back : Frame
  front : Frame

namespace Display

variable {σ ε : Type}

/-- A frame of these pixels. -/
def frameOf (address : UInt32) (pixels : Array UInt16) : Except Fault Frame :=
  match Surface.ofPixels? pixels with
  | some surface => .ok ⟨address, surface⟩
  | none => .error .frameTooSmall

/-- Takes two frames and shows the second. -/
def start (scanout : Scanout σ ε) (first second : Frame) : EStateM (Halt ε) σ Display := do
  Board.access (scanout.publish second)
  pure ⟨first, second⟩

/-- Exchanges the roles of the frames. -/
def exchanged (display : Display) : Display := ⟨display.front, display.back⟩

/-- Draws on the back frame. -/
def draw (display : Display) (change : Surface → Surface) : Display :=
  { display with back := { display.back with surface := change display.back.surface } }

/-- Shows the frame that was drawn. -/
def swap (display : Display) (scanout : Scanout σ ε) (patience : Nat) (vsync : Bool) :
    EStateM (Halt ε) σ Display := do
  if vsync then Board.await scanout.inVerticalBlank patience
  let display := display.exchanged
  Board.access (scanout.publish display.front)
  pure display

/-- Draws a box, one step further, on a black screen and shows it. -/
def animate (display : Display) (scanout : Scanout σ ε) (patience : Nat) (box : BouncingBox) :
    EStateM (Halt ε) σ (Display × BouncingBox) := do
  let display := display.draw (·.clear black)
  let box ← Board.checked box.step
  let display := display.draw fun surface => box.draw surface white
  let display ← display.swap scanout patience true
  pure (display, box)

/-- Animates so many frames. -/
def animateTimes (scanout : Scanout σ ε) (patience : Nat) (display : Display)
    (box : BouncingBox) :
    (frames : Nat) → EStateM (Halt ε) σ (Display × BouncingBox)
  | 0 => pure (display, box)
  | frames + 1 => do
    let (display, box) ← display.animate scanout patience box
    animateTimes scanout patience display box frames

end Display

/-- A simulated display controller: the vertical blank comes after some polls, and the
addresses of published frames are kept. -/
structure SimulatedScanout where
  polls : Nat
  blankAfter : Nat
  published : Array UInt32
  deriving Repr

/-- The simulated controller as a scanout. -/
def SimulatedScanout.scanout {ε : Type} : Scanout SimulatedScanout ε where
  inVerticalBlank := modifyGet fun state =>
    (decide (state.blankAfter < state.polls + 1), { state with polls := state.polls + 1 })
  publish frame :=
    modify fun state => { state with published := state.published.push frame.address }

end Bringup
