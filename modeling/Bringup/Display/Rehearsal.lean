import Bringup.Display.Buffering
/-!
# Rehearsing a display

Two black frames, a simulated display controller and a box to animate.
-/

namespace Bringup.Display

/-- A display on a simulated controller, with a box. -/
structure Rehearsal where
  scanout : SimulatedScanout
  display : Display
  box : BouncingBox

namespace Rehearsal

/-- An action on a display that is rehearsed. -/
abbrev Action (α : Type) : Type := EStateM (Halt Empty) Rehearsal α

/-- Starts with two frames of so many pixels, of which the second is shown. -/
def start (firstPixels secondPixels boxSize : Nat) : Except Fault Rehearsal := do
  let first ← frameOf 0 (Array.replicate firstPixels 0)
  let second ← frameOf 1 (Array.replicate secondPixels 0)
  pure ⟨⟨0, 0, #[second.address]⟩, ⟨first, second⟩, .ofSize boxSize⟩

/-- Acts on the controller and takes the display that results. -/
def acting (action : Rehearsal → EStateM (Halt Empty) SimulatedScanout (Display × BouncingBox)) :
    Action Unit := fun rehearsal =>
  match action rehearsal rehearsal.scanout with
  | .ok (display, box) scanout => .ok () ⟨scanout, display, box⟩
  | .error halt scanout => .error halt { rehearsal with scanout }

/-- More polls than it takes to see the vertical blank. -/
def patience (rehearsal : Rehearsal) : Nat := rehearsal.scanout.blankAfter + 1

/-- Shows the frame that was drawn. -/
def swap (vsync : Bool) : Action Unit := acting fun rehearsal => do
  let display ← rehearsal.display.swap SimulatedScanout.scanout rehearsal.patience vsync
  pure (display, rehearsal.box)

/-- Animates so many frames. -/
def animate (frames : Nat) : Action Unit := acting fun rehearsal =>
  animateTimes SimulatedScanout.scanout rehearsal.patience rehearsal.display rehearsal.box frames

/-- Draws on the frame that is not shown. -/
def draw (rehearsal : Rehearsal) (change : Surface → Surface) : Rehearsal :=
  { rehearsal with display := rehearsal.display.draw change }

/-- Lets the vertical blank come after so many polls from now on. -/
def blankAfter (rehearsal : Rehearsal) (polls : Nat) : Rehearsal :=
  { rehearsal with scanout := { rehearsal.scanout with polls := 0, blankAfter := polls } }

/-- Takes the addresses of the frames that were shown since this was last asked. -/
def takeShown : Action (List UInt32) := modifyGet fun rehearsal =>
  (rehearsal.scanout.published.toList,
    { rehearsal with scanout := { rehearsal.scanout with published := #[] } })

/-- The pixels of the first and of the second frame. -/
def pixels (rehearsal : Rehearsal) : Array UInt16 × Array UInt16 :=
  let back := rehearsal.display.back
  let front := rehearsal.display.front
  if back.address = 0 then (back.surface.pixels, front.surface.pixels)
  else (front.surface.pixels, back.surface.pixels)

end Rehearsal

end Bringup.Display
