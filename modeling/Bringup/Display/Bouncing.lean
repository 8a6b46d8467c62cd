import Bringup.Display.Surface
/-!
# A bouncing box

A square moves one pixel per step along each axis and turns around at the edges of the
screen. A square that fills an axis does not move along it.
-/

namespace Bringup

/-- A position on an axis and the direction of travel. -/
structure Travel where
  position : Nat
  rising : Bool
  deriving DecidableEq, Repr

/-- The largest position that can be held. -/
def maxPosition : Nat := UInt64.size - 1

/-- Moves by one pixel between 0 and `limit`. -/
def Travel.step (travel : Travel) (limit : Nat) : Except Fault Travel :=
  if limit = 0 then .ok travel
  else if travel.rising then
    if travel.position < maxPosition then
      .ok ⟨travel.position + 1, travel.position + 1 ≠ limit⟩
    else .error .addOverflow
  else if travel.position = 0 then .error .subtractOverflow
  else .ok ⟨travel.position - 1, travel.position - 1 = 0⟩

/-- A square that bounces between the edges of the screen. -/
structure BouncingBox where
  x : Travel
  y : Travel
  size : Nat
  deriving DecidableEq, Repr

namespace BouncingBox

/-- A square in the corner of the screen, about to move away from it. -/
def ofSize (size : Nat) : BouncingBox := ⟨⟨0, true⟩, ⟨0, true⟩, size⟩

/-- The same square at another place. -/
def placeAt (box : BouncingBox) (x y : Nat) : BouncingBox :=
  { box with x := { box.x with position := x }, y := { box.y with position := y } }

/-- Moves the square by one step. -/
def step (box : BouncingBox) : Except Fault BouncingBox := do
  let x ← box.x.step (screenWidth - box.size)
  let y ← box.y.step (screenHeight - box.size)
  pure { box with x, y }

/-- Moves the square by so many steps. -/
def steps : (count : Nat) → BouncingBox → Except Fault BouncingBox
  | 0, box => .ok box
  | count + 1, box =>
    match box.step with
    | .ok box => steps count box
    | .error fault => .error fault

/-- Draws the square. -/
def draw (box : BouncingBox) (surface : Surface) (color : UInt16) : Surface :=
  surface.fillRectangle box.x.position box.y.position box.size box.size color

end BouncingBox

end Bringup
