import Bringup.Display.Surface
/-!
# Where drawing reaches

Drawing sets spans of pixels, row by row. A pixel outside of the spans keeps its colour
(`getElem?_fillRows_outside`), and all spans of a rectangle that is clipped to the screen end within
the screen. So no drawing call reaches a pixel past the screen (`Stroke.apply_past`).
-/

namespace Bringup

/-- Filling a span leaves the pixels before and behind it as they are. -/
theorem getElem?_fillSpan_outside {pixels : Array UInt16} {start count index : Nat} (color : UInt16)
    (outside : index < start ∨ start + count ≤ index) :
    (fillSpan pixels start color count)[index]? = pixels[index]? := by
  induction count generalizing pixels start with
  | zero => rfl
  | succ count ih =>
    have other : start ≠ index := by omega
    have later : index < start + 1 ∨ start + 1 + count ≤ index := by omega
    rw [fillSpan, ih later, Array.getElem?_setIfInBounds_ne other]

/-- Filling rows leaves the pixels outside of every span as they are. -/
theorem getElem?_fillRows_outside {pixels : Array UInt16} {start width rows index : Nat}
    (color : UInt16)
    (outside : ∀ row < rows, index < start + row * screenWidth ∨
      start + row * screenWidth + width ≤ index) :
    (fillRows pixels start width color rows)[index]? = pixels[index]? := by
  induction rows generalizing pixels start with
  | zero => rfl
  | succ rows ih =>
    have first : index < start ∨ start + width ≤ index := by
      have here := outside 0 (Nat.succ_pos rows)
      simpa using here
    have others : ∀ row < rows, index < start + screenWidth + row * screenWidth ∨
        start + screenWidth + row * screenWidth + width ≤ index := by
      intro row below
      have next := outside (row + 1) (Nat.succ_lt_succ below)
      rw [Nat.succ_mul] at next
      omega
    rw [fillRows, ih others, getElem?_fillSpan_outside color first]

/-- A call that draws on a surface. -/
inductive Stroke where
  | clear (color : UInt16)
  | rectangle (x y width height : Nat) (color : UInt16)
  deriving DecidableEq

/-- What a drawing call makes of a surface. -/
def Stroke.apply : Stroke → Surface → Surface
  | .clear color, surface => surface.clear color
  | .rectangle x y width height color, surface => surface.fillRectangle x y width height color

/-- No drawing call reaches a pixel past the screen. -/
theorem Stroke.apply_past (stroke : Stroke) (surface : Surface) {index : Nat}
    (past : screenPixels ≤ index) :
    (stroke.apply surface).pixels[index]? = surface.pixels[index]? := by
  cases stroke with
  | clear color =>
    have behind : 0 + screenPixels ≤ index := by rwa [Nat.zero_add]
    rw [apply, Surface.clear, getElem?_fillSpan_outside color (.inr behind)]
  | rectangle x y width height color =>
    apply getElem?_fillRows_outside
    intro row below
    simp only [screenPixels, screenWidth, screenHeight] at past below ⊢
    omega

end Bringup
