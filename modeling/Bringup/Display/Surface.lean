import Bringup.Word.Checked
/-!
# Drawing surfaces

A surface holds at least one screen of pixels, row by row from the top. Drawing clips to the
screen and never touches what lies past it.
-/

namespace Bringup

/-- Pixels in a row of the screen. -/
def screenWidth : Nat := 320

/-- Rows of the screen. -/
def screenHeight : Nat := 240

/-- Pixels of the screen. -/
def screenPixels : Nat := screenWidth * screenHeight

/-- A colour of five bits of red, six of green and five of blue, from the low bits of each. -/
def rgb565 (red green blue : UInt8) : UInt16 :=
  ((red.toUInt16 &&& 0x1f) <<< 11) ||| ((green.toUInt16 &&& 0x3f) <<< 5)
    ||| (blue.toUInt16 &&& 0x1f)

/-- All colours at their brightest. -/
def white : UInt16 := rgb565 31 63 31

/-- No colour. -/
def black : UInt16 := 0

/-- Sets `count` pixels from `start` on. -/
def fillSpan (pixels : Array UInt16) (start : Nat) (color : UInt16) : (count : Nat) → Array UInt16
  | 0 => pixels
  | count + 1 => fillSpan (pixels.setIfInBounds start color) (start + 1) color count

/-- Filling keeps the number of pixels. -/
@[simp] theorem size_fillSpan (pixels : Array UInt16) (start : Nat) (color : UInt16)
    (count : Nat) : (fillSpan pixels start color count).size = pixels.size := by
  induction count generalizing pixels start with
  | zero => rfl
  | succ count ih => simp [fillSpan, ih]

/-- Sets `width` pixels of each of `rows` rows, the first of which begins at `start`. -/
def fillRows (pixels : Array UInt16) (start width : Nat) (color : UInt16) :
    (rows : Nat) → Array UInt16
  | 0 => pixels
  | rows + 1 => fillRows (fillSpan pixels start color width) (start + screenWidth) width color rows

/-- Filling rows keeps the number of pixels. -/
@[simp] theorem size_fillRows (pixels : Array UInt16) (start width : Nat) (color : UInt16)
    (rows : Nat) : (fillRows pixels start width color rows).size = pixels.size := by
  induction rows generalizing pixels start with
  | zero => rfl
  | succ rows ih => simp [fillRows, ih]

/-- A surface to draw on. -/
structure Surface where
  pixels : Array UInt16
  /-- There is a whole screen of pixels. -/
  screen_le_size : screenPixels ≤ pixels.size

namespace Surface

/-- A surface of these pixels, if there are enough of them. -/
def ofPixels? (pixels : Array UInt16) : Option Surface :=
  if h : screenPixels ≤ pixels.size then some ⟨pixels, h⟩ else none

/-- A surface of these pixels; too few of them are a fault. -/
def ofPixels (pixels : Array UInt16) : Except Fault Surface :=
  match ofPixels? pixels with
  | some surface => .ok surface
  | none => .error .surfaceTooSmall

/-- Gives the whole screen one colour. -/
def clear (surface : Surface) (color : UInt16) : Surface where
  pixels := fillSpan surface.pixels 0 color screenPixels
  screen_le_size := by simpa using surface.screen_le_size

/-- The colour of a pixel of the screen. -/
def pixel? (surface : Surface) (x y : Nat) : Option UInt16 :=
  if x < screenWidth ∧ y < screenHeight then surface.pixels[y * screenWidth + x]? else none

/-- Gives the part of a rectangle that lies on the screen one colour. -/
def fillRectangle (surface : Surface) (x y width height : Nat) (color : UInt16) : Surface where
  pixels :=
    fillRows surface.pixels (y * screenWidth + x) (min (x + width) screenWidth - x) color
      (min (y + height) screenHeight - y)
  screen_le_size := by simpa using surface.screen_le_size

end Surface

end Bringup
