import Mathlib.Data.Finset.Card
import Mathlib.Order.Interval.Finset.Nat
import Bringup.Proofs.Display.Drawing
/-!
# Filling a rectangle clips it exactly

A rectangle may begin anywhere and reach past any edge of the screen, even past the largest word.
Filling it sets the pixels that the screen and the rectangle have in common, and no others
(`Surface.getElem?_fillRectangle`). A machine fills it line by line, with sums that stop at the
largest word, and checks every bound. It never meets one that it has to refuse
(`Surface.fillChecked?_eq_some`).
-/

namespace Bringup

/-- The place of a pixel on the screen can be told from its number. -/
theorem place_exact {column : Nat} (row : Nat) (within : column < screenWidth) :
    (row * screenWidth + column) % screenWidth = column ∧
      (row * screenWidth + column) / screenWidth = row := by
  rw [screenWidth] at within ⊢
  omega

/-- A rectangle of pixels, of which some may lie off the screen. -/
structure Rectangle where
  x : Nat
  y : Nat
  width : Nat
  height : Nat
  deriving DecidableEq

namespace Rectangle

variable {rectangle : Rectangle}

/-- A pixel lies on the screen and in the rectangle. -/
def Covers (rectangle : Rectangle) (column row : Nat) : Prop :=
  (column < screenWidth ∧ row < screenHeight) ∧
    (rectangle.x ≤ column ∧ column < rectangle.x + rectangle.width) ∧
    (rectangle.y ≤ row ∧ row < rectangle.y + rectangle.height)

instance (rectangle : Rectangle) (column row : Nat) : Decidable (rectangle.Covers column row) :=
  inferInstanceAs (Decidable (_ ∧ _))

/-- A rectangle none of which lies off the screen. -/
def OnScreen (rectangle : Rectangle) : Prop :=
  rectangle.x + rectangle.width ≤ screenWidth ∧ rectangle.y + rectangle.height ≤ screenHeight

/-- The numbers of the pixels that a rectangle covers. -/
def reached (rectangle : Rectangle) : Finset Nat :=
  (Finset.range screenPixels).filter fun index =>
    rectangle.Covers (index % screenWidth) (index / screenWidth)

/-- A pixel is reached exactly if its place is covered. -/
theorem mem_reached {index : Nat} :
    index ∈ rectangle.reached ↔ rectangle.Covers (index % screenWidth) (index / screenWidth) := by
  rw [reached, Finset.mem_filter, Finset.mem_range, and_iff_right_iff_imp]
  rintro ⟨⟨-, above⟩, -⟩
  rw [screenPixels, Nat.mul_comm]
  exact (Nat.div_lt_iff_lt_mul (by decide)).1 above

/-- The places that a rectangle covers. -/
def part (rectangle : Rectangle) : Finset (Nat × Nat) :=
  Finset.Ico rectangle.x (min (rectangle.x + rectangle.width) screenWidth) ×ˢ
    Finset.Ico rectangle.y (min (rectangle.y + rectangle.height) screenHeight)

/-- They are the places on the screen and in the rectangle. -/
theorem mem_part {place : Nat × Nat} :
    place ∈ rectangle.part ↔ rectangle.Covers place.1 place.2 := by
  rw [part, Finset.mem_product, Finset.mem_Ico, Finset.mem_Ico, Covers]
  omega

/-- As many pixels are reached as the part of the rectangle on the screen is wide times high. -/
theorem card_reached (rectangle : Rectangle) : rectangle.reached.card =
    (min (rectangle.x + rectangle.width) screenWidth - rectangle.x) *
      (min (rectangle.y + rectangle.height) screenHeight - rectangle.y) := by
  have places : rectangle.reached.card = rectangle.part.card := by
    apply Finset.card_nbij' (fun index => (index % screenWidth, index / screenWidth))
      (fun place => place.2 * screenWidth + place.1)
    · intro index reached
      exact mem_part.2 (mem_reached.1 reached)
    · intro place inside
      have covered := mem_part.1 inside
      obtain ⟨same, line⟩ := place_exact place.2 covered.1.1
      apply mem_reached.2
      rwa [same, line]
    · intro index _
      exact Nat.div_add_mod' index screenWidth
    · intro place inside
      obtain ⟨same, line⟩ := place_exact place.2 (mem_part.1 inside).1.1
      exact Prod.ext same line
  rw [places, part, Finset.card_product, Nat.card_Ico, Nat.card_Ico]

/-- All pixels of a rectangle on the screen are reached. -/
theorem OnScreen.card_reached (inside : rectangle.OnScreen) :
    rectangle.reached.card = rectangle.width * rectangle.height := by
  rw [rectangle.card_reached, Nat.min_eq_left inside.1, Nat.min_eq_left inside.2,
    Nat.add_sub_cancel_left, Nat.add_sub_cancel_left]

end Rectangle

/-- Filling a span sets its pixels. -/
theorem getElem?_fillSpan_inside {pixels : Array UInt16} {start count index : Nat} (color : UInt16)
    (inside : start ≤ index ∧ index < start + count) (bounded : index < pixels.size) :
    (fillSpan pixels start color count)[index]? = some color := by
  induction count generalizing pixels start with
  | zero => omega
  | succ count ih =>
    rw [fillSpan]
    by_cases first : start = index
    · have passed : index < start + 1 ∨ start + 1 + count ≤ index := by omega
      rw [getElem?_fillSpan_outside color passed, first, Array.getElem?_setIfInBounds_self,
        if_pos bounded]
    · exact ih (by omega) (by rwa [Array.size_setIfInBounds])

/-- Filling rows sets the pixels of every span. -/
theorem getElem?_fillRows_inside {pixels : Array UInt16} {start width rows row index : Nat}
    (color : UInt16) (below : row < rows)
    (inside : start + row * screenWidth ≤ index ∧ index < start + row * screenWidth + width)
    (bounded : index < pixels.size) :
    (fillRows pixels start width color rows)[index]? = some color := by
  induction rows generalizing pixels start row with
  | zero => omega
  | succ rows ih =>
    rw [fillRows]
    -- A span further down may set the pixel again, but to the same colour.
    by_cases later : ∃ other < rows, start + screenWidth + other * screenWidth ≤ index ∧
        index < start + screenWidth + other * screenWidth + width
    · obtain ⟨other, above, covered⟩ := later
      exact ih above covered (by rwa [size_fillSpan])
    · have outside : ∀ other < rows, index < start + screenWidth + other * screenWidth ∨
          start + screenWidth + other * screenWidth + width ≤ index := by
        intro other above
        by_contra covered
        exact later ⟨other, above, by omega, by omega⟩
      rw [getElem?_fillRows_outside color outside]
      cases row with
      | zero => exact getElem?_fillSpan_inside color (by simpa using inside) bounded
      | succ row =>
        rw [Nat.succ_mul] at inside
        exact absurd ⟨row, by omega, by omega, by omega⟩ later

/-- Filling no pixel of any row changes nothing. -/
theorem fillRows_none (pixels : Array UInt16) (start : Nat) (color : UInt16) (rows : Nat) :
    fillRows pixels start 0 color rows = pixels := by
  induction rows generalizing start with
  | zero => rfl
  | succ rows ih => exact ih (start + screenWidth)

namespace Surface

/-- Filling a rectangle sets the pixels that it covers and leaves all others as they are, those past
the screen included. -/
theorem getElem?_fillRectangle (surface : Surface) (x y width height : Nat) (color : UInt16)
    (index : Nat) :
    (surface.fillRectangle x y width height color).pixels[index]? =
      if (Rectangle.mk x y width height).Covers (index % screenWidth) (index / screenWidth)
      then some color else surface.pixels[index]? := by
  have enough := surface.screen_le_size
  rw [fillRectangle]
  by_cases covered : (Rectangle.mk x y width height).Covers (index % screenWidth)
      (index / screenWidth)
  · rw [if_pos covered]
    obtain ⟨⟨-, above⟩, ⟨left, right⟩, top, bottom⟩ := covered
    dsimp only at left right top bottom
    -- The row of the pixel, counted from the top of the rectangle.
    have below : index / screenWidth - y < min (y + height) screenHeight - y := by omega
    have within : index % screenWidth < min (x + width) screenWidth := by
      rw [lt_min_iff]
      exact ⟨right, Nat.mod_lt _ (by decide)⟩
    simp only [screenPixels, screenWidth, screenHeight] at enough below within left top above ⊢
    have span : y * 320 + x + (index / 320 - y) * 320 ≤ index ∧
        index < y * 320 + x + (index / 320 - y) * 320 + (min (x + width) 320 - x) := by omega
    exact getElem?_fillRows_inside color below span (by omega)
  · rw [if_neg covered]
    apply getElem?_fillRows_outside
    intro row below
    by_contra within
    apply covered
    simp only [Rectangle.Covers, screenWidth, screenHeight] at below within ⊢
    omega

end Surface

/-- A number, if a word of the machine holds it. -/
def word? (number : Nat) : Option Nat := if number < USize.size then some number else none

/-- Words have 32 bits or more. -/
theorem word?_eq_some {number : Nat} (small : number < 2 ^ 32) : word? number = some number :=
  if_pos (Nat.lt_of_lt_of_le small USize.le_size)

/-- The sum of two words, or the largest word where none holds the sum. -/
def saturatingSum (a b : USize) : Nat := min (a.toNat + b.toNat) (USize.size - 1)

/-- What is cut at an edge of the screen is not cut by the word before. -/
theorem min_saturatingSum (a b : USize) {edge : Nat} (small : edge < 2 ^ 32) :
    min (saturatingSum a b) edge = min (a.toNat + b.toNat) edge := by
  have words := USize.le_size
  rw [saturatingSum]
  omega

/-- Sets the pixels of a row from one column to before another. The row is cut out of all pixels and
these pixels out of the row. What ends before it begins or behind what it is cut out of is refused,
and so is a bound that no word holds. -/
def fillLine? (pixels : Array UInt16) (row left right : Nat) (color : UInt16) :
    Option (Array UInt16) := do
  let first ← word? (row * screenWidth)
  let next ← word? (row + 1)
  let last ← word? (next * screenWidth)
  if (first ≤ last ∧ last ≤ pixels.size) ∧ left ≤ right ∧ right ≤ last - first then
    some (fillSpan pixels (first + left) color (right - left))
  else none

/-- Sets the pixels from one column to before another in so many rows. -/
def fillLines? (pixels : Array UInt16) (row left right : Nat) (color : UInt16) :
    (rows : Nat) → Option (Array UInt16)
  | 0 => some pixels
  | rows + 1 => do
    let pixels ← fillLine? pixels row left right color
    fillLines? pixels (row + 1) left right color rows

/-- In a row of the screen, no bound is refused. -/
theorem fillLine?_eq_some {pixels : Array UInt16} {row left right : Nat} (color : UInt16)
    (enough : screenPixels ≤ pixels.size) (above : row < screenHeight) (ordered : left ≤ right)
    (within : right ≤ screenWidth) : fillLine? pixels row left right color =
      some (fillSpan pixels (row * screenWidth + left) color (right - left)) := by
  simp only [screenPixels, screenWidth, screenHeight] at enough above within
  have bounds : (row * screenWidth ≤ (row + 1) * screenWidth ∧
      (row + 1) * screenWidth ≤ pixels.size) ∧
      left ≤ right ∧ right ≤ (row + 1) * screenWidth - row * screenWidth := by
    rw [screenWidth]
    omega
  have first : word? (row * screenWidth) = some (row * screenWidth) :=
    word?_eq_some (by rw [screenWidth]; omega)
  have next : word? (row + 1) = some (row + 1) := word?_eq_some (by omega)
  have last : word? ((row + 1) * screenWidth) = some ((row + 1) * screenWidth) :=
    word?_eq_some (by rw [screenWidth]; omega)
  simp only [fillLine?, first, next, last, Option.bind_eq_bind, Option.bind_some]
  exact if_pos bounds

/-- In rows of the screen, no bound is refused. -/
theorem fillLines?_eq_some {pixels : Array UInt16} {row left right rows : Nat} (color : UInt16)
    (enough : screenPixels ≤ pixels.size) (above : row + rows ≤ screenHeight)
    (ordered : left ≤ right) (within : right ≤ screenWidth) :
    fillLines? pixels row left right color rows =
      some (fillRows pixels (row * screenWidth + left) (right - left) color rows) := by
  induction rows generalizing pixels row with
  | zero => rfl
  | succ rows ih =>
    have next : (row + 1) * screenWidth + left = row * screenWidth + left + screenWidth := by
      rw [Nat.succ_mul]
      omega
    have line := fillLine?_eq_some color enough (show row < screenHeight by omega) ordered within
    rw [fillLines?, line, Option.bind_eq_bind, Option.bind_some, ih (by rwa [size_fillSpan])
      (by omega), fillRows, next]

/-- Gives the part of a rectangle that lies on the screen one colour, line by line. -/
def Surface.fillChecked? (surface : Surface) (x y width height : USize) (color : UInt16) :
    Option (Array UInt16) :=
  let right := min (saturatingSum x width) screenWidth
  let bottom := min (saturatingSum y height) screenHeight
  fillLines? surface.pixels y.toNat (min x.toNat right) right color (bottom - y.toNat)

namespace Surface

/-- No rectangle of words makes a bound that is refused, and the lines are those that the rectangle
has in common with the screen. -/
theorem fillChecked?_eq_some (surface : Surface) (x y width height : USize) (color : UInt16) :
    surface.fillChecked? x y width height color =
      some (surface.fillRectangle x.toNat y.toNat width.toNat height.toNat color).pixels := by
  have right := min_saturatingSum x width (show screenWidth < 2 ^ 32 by decide)
  have bottom := min_saturatingSum y height (show screenHeight < 2 ^ 32 by decide)
  rw [fillChecked?, right, bottom, fillRectangle]
  dsimp only
  generalize x.toNat + width.toNat = farRight
  generalize y.toNat + height.toNat = farDown
  by_cases high : min farDown screenHeight ≤ y.toNat
  · -- The rectangle is empty or below the screen: there is no row.
    rw [Nat.sub_eq_zero_of_le high]
    rfl
  · have above : y.toNat + (min farDown screenHeight - y.toNat) ≤ screenHeight := by omega
    rw [fillLines?_eq_some color surface.screen_le_size above (Nat.min_le_right _ _)
      (Nat.min_le_right _ _)]
    by_cases wide : x.toNat ≤ min farRight screenWidth
    · rw [Nat.min_eq_left wide]
    · -- The rectangle is to the right of the screen: no row has a pixel.
      have nothing : min farRight screenWidth - x.toNat = 0 := by omega
      have cut : min x.toNat (min farRight screenWidth) = min farRight screenWidth := by omega
      rw [cut, nothing, Nat.sub_self, fillRows_none, fillRows_none]

/-- There is a colour to report exactly for the places on the screen. -/
theorem isSome_pixel? (surface : Surface) (column row : Nat) :
    (surface.pixel? column row).isSome ↔ column < screenWidth ∧ row < screenHeight := by
  have enough := surface.screen_le_size
  rw [pixel?]
  split
  · next within =>
    simp only [screenPixels, screenWidth, screenHeight] at enough within ⊢
    have bounded : row * 320 + column < surface.pixels.size := by omega
    rw [Array.getElem?_eq_getElem bounded]
    exact iff_of_true rfl within
  · next outside => exact iff_of_false Bool.false_ne_true outside

/-- After a rectangle was filled, the places that it covers have its colour and all others the
colour that they had. -/
theorem pixel?_fillRectangle (surface : Surface) (x y width height : Nat) (color : UInt16)
    (column row : Nat) :
    (surface.fillRectangle x y width height color).pixel? column row =
      if (Rectangle.mk x y width height).Covers column row then some color
      else surface.pixel? column row := by
  rw [pixel?, pixel?]
  by_cases within : column < screenWidth ∧ row < screenHeight
  · obtain ⟨same, line⟩ := place_exact row within.1
    rw [if_pos within, if_pos within, getElem?_fillRectangle, same, line]
  · rw [if_neg within, if_neg within, if_neg fun covered => within covered.1]

/-- Filling a rectangle clips it exactly. For a surface and any four words, no bound is refused on
the way. The pixels on the screen and in the rectangle have its colour afterwards, and every other
one, those past the screen included, is as it was. What is reported of a place afterwards is its
colour, and nothing is reported off the screen. -/
theorem fillRectangle_clips (surface : Surface) (x y width height : USize) (color : UInt16) :
    let filled := surface.fillRectangle x.toNat y.toNat width.toNat height.toNat color
    let rectangle : Rectangle := ⟨x.toNat, y.toNat, width.toNat, height.toNat⟩
    surface.fillChecked? x y width height color = some filled.pixels ∧
    filled.pixels.size = surface.pixels.size ∧
    (∀ index, filled.pixels[index]? =
      if rectangle.Covers (index % screenWidth) (index / screenWidth) then some color
      else surface.pixels[index]?) ∧
    ∀ column row, ((filled.pixel? column row).isSome ↔
        column < screenWidth ∧ row < screenHeight) ∧
      filled.pixel? column row =
        if rectangle.Covers column row then some color else surface.pixel? column row := by
  refine ⟨surface.fillChecked?_eq_some x y width height color, ?_,
    surface.getElem?_fillRectangle _ _ _ _ color, fun column row => ⟨isSome_pixel? _ column row,
      surface.pixel?_fillRectangle _ _ _ _ color column row⟩⟩
  exact size_fillRows _ _ _ color _

end Surface

end Bringup
