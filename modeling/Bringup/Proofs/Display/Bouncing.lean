import Bringup.Display.Bouncing
import Bringup.Proofs.Display.Clipping
import Bringup.Proofs.Zigzag
/-!
# A bouncing box stays on the screen

Along an axis a box travels to the far edge and back, over and over (`zigzag`). One step takes it
from its place after some steps to its place after one more (`Travel.step_after`), and so a box that
was started in the corner is where the zigzags of both axes lead, however many steps it takes
(`BouncingBox.steps_ofSize`). A box that is no higher than the screen is never cut at an edge.
-/

namespace Bringup

namespace Travel

/-- Where the travel from zero leads in so many steps: the first half of each round goes up. -/
def after (limit count : Nat) : Travel where
  position := zigzag limit count
  rising := limit = 0 ∨ count % (2 * limit) < limit

/-- Where there is no room, the travel stays at its start, and rises. -/
theorem after_still (count : Nat) : after 0 count = ⟨0, true⟩ := by
  rw [after, zigzag, if_pos rfl]
  simp

/-- Where there is room, the place in the round says how far the travel has come, and whether it
rises. -/
theorem after_moving {limit : Nat} (room : limit ≠ 0) (count : Nat) : after limit count =
    ⟨min (count % (2 * limit)) (2 * limit - count % (2 * limit)),
      decide (count % (2 * limit) < limit)⟩ := by
  rw [after, zigzag, if_neg room]
  simp [room]

/-- One step leads from where so many steps have led to where one more leads. -/
theorem step_after {limit : Nat} (held : limit ≤ maxPosition) (count : Nat) :
    (after limit count).step limit = .ok (after limit (count + 1)) := by
  by_cases still : limit = 0
  · rw [still, after_still, after_still, step, if_pos rfl]
  · have below := Nat.mod_lt count (show 0 < 2 * limit by omega)
    have next := succ_mod_cases (show 0 < 2 * limit by omega) count
    rw [after_moving still, after_moving still, step, if_neg still]
    dsimp only
    generalize count % (2 * limit) = place at *
    generalize (count + 1) % (2 * limit) = follower at *
    by_cases rising : place < limit
    · have room : min place (2 * limit - place) < maxPosition := by omega
      rw [if_pos (decide_eq_true rising), if_pos room, Except.ok.injEq, Travel.mk.injEq,
        decide_eq_decide]
      omega
    · have nonzero : min place (2 * limit - place) ≠ 0 := by omega
      rw [if_neg (mt of_decide_eq_true rising), if_neg nonzero, Except.ok.injEq, Travel.mk.injEq,
        decide_eq_decide]
      omega

end Travel

namespace BouncingBox

/-- A box of this size after so many steps from the corner. -/
def after (size count : Nat) : BouncingBox where
  x := .after (screenWidth - size) count
  y := .after (screenHeight - size) count
  size := size

/-- The part of the plane that a box takes. -/
def place (box : BouncingBox) : Rectangle := ⟨box.x.position, box.y.position, box.size, box.size⟩

/-- One step leads a box from where so many steps have led it to where one more leads. -/
theorem step_after (size count : Nat) : (after size count).step = .ok (after size (count + 1)) := by
  have wide : screenWidth - size ≤ maxPosition :=
    (Nat.sub_le _ _).trans (show screenWidth ≤ maxPosition by decide)
  have high : screenHeight - size ≤ maxPosition :=
    (Nat.sub_le _ _).trans (show screenHeight ≤ maxPosition by decide)
  have across := Travel.step_after wide count
  have down := Travel.step_after high count
  simp only [step, after, across, down, bind, Except.bind, pure, Except.pure]

/-- A box is where its steps lead it, whatever steps it has taken before. -/
theorem steps_after (size before count : Nat) :
    steps count (after size before) = .ok (after size (before + count)) := by
  induction count generalizing before with
  | zero => rfl
  | succ count ih =>
    rw [steps, step_after]
    dsimp only
    rw [ih, Nat.add_right_comm, Nat.add_assoc]

/-- Before its first step a box is in the corner, about to move away from it. -/
theorem after_zero (size : Nat) : after size 0 = ofSize size := by
  have start (limit : Nat) : Travel.after limit 0 = ⟨0, true⟩ := by
    by_cases still : limit = 0
    · rw [still, Travel.after_still]
    · rw [Travel.after_moving still, Nat.zero_mod, Nat.zero_min,
        decide_eq_true (Nat.pos_of_ne_zero still)]
  rw [after, start, start, ofSize]

/-- A box that starts in the corner is where its steps lead it. -/
theorem steps_ofSize (size count : Nat) : steps count (ofSize size) = .ok (after size count) := by
  rw [← after_zero, steps_after, Nat.zero_add]

/-- A box that is no higher than the screen is never cut at an edge. -/
theorem onScreen_after {size : Nat} (fits : size ≤ screenHeight) (count : Nat) :
    (after size count).place.OnScreen := by
  have across := zigzag_le (screenWidth - size) count
  have down := zigzag_le (screenHeight - size) count
  have wide : size ≤ screenWidth := fits.trans (by decide)
  constructor
  · show zigzag (screenWidth - size) count + size ≤ screenWidth
    omega
  · show zigzag (screenHeight - size) count + size ≤ screenHeight
    omega

/-- Drawing a box sets the pixels that it reaches, and no others. -/
theorem getElem?_draw (box : BouncingBox) (surface : Surface) (color : UInt16) (index : Nat) :
    (box.draw surface color).pixels[index]? =
      if index ∈ box.place.reached then some color else surface.pixels[index]? := by
  rw [draw, Surface.getElem?_fillRectangle]
  simp only [Rectangle.mem_reached, place]

/-- A bouncing box stays on the screen for ever. However many steps a box takes from the corner,
every one of them can be taken, and it is then where the zigzags of its axes lead; an axis along
which it fills the screen keeps it at zero. A box that is no higher than the screen is never cut at
an edge, and drawing it sets exactly the pixels of a square of its size. -/
theorem bounces_for_ever (size count : Nat) :
    ∃ box, steps count (ofSize size) = .ok box ∧ (∃ next, box.step = .ok next) ∧
      box.size = size ∧ box.x.position = zigzag (screenWidth - size) count ∧
      box.y.position = zigzag (screenHeight - size) count ∧
      (size ≤ screenHeight → box.place.OnScreen ∧ box.place.reached.card = size * size ∧
        ∀ surface color (index : Nat), (box.draw surface color).pixels[index]? =
          if index ∈ box.place.reached then some color else surface.pixels[index]?) := by
  refine ⟨after size count, steps_ofSize size count, ⟨_, step_after size count⟩, rfl, rfl, rfl,
    fun fits => ?_⟩
  have inside := onScreen_after fits count
  exact ⟨inside, inside.card_reached, getElem?_draw _⟩

/-- After a thousand steps the box of the demonstration has turned around several times on both
axes, and all of it is drawn. -/
theorem thousandSteps_onScreen : ∃ box, steps 1000 (ofSize 150) = .ok box ∧
    (box.x.position, box.y.position) = (20, 80) ∧ 150 ≤ screenHeight ∧ box.place.OnScreen ∧
    box.place.reached.card = 22500 := by
  obtain ⟨box, stepped, -, -, across, down, drawn⟩ := bounces_for_ever 150 1000
  have fits : 150 ≤ screenHeight := by decide
  obtain ⟨inside, pixels, -⟩ := drawn fits
  exact ⟨box, stepped, by rw [across, down]; rfl, fits, inside, pixels⟩

end BouncingBox

end Bringup
