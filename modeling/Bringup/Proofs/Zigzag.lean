/-!
# Back and forth

What goes from zero to a limit and back, over and over, repeats itself after twice the limit. The
box of the demonstration moves like this along each axis, and so does the duty of its LED.
-/

namespace Bringup

/-- How far it is from the start to what goes to `limit` and back, over and over, after so many
steps. -/
def zigzag (limit count : Nat) : Nat :=
  if limit = 0 then 0 else min (count % (2 * limit)) (2 * limit - count % (2 * limit))

/-- A zigzag stays between its ends. -/
theorem zigzag_le (limit count : Nat) : zigzag limit count ≤ limit := by
  rw [zigzag]
  split <;> omega

/-- A count that goes round is one further, or begins again. -/
theorem succ_mod_cases {period : Nat} (positive : 0 < period) (count : Nat) :
    (count % period + 1 < period ∧ (count + 1) % period = count % period + 1) ∨
      (count % period + 1 = period ∧ (count + 1) % period = 0) := by
  have below := Nat.mod_lt count positive
  have next : (count + 1) % period = (count % period + 1) % period := (Nat.mod_add_mod ..).symm
  by_cases last : count % period + 1 = period
  · exact .inr ⟨last, by rw [next, last, Nat.mod_self]⟩
  · have inside : count % period + 1 < period := by omega
    exact .inl ⟨inside, by rw [next, Nat.mod_eq_of_lt inside]⟩

/-- Where there is room, the first half of each round goes up and the second comes back. -/
theorem zigzag_of_room {limit : Nat} (room : limit ≠ 0) (count : Nat) :
    zigzag limit count = min (count % (2 * limit)) (2 * limit - count % (2 * limit)) :=
  if_neg room

end Bringup
