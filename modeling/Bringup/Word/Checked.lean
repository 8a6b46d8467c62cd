/-!
# Checked words

Sums, differences, products, quotients and shifts that refuse a result the word cannot
hold, and say what was attempted.
-/

namespace Bringup

/-- What a computation attempted and must not go on from. -/
inductive Fault where
  | addOverflow
  | subtractOverflow
  | multiplyOverflow
  | shiftOverflow
  | divideByZero
  /-- A drawing surface has fewer pixels than the screen. -/
  | surfaceTooSmall
  /-- One of the two frames of a display has fewer pixels than the screen. -/
  | frameTooSmall
  deriving DecidableEq, Repr

/-- The wording of a fault. -/
def Fault.message : Fault → String
  | .addOverflow => "attempt to add with overflow"
  | .subtractOverflow => "attempt to subtract with overflow"
  | .multiplyOverflow => "attempt to multiply with overflow"
  | .shiftOverflow => "attempt to shift left with overflow"
  | .divideByZero => "attempt to divide by zero"
  | .surfaceTooSmall => "assertion failed: pixels.len() >= PIXELS"
  | .frameTooSmall => "assertion failed: first.len() >= PIXELS && second.len() >= PIXELS"

namespace Word

/-- The sum of two 32-bit words, if it is one. -/
def add32 (a b : UInt32) : Except Fault UInt32 :=
  if a.toNat + b.toNat < UInt32.size then .ok (a + b) else .error .addOverflow

/-- The difference of two 32-bit words, if it is one. -/
def sub32 (a b : UInt32) : Except Fault UInt32 :=
  if b ≤ a then .ok (a - b) else .error .subtractOverflow

/-- The product of two 32-bit words, if it is one. -/
def mul32 (a b : UInt32) : Except Fault UInt32 :=
  if a.toNat * b.toNat < UInt32.size then .ok (a * b) else .error .multiplyOverflow

/-- The quotient of two 32-bit words, rounded down. -/
def div32 (a b : UInt32) : Except Fault UInt32 :=
  if b = 0 then .error .divideByZero else .ok (a / b)

/-- One shifted left. The amount must stay below the width of the word. -/
def bit32 (amount : UInt32) : Except Fault UInt32 :=
  if amount < 32 then .ok (1 <<< amount) else .error .shiftOverflow

/-- The product of two 64-bit words, if it is one. -/
def mul64 (a b : UInt64) : Except Fault UInt64 :=
  if a.toNat * b.toNat < UInt64.size then .ok (a * b) else .error .multiplyOverflow

/-- The quotient of two 64-bit words, rounded down. -/
def div64 (a b : UInt64) : Except Fault UInt64 :=
  if b = 0 then .error .divideByZero else .ok (a / b)

/-- The 32-bit word nearest to a 64-bit word. -/
def saturate32 (a : UInt64) : UInt32 :=
  if a.toNat < UInt32.size then a.toUInt32 else 0xffffffff

/-- A checked sum that succeeds is the sum of the numbers. -/
theorem toNat_of_add32 {a b c : UInt32} (h : add32 a b = .ok c) : c.toNat = a.toNat + b.toNat := by
  unfold add32 at h
  split at h
  · next bound =>
    cases h
    rw [UInt32.toNat_add]
    exact Nat.mod_eq_of_lt bound
  · cases h

/-- A checked product that succeeds is the product of the numbers. -/
theorem toNat_of_mul32 {a b c : UInt32} (h : mul32 a b = .ok c) : c.toNat = a.toNat * b.toNat := by
  unfold mul32 at h
  split at h
  · next bound =>
    cases h
    rw [UInt32.toNat_mul]
    exact Nat.mod_eq_of_lt bound
  · cases h

end Word

end Bringup
