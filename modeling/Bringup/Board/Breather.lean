import Bringup.Word.Checked
/-!
# A breathing LED

The LED is lit while the low byte of a phase counter lies below the duty. Each time the low
byte wraps, the duty moves by one, up to 256 and back to 0.
-/

namespace Bringup

/-- The state of a breathing LED. -/
structure Breather where
  phase : UInt32
  duty : UInt32
  falling : Bool
  deriving DecidableEq, Repr

namespace Breather

/-- The LED is dark and about to rise. -/
def initial : Breather := ⟨0, 0, false⟩

/-- The highest duty, at which the LED is always lit. -/
def fullDuty : UInt32 := 256

/-- Moves the duty one step towards its target. -/
def moveDuty (breather : Breather) : Except Fault Breather := do
  if breather.falling then
    let duty ← Word.sub32 breather.duty 1
    pure { breather with duty, falling := duty != 0 }
  else
    let duty ← Word.add32 breather.duty 1
    pure { breather with duty, falling := duty == fullDuty }

/-- Advances by one tick and says whether the LED is lit during it. -/
def tick (breather : Breather) : Except Fault (Bool × Breather) := do
  let lit := breather.phase &&& 0xff < breather.duty
  let phase := breather.phase + 1
  let next := { breather with phase }
  if phase &&& 0xff = 0 then
    let next ← next.moveDuty
    pure (lit, next)
  else pure (lit, next)

/-- A run of ticks: how many were lit, and at which the output changed. -/
structure Breath where
  lit : Nat := 0
  /-- The first tick and each that differs from the one before, with its output. -/
  changes : Array (Nat × Bool) := #[]

/-- Adds a tick to a run. -/
def Breath.add (breath : Breath) (index : Nat) (lit : Bool) : Breath where
  lit := if lit then breath.lit + 1 else breath.lit
  changes :=
    if breath.changes.back?.map Prod.snd = some lit then breath.changes
    else breath.changes.push (index, lit)

/-- Advances by `count` ticks, of which the first has number `index`. -/
def run : (count index : Nat) → Breath → Breather → Except Fault (Breath × Breather)
  | 0, _, breath, breather => .ok (breath, breather)
  | count + 1, index, breath, breather =>
    match breather.tick with
    | .ok (lit, next) => run count (index + 1) (breath.add index lit) next
    | .error fault => .error fault

end Breather

end Bringup
