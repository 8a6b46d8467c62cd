import Bringup.Part
import Bringup.Text.Radix
import Bringup.Word.Checked
/-!
# Register access

A bus reads and writes 32-bit registers over a state `σ`. A program on it ends early when
the bus gives up or when the program itself attempts what it must not.
-/

namespace Bringup

/-- A register bus over a state `σ`. -/
structure Bus (σ ε : Type) where
  read : UInt32 → EStateM ε σ UInt32
  write : UInt32 → UInt32 → EStateM ε σ Unit

/-- One access to a register. -/
inductive Access where
  | read (address value : UInt32)
  | write (address value : UInt32)
  deriving DecidableEq, Repr

/-- The access with as few digits as possible. -/
def Access.text : Access → String
  | .read address value => "R" ++ Text.hex 1 address.toNat ++ "=" ++ Text.hex 1 value.toNat
  | .write address value => "W" ++ Text.hex 1 address.toNat ++ "=" ++ Text.hex 1 value.toNat

/-- The access with eight digits of the address. -/
def Access.wideText : Access → String
  | .read address value => "R" ++ Text.hex 8 address.toNat ++ "=" ++ Text.hex 1 value.toNat
  | .write address value => "W" ++ Text.hex 8 address.toNat ++ "=" ++ Text.hex 1 value.toNat

/-- A bus that keeps a record of what goes over it. -/
def Bus.recording {σ ε : Type} (bus : Bus σ ε) : Bus (σ × Array Access) ε where
  read address := do
    let value ← Part.first.run (bus.read address)
    Part.second.update (·.push (.read address value))
    pure value
  write address value := do
    Part.first.run (bus.write address value)
    Part.second.update (·.push (.write address value))

/-- A bus over a part of a state is a bus over the whole. -/
def Bus.onPart {σ τ ε : Type} (bus : Bus τ ε) (place : Part σ τ) : Bus σ ε where
  read address := place.run (bus.read address)
  write address value := place.run (bus.write address value)

/-- Why a program on a bus ended early. -/
inductive Trap (ε : Type) where
  | fault (fault : Fault)
  | device (error : ε)
  deriving DecidableEq, Repr

end Bringup
