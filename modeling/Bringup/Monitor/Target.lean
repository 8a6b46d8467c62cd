import Bringup.Part
import Bringup.Wire.Request
/-!
# The system behind the monitor

The monitor sees a word-addressed bus, a rasterizer and a cycle counter. A tile is a row of
bus words, one pixel in each.
-/

namespace Bringup

/-- What the monitor acts on, over a state `σ`. -/
structure Target (σ ε : Type) where
  readWord : UInt32 → EStateM ε σ UInt32
  writeWord : UInt32 → UInt32 → EStateM ε σ Unit
  startRasterizer : EStateM ε σ Unit
  rasterizerBusy : EStateM ε σ Bool
  cycles : EStateM ε σ UInt64

/-- A target over a part of a state is a target over the whole. -/
def Target.onPart {σ τ ε : Type} (target : Target τ ε) (place : Part σ τ) : Target σ ε where
  readWord address := place.run (target.readWord address)
  writeWord address data := place.run (target.writeWord address data)
  startRasterizer := place.run target.startRasterizer
  rasterizerBusy := place.run target.rasterizerBusy
  cycles := place.run target.cycles

/-- The bus address of the first pixel of the tile buffer. -/
def tileBase : UInt32 := 0x05000000

/-- The distance of two pixels of the tile buffer. -/
def tileStride : UInt32 := 16

/-- The bus address of a pixel of the tile buffer. -/
def tileAddress (index : Nat) : UInt32 := tileBase + UInt32.ofNat index * tileStride

end Bringup
