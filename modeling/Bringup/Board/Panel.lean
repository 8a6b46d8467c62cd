import Bringup.Board.Clock
import Bringup.Board.I2c
import Bringup.Display.Buffering
/-!
# The display of the board

The display controller is reached through registers: its status, the address of the frame it
shows, and the two I2C lines to the transmitter, on which a bit takes a 400 kHz period.
-/

namespace Bringup.Panel

variable {σ ε : Type}

/-- The display controller behind the registers. -/
def scanout (registers : Registers σ ε) : Scanout σ ε where
  inVerticalBlank := (fun status => status &&& 1 != 0) <$> registers.readWord Board.displayStatus
  publish frame := registers.writeWord Board.displayFrame frame.address

/-- The register value that drives the two lines. -/
def lineBits (clock data : Bool) : UInt8 :=
  (if clock then 1 else 0) ||| (if data then 2 else 0)

/-- Cycles in a quarter of a bit. -/
def quarterBit : UInt64 := Clock.frequency / 400000 / 4

/-- The I2C lines behind the registers. -/
def pins (registers : Registers σ ε) (clock : Clock σ ε) : Pins σ ε where
  write clockLine data := registers.writeByte Board.displayLinesWrite (lineBits clockLine data)
  read := (fun lines => (lines &&& 1 != 0, lines &&& 2 != 0)) <$>
    registers.readByte Board.displayLinesRead
  delay := clock.spin quarterBit

end Bringup.Panel
