import Bringup.Bus
import Bringup.Monitor.Target
/-!
# Registers of the board

Peripherals are reached through registers of eight or 32 bits on the system bus. Waiting for
a peripheral is bounded by a patience, a number of polls.
-/

namespace Bringup

/-- The registers of a board with state `σ`. -/
structure Registers (σ ε : Type) where
  readByte : UInt32 → EStateM ε σ UInt8
  writeByte : UInt32 → UInt8 → EStateM ε σ Unit
  readWord : UInt32 → EStateM ε σ UInt32
  writeWord : UInt32 → UInt32 → EStateM ε σ Unit

/-- Why a program on the board ended early. -/
inductive Halt (ε : Type) where
  /-- A peripheral was not ready when the patience ran out. -/
  | stalled
  | fault (fault : Fault)
  | device (error : ε)
  deriving DecidableEq, Repr

namespace Board

/-- The row of LEDs. -/
def leds : UInt32 := 0x01000000
/-- Bit 0 says that the UART takes a byte. -/
def uartSendStatus : UInt32 := 0x02000000
/-- Sends a byte. -/
def uartSend : UInt32 := 0x02000010
/-- Bit 0 says that the UART holds a byte. -/
def uartReceiveStatus : UInt32 := 0x02000020
/-- Gives the next byte. -/
def uartReceive : UInt32 := 0x02000030
/-- Bit 0 says that the display is in its vertical blank. -/
def displayStatus : UInt32 := 0x03000000
/-- The address of the frame that is shown. -/
def displayFrame : UInt32 := 0x03000004
/-- The levels of the I2C lines of the display. -/
def displayLinesRead : UInt32 := 0x03000008
/-- Drives the I2C lines of the display. -/
def displayLinesWrite : UInt32 := 0x0300000c
/-- Starts the rasterizer; reads as nonzero while it is busy. -/
def rasterizer : UInt32 := 0x04000000

variable {σ ε α : Type}

/-- Lifts an access to the registers. -/
def access (action : EStateM ε σ α) : EStateM (Halt ε) σ α :=
  EStateM.adaptExcept Halt.device action

/-- Goes on with a computed value, or ends with its fault. -/
def checked (value : Except Fault α) : EStateM (Halt ε) σ α :=
  match value with
  | .ok value => pure value
  | .error fault => throw (.fault fault)

/-- Polls until the answer is yes. -/
def await (poll : EStateM ε σ Bool) : (patience : Nat) → EStateM (Halt ε) σ Unit
  | 0 => throw .stalled
  | patience + 1 => do
    if ← access poll then pure () else await poll patience

/-- Sets the row of LEDs. -/
def setLeds (registers : Registers σ ε) (value : UInt8) : EStateM (Halt ε) σ Unit :=
  access (registers.writeByte leds value)

/-- The registers as a bus of words. -/
def wordBus (registers : Registers σ ε) : Bus σ ε := ⟨registers.readWord, registers.writeWord⟩

end Board

end Bringup
