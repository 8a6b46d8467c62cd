import Bringup.Word.Checked
/-!
# An I2C master on two pins

The master drives a clock line and a data line, each of which it pulls low or releases. The
bus idles with both lines released, and between bytes the clock is low. A slave may hold the
clock low for a while; a master that waits too long gives up and releases the bus.
-/

namespace Bringup

/-- The two lines of a bus over a state `σ`; a line that is `true` is released or high. -/
structure Pins (σ ε : Type) where
  /-- Drives the clock and the data line. -/
  write : (clock data : Bool) → EStateM ε σ Unit
  /-- Samples the clock and the data line. -/
  read : EStateM ε σ (Bool × Bool)
  /-- Waits a quarter of a bit. -/
  delay : EStateM ε σ Unit

/-- How a transfer fails on the bus. -/
inductive I2cError where
  | clockStretchTimeout
  | nack
  deriving DecidableEq, Repr

/-- The kind of an I2C error. -/
def I2cError.kind : I2cError → String
  | .clockStretchTimeout => "ClockStretchTimeout"
  | .nack => "Nack"

/-- The wording of an I2C error. -/
def I2cError.message : I2cError → String
  | .clockStretchTimeout => "SCL held low by a slave for too long"
  | .nack => "no acknowledge from slave"

/-- Why a transfer ended early. -/
inductive I2cTrap (ε : Type) where
  | bus (error : I2cError)
  | device (error : ε)
  deriving DecidableEq, Repr

namespace I2c

variable {σ ε : Type}

/-- A part of a transfer. -/
abbrev Transfer (σ ε α : Type) : Type := EStateM (I2cTrap ε) σ α

/-- How often the clock is sampled before the master gives up. -/
def stretchPolls : Nat := 100000

/-- Lifts an action on the pins. -/
def onPins {α : Type} (action : EStateM ε σ α) : Transfer σ ε α :=
  EStateM.adaptExcept I2cTrap.device action

/-- Drives the lines and waits. -/
def set (pins : Pins σ ε) (clock data : Bool) : Transfer σ ε Unit := do
  onPins (pins.write clock data)
  onPins pins.delay

/-- The data line falls while the clock is high; both end low. -/
def start (pins : Pins σ ε) : Transfer σ ε Unit := do
  set pins true true
  set pins true false
  set pins false false

/-- The data line rises while the clock is high; both end high. -/
def stop (pins : Pins σ ε) : Transfer σ ε Unit := do
  set pins false false
  set pins true false
  set pins true true

/-- Samples the clock until it is high; gives up with a stop. -/
def awaitClock (pins : Pins σ ε) : (polls : Nat) → Transfer σ ε Unit
  | 0 => do
    stop pins
    throw (.bus .clockStretchTimeout)
  | polls + 1 => do
    let (clock, _) ← onPins pins.read
    if clock then pure () else awaitClock pins polls

/-- Sends a bit. -/
def writeBit (pins : Pins σ ε) (bit : Bool) : Transfer σ ε Unit := do
  set pins false bit
  onPins (pins.write true bit)
  awaitClock pins stretchPolls
  onPins pins.delay
  set pins false bit

/-- Receives a bit. -/
def readBit (pins : Pins σ ε) : Transfer σ ε Bool := do
  set pins false true
  onPins (pins.write true true)
  awaitClock pins stretchPolls
  onPins pins.delay
  let (_, bit) ← onPins pins.read
  set pins false true
  pure bit

/-- The bits of a byte, the highest first. -/
def bitsOf (byte : UInt8) : List Bool :=
  [7, 6, 5, 4, 3, 2, 1, 0].map fun place => byte.toNat.testBit place

/-- Sends bits in order. -/
def writeBits (pins : Pins σ ε) : List Bool → Transfer σ ε Unit
  | [] => pure ()
  | bit :: rest => do
    writeBit pins bit
    writeBits pins rest

/-- Sends a byte and says whether a slave acknowledged it. -/
def write (pins : Pins σ ε) (byte : UInt8) : Transfer σ ε Bool := do
  writeBits pins (bitsOf byte)
  let released ← readBit pins
  pure !released

/-- Receives bits and appends them to those received before, the highest first. -/
def readBits (pins : Pins σ ε) : (count : Nat) → (byte : UInt8) → Transfer σ ε UInt8
  | 0, byte => pure byte
  | count + 1, byte => do
    let bit ← readBit pins
    readBits pins count (byte * 2 + (if bit then 1 else 0))

/-- Receives a byte and acknowledges it or not. -/
def read (pins : Pins σ ε) (acknowledge : Bool) : Transfer σ ε UInt8 := do
  let byte ← readBits pins 8 0
  writeBit pins !acknowledge
  pure byte

/-- Sends a byte that has to be acknowledged; gives up with a stop. -/
def writeAcknowledged (pins : Pins σ ε) (byte : UInt8) : Transfer σ ε Unit := do
  if ← write pins byte then pure ()
  else
    stop pins
    throw (.bus .nack)

/-- Writes a register of the slave with this address, whose lowest bit means nothing. -/
def writeRegister (pins : Pins σ ε) (address register value : UInt8) : Transfer σ ε Unit := do
  start pins
  writeAcknowledged pins (address &&& 0xfe)
  writeAcknowledged pins register
  writeAcknowledged pins value
  stop pins

/-- Reads a register of the slave with this address, whose lowest bit means nothing. -/
def readRegister (pins : Pins σ ε) (address register : UInt8) : Transfer σ ε UInt8 := do
  start pins
  writeAcknowledged pins (address &&& 0xfe)
  writeAcknowledged pins register
  start pins
  writeAcknowledged pins (address ||| 1)
  let value ← read pins false
  stop pins
  pure value

end I2c

end Bringup
