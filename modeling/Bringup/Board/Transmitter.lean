import Bringup.Board.I2c
/-!
# Bringing up the HDMI transmitter

The transmitter needs time after power-up, then a monitor has to be there, and then it is
switched on and given fixed values in some registers.
-/

namespace Bringup.Transmitter

variable {σ ε : Type}

/-- How the bring-up fails. -/
inductive TransmitterError where
  | i2c (error : I2cError)
  | noMonitor
  deriving DecidableEq, Repr

/-- The wording of a transmitter error. -/
def TransmitterError.message : TransmitterError → String
  | .i2c error => "I2C error: " ++ error.message
  | .noMonitor => "no monitor detected (HPD low)"

/-- Why the bring-up ended early. -/
inductive TransmitterTrap (ε : Type) where
  | failed (error : TransmitterError)
  | device (error : ε)
  deriving DecidableEq, Repr

/-- The address of the transmitter. -/
def address : UInt8 := 0x72
/-- The register that switches the transmitter on. -/
def powerDown : UInt8 := 0x41
/-- The register that says whether a monitor is there. -/
def monitorSense : UInt8 := 0x42
/-- The bit that is set when a monitor is there. -/
def hotPlug : UInt8 := 0x40
/-- Cycles from power-up to the first transfer. -/
def powerUpCycles : UInt64 := 30000000
/-- Cycles between two looks for a monitor. -/
def pollCycles : UInt64 := 100000
/-- How often to look for a monitor. -/
def monitorPolls : Nat := 10000

/-- Registers and the values they need. -/
def fixedRegisters : List (UInt8 × UInt8) :=
  [(0x98, 0x03), (0x9a, 0xe0), (0x9c, 0x30), (0x9d, 0x01), (0xa2, 0xa4), (0xa3, 0xa4),
   (0xe0, 0xd0), (0xf9, 0x00)]

/-- Lifts a transfer. -/
def transferring {α : Type} (transfer : I2c.Transfer σ ε α) : EStateM (TransmitterTrap ε) σ α :=
  EStateM.adaptExcept
    (fun
      | .bus error => .failed (.i2c error)
      | .device error => .device error) transfer

/-- Looks for a monitor until one is there, at most so many times. -/
def awaitMonitor (pins : Pins σ ε) (delay : UInt64 → EStateM ε σ Unit) :
    (polls : Nat) → EStateM (TransmitterTrap ε) σ Unit
  | 0 => throw (.failed .noMonitor)
  | polls + 1 => do
    let sense ← transferring (I2c.readRegister pins address monitorSense)
    if sense &&& hotPlug = 0 then
      if polls = 0 then throw (.failed .noMonitor)
      else
        EStateM.adaptExcept TransmitterTrap.device (delay pollCycles)
        awaitMonitor pins delay polls
    else pure ()

/-- Writes registers in order. -/
def writeRegisters (pins : Pins σ ε) : List (UInt8 × UInt8) →
    EStateM (TransmitterTrap ε) σ Unit
  | [] => pure ()
  | (register, value) :: rest => do
    transferring (I2c.writeRegister pins address register value)
    writeRegisters pins rest

/-- Brings the transmitter up. -/
def bringUp (pins : Pins σ ε) (delay : UInt64 → EStateM ε σ Unit) :
    EStateM (TransmitterTrap ε) σ Unit := do
  EStateM.adaptExcept TransmitterTrap.device (delay powerUpCycles)
  awaitMonitor pins delay monitorPolls
  writeRegisters pins ((powerDown, 0) :: fixedRegisters)

end Bringup.Transmitter
