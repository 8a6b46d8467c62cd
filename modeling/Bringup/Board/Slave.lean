import Bringup.Board.I2c
/-!
# A slave with registers

A slave follows the lines bit by bit. A start makes it take the next byte for an address. When the
address is its own, the bytes that are sent to it are a register and values for that register and
those that follow it, and the bytes that are asked of it are the values of the registers from the
last one named. A stop lets it wait for the next start.
-/

namespace Bringup

/-- What a slave takes the bits on the bus for. -/
inductive SlaveMode where
  /-- Nothing, until a start. -/
  | idle
  /-- The address of a slave. -/
  | address
  /-- A byte that is sent to this slave. -/
  | write
  /-- A byte that is asked of this slave. -/
  | read
  deriving DecidableEq, Repr

/-- A slave with registers, and the levels that the master drives the lines to. -/
structure Slave where
  address : UInt8
  registers : UInt8 → UInt8
  /-- The registers that were written and the values written to them. -/
  writes : List (UInt8 × UInt8) := []
  /-- Whether the slave holds the clock low. -/
  holds : Bool := false
  clock : Bool := true
  data : Bool := true
  /-- Whether the slave pulls the data line low. -/
  pulls : Bool := false
  mode : SlaveMode := .idle
  /-- The mode behind an address. -/
  next : SlaveMode := .idle
  /-- How often the clock has risen for the byte. -/
  edges : Nat := 0
  /-- The bits of the byte that have come in. -/
  shift : UInt8 := 0
  /-- The byte that goes out. -/
  out : UInt8 := 0
  /-- The register that is written or read next. -/
  pointer : UInt8 := 0
  pointerSet : Bool := false
  /-- Whether the master acknowledged the byte that went out. -/
  acknowledged : Bool := false

namespace Slave

variable {ε : Type}

/-- The level of the data line. -/
def line (slave : Slave) : Bool := slave.data && !slave.pulls

/-- Whether the outgoing byte has a low bit at a place. -/
def isLow (out : UInt8) (place : Nat) : Bool := !out.toNat.testBit place

/-- Registers with another value in one of them. -/
def stored (registers : UInt8 → UInt8) (register value : UInt8) : UInt8 → UInt8 :=
  fun other => if other = register then value else registers other

/-- Takes the value of the next register for the byte that goes out. -/
def load (slave : Slave) : Slave :=
  let out := slave.registers slave.pointer
  { slave with out, pointer := slave.pointer + 1, pulls := isLow out 7 }

/-- The clock rises. -/
def rising (slave : Slave) : Slave :=
  if slave.mode = .idle then slave
  else if slave.edges < 8 then
    if slave.mode = .read then { slave with edges := slave.edges + 1 }
    else
      { slave with
        shift := slave.shift * 2 + (if slave.line then 1 else 0)
        edges := slave.edges + 1 }
  else if slave.mode = .read then
    { slave with acknowledged := !slave.line, edges := slave.edges + 1 }
  else { slave with edges := slave.edges + 1 }

/-- The clock falls behind the bits of an address. -/
def judgeAddress (slave : Slave) : Slave :=
  if slave.shift &&& 0xfe = slave.address then
    { slave with pulls := true, next := if slave.shift &&& 1 = 0 then .write else .read }
  else { slave with next := .idle }

/-- The clock falls behind the bits of a byte that was sent to the slave: the first one behind the
address names a register. -/
def takeByte (slave : Slave) : Slave :=
  if slave.pointerSet then
    { slave with
      registers := stored slave.registers slave.pointer slave.shift
      writes := slave.writes ++ [(slave.pointer, slave.shift)]
      pointer := slave.pointer + 1
      pulls := true }
  else { slave with pointer := slave.shift, pointerSet := true, pulls := true }

/-- The clock falls behind an acknowledgement. -/
def endByte (slave : Slave) : Slave :=
  let ended := { slave with pulls := false, edges := 0, shift := 0 }
  match slave.mode with
  | .address =>
    let turned := { ended with mode := slave.next }
    match slave.next with
    | .write => { turned with pointerSet := false }
    | .read => turned.load
    | .idle | .address => turned
  | .read => if slave.acknowledged then ended.load else { ended with mode := .idle }
  | .write | .idle => ended

/-- The clock falls. -/
def falling (slave : Slave) : Slave :=
  if slave.mode = .idle then slave
  else if slave.edges = 8 then
    match slave.mode with
    | .address => slave.judgeAddress
    | .write => slave.takeByte
    | .read => { slave with pulls := false }
    | .idle => slave
  else if slave.edges = 9 then slave.endByte
  else if slave.mode = .read ∧ 1 ≤ slave.edges ∧ slave.edges ≤ 7 then
    { slave with pulls := isLow slave.out (7 - slave.edges) }
  else slave

/-- The master drives the lines. When the data line moves while the clock is high, that is a start
or a stop. -/
def drive (slave : Slave) (clock data : Bool) : Slave :=
  let driven := { slave with clock, data }
  if slave.clock && clock && slave.data != data then
    { driven with
      pulls := false, edges := 0, shift := 0
      mode := if data then .idle else .address }
  else if !slave.clock && clock then driven.rising
  else if slave.clock && !clock then driven.falling
  else driven

/-- The levels of the lines. -/
def sample (slave : Slave) : Bool × Bool := (slave.clock && !slave.holds, slave.line)

/-- The lines of a bus with this slave alone. -/
def pins : Pins Slave ε where
  write clock data := modify (·.drive clock data)
  read := do return (← get).sample
  delay := pure ()

end Slave

end Bringup
