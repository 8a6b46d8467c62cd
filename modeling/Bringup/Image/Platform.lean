import Bringup.Board.Console
import Bringup.Display.Buffering
/-!
# What images run on

An image is a whole program for the board. It sees the registers of the board and its clock,
shows frames, and may load another program into memory and jump into it. Images run until
the board stops them, so their loops are given a number of rounds.

When an image attempts what it must not, it lights every LED, says what it attempted, and
blinks.
-/

namespace Bringup

/-- The board that images run on, over a state `σ`. -/
structure Platform (σ ε : Type) where
  registers : Registers σ ε
  clock : Clock σ ε
  scanout : Scanout σ ε
  /-- A bound on the bytes that the UART can still bring. -/
  pending : σ → Nat
  /-- The bytes of memory that a loaded program may take. -/
  programSize : Nat
  /-- Puts a byte of a program into memory. -/
  storeProgram : Nat → UInt8 → EStateM ε σ Unit
  /-- Jumps into the program in memory. -/
  jump : EStateM ε σ Unit
  /-- How often to poll a peripheral. -/
  patience : Nat

namespace Platform

variable {σ ε : Type}

/-- The UART of the board. -/
def uart (platform : Platform σ ε) : ByteStream σ (Halt ε) :=
  Uart.stream platform.registers platform.patience platform.pending

/-- Prints a text. -/
def print (platform : Platform σ ε) (text : String) : EStateM (Halt ε) σ Unit :=
  Console.print platform.registers platform.patience text

/-- Prints a line. -/
def printLine (platform : Platform σ ε) (text : String) : EStateM (Halt ε) σ Unit :=
  Console.printLine platform.registers platform.patience text

/-- Prints lines in order. -/
def printLines (platform : Platform σ ε) : List String → EStateM (Halt ε) σ Unit
  | [] => pure ()
  | line :: rest => do
    platform.printLine line
    printLines platform rest

/-- The log, which goes to the console. -/
def log (platform : Platform σ ε) : Logger σ (Halt ε) :=
  Console.logger platform.registers platform.clock platform.patience

/-- Sets the row of LEDs. -/
def setLeds (platform : Platform σ ε) (value : UInt8) : EStateM (Halt ε) σ Unit :=
  Board.setLeds platform.registers value

/-- Reads the clock. -/
def cycles (platform : Platform σ ε) : EStateM (Halt ε) σ UInt64 :=
  Board.access platform.clock.cycles

/-- Waits a number of cycles. -/
def spin (platform : Platform σ ε) (interval : UInt64) : EStateM (Halt ε) σ Unit :=
  Board.access (platform.clock.spin interval)

/-- Microseconds between two changes of the LEDs while blinking. -/
def blinkMicroseconds : UInt64 := 250000

/-- Changes the LEDs so many times at a steady pace. -/
def blink (platform : Platform σ ε) : (changes : Nat) → (lit : Bool) → EStateM (Halt ε) σ Unit
  | 0, _ => pure ()
  | changes + 1, lit => do
    platform.spin (← Board.checked (Clock.ofMicroseconds blinkMicroseconds))
    platform.setLeds (if lit then 0 else 0xff)
    blink platform changes (!lit)

/-- Reports what an image attempted. -/
def reportFault (platform : Platform σ ε) (rounds : Nat) (fault : Fault) :
    EStateM (Halt ε) σ Unit := do
  platform.setLeds 0xff
  platform.printLine ("panic at unknown location: " ++ fault.message)
  platform.blink rounds true

/-- Runs an image and reports what it attempts. -/
def guard (platform : Platform σ ε) (rounds : Nat) (image : EStateM (Halt ε) σ Unit) :
    EStateM (Halt ε) σ Unit := fun state =>
  match image state with
  | .error (.fault fault) state => platform.reportFault rounds fault state
  | result => result

end Platform

end Bringup
