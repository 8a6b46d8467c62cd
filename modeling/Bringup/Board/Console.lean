import Bringup.Board.Clock
import Bringup.Board.Uart
import Bringup.Text.Utf8
import Bringup.Wire.Message
/-!
# The console of the board

Text for the host's console shares the line with everything else, so each byte of it is sent
as a message of its own. The log goes to the console too, each record as a line that begins
with the time.
-/

namespace Bringup.Console

variable {σ ε : Type}

/-- The messages that carry a text. -/
def encode (text : String) : List UInt8 :=
  (Text.utf8Bytes text).flatMap fun byte => (Message.putc byte).encode

/-- Prints a text. -/
def print (registers : Registers σ ε) (patience : Nat) (text : String) : EStateM (Halt ε) σ Unit :=
  Uart.sendAll registers patience (encode text)

/-- Prints a text and ends the line. -/
def printLine (registers : Registers σ ε) (patience : Nat) (text : String) :
    EStateM (Halt ε) σ Unit :=
  print registers patience (text ++ "\n")

/-- The line for a record logged after so many microseconds. -/
def logLine (microseconds : Nat) (record : LogRecord) : String :=
  "[" ++ Text.padLeft 6 ' ' (Text.decimal (microseconds / 1000000)) ++ "."
    ++ Text.digits 10 6 (microseconds % 1000000) ++ "s] " ++ Text.padLeft 5 ' ' record.level.name
    ++ "(" ++ record.target ++ "): " ++ record.message

/-- Prints records with the time at which they are logged. -/
def logger (registers : Registers σ ε) (clock : Clock σ ε) (patience : Nat) :
    Logger σ (Halt ε) := fun record => do
  let cycles ← Board.access clock.cycles
  printLine registers patience (logLine (cycles / Clock.cyclesPerMicrosecond).toNat record)

end Bringup.Console
