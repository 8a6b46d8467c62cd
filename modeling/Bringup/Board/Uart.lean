import Bringup.Board.Registers
import Bringup.Stream.Basic
/-!
# The UART

The UART sends and receives one byte at a time. As a stream it blocks: a read brings every
byte it was asked for, and a write takes every byte it was given.
-/

namespace Bringup.Uart

variable {σ ε : Type}

/-- Bit 0 of a status register. -/
def isReady (status : UInt8) : Bool := status &&& 1 != 0

/-- Sends a byte as soon as the UART takes one. -/
def send (registers : Registers σ ε) (patience : Nat) (byte : UInt8) :
    EStateM (Halt ε) σ Unit := do
  Board.await (isReady <$> registers.readByte Board.uartSendStatus) patience
  Board.access (registers.writeByte Board.uartSend byte)

/-- Receives a byte as soon as the UART holds one. -/
def receive (registers : Registers σ ε) (patience : Nat) : EStateM (Halt ε) σ UInt8 := do
  Board.await (isReady <$> registers.readByte Board.uartReceiveStatus) patience
  Board.access (registers.readByte Board.uartReceive)

/-- Sends bytes in order. -/
def sendAll (registers : Registers σ ε) (patience : Nat) : List UInt8 → EStateM (Halt ε) σ Unit
  | [] => pure ()
  | byte :: rest => do
    send registers patience byte
    sendAll registers patience rest

/-- Receives so many bytes. -/
def receiveAll (registers : Registers σ ε) (patience : Nat) :
    (count : Nat) → EStateM (Halt ε) σ (List UInt8)
  | 0 => pure []
  | count + 1 => do
    let byte ← receive registers patience
    let rest ← receiveAll registers patience count
    pure (byte :: rest)

/-- The UART as a stream, given a bound on what can still arrive. -/
def stream (registers : Registers σ ε) (patience : Nat) (pending : σ → Nat) :
    ByteStream σ (Halt ε) where
  read count := receiveAll registers patience count
  write bytes := do
    sendAll registers patience bytes
    pure bytes.length
  flush := pure ()
  pending := pending

end Bringup.Uart
