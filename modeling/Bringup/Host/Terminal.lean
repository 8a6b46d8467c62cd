import Bringup.Files.Tree
import Bringup.Host.Device
/-!
# Serial ports

A serial port is a terminal whose other end is the board. Opening one fails when its path
leads to something else. When the other end hangs up, every later transfer fails.
-/

namespace Bringup

/-- A terminal and its other end. -/
structure Terminal where
  /-- What the other end sent and was not read yet. -/
  unread : List UInt8
  /-- What the other end received. -/
  received : Array UInt8 := #[]
  /-- Whether the other end is gone. -/
  hungUp : Bool := false
  /-- Whether a byte was wanted when there was none. -/
  starved : Bool := false

namespace Terminal

/-- The part of the system that opens serial ports, as the log names it. -/
def logTarget : String := "xw_host::serial"

/-- The rate of a port when none is asked for. -/
def defaultBaudRate : UInt32 := 460800

/-- What the log says when a port was opened. -/
def opened (path : String) (baudRate : UInt32) : LogRecord :=
  ⟨.info, logTarget, "opened " ++ path ++ " at " ++ Text.decimal baudRate.toNat ++ " baud"⟩

/-- Why a path among the files is no serial port. -/
def openError (files : FileTree) (path : String) : DeviceError :=
  .serial (match files.read path with
    | .error .zeroInPath => "Invalid argument"
    | .error error => error.reason
    | .ok _ => "Not a typewriter")

/-- An action that needs the other end to be there. -/
def connected {α : Type} (failure : String) (action : EStateM DeviceError Terminal α) :
    EStateM DeviceError Terminal α := do
  if (← get).hungUp then throw (.io failure)
  action

/-- The other end hangs up. What it sent is lost. -/
def hangUp (terminal : Terminal) : Terminal := { terminal with unread := [], hungUp := true }

/-- Takes the next byte. When there is none the line has ended. -/
def readByte : EStateM DeviceError Terminal UInt8 := connected "Broken pipe" fun terminal =>
  match terminal.unread with
  | byte :: unread => .ok byte { terminal with unread }
  | [] => .error .closed { terminal with starved := true }

/-- Sends bytes to the other end. Sending none always works. -/
def writeBytes (bytes : List UInt8) : EStateM DeviceError Terminal Unit :=
  if bytes.isEmpty then pure ()
  else connected "Broken pipe" (modify fun terminal =>
    { terminal with received := terminal.received ++ bytes })

/-- The board behind a terminal. -/
def device : Device Terminal where
  readByte := readByte
  writeBytes := writeBytes
  flush := connected "flush failed" (pure ())
  pending terminal := terminal.unread.length

end Terminal

end Bringup
