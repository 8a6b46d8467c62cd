import Bringup.Files.Tree
import Bringup.Host.Device
import Bringup.Host.Screen
import Bringup.Wire.Program
/-!
# Console sessions

While a board starts it sends console text and asks for programs. A session shows the text
and answers each request with a file, until the monitor announces itself.

The loop is bounded by the bytes that can still arrive, since each message takes at least
one.
-/

namespace Bringup

/-- Where requested programs come from. -/
inductive ProgramSource where
  /-- A requested name is looked up in this directory. -/
  | directory (root : String)
  /-- Every request is answered with this file. -/
  | fixed (path : String)
  deriving DecidableEq, Repr

/-- The file that answers a request. -/
def ProgramSource.resolve : ProgramSource → (name : String) → String
  | .directory root, name => Path.join root name
  | .fixed path, _ => path

/-- Why a session ended before the monitor announced itself. -/
inductive SessionError where
  /-- No message could be received. -/
  | receiving (error : DeviceError)
  /-- The screen failed, for this cause. -/
  | screen (cause : String)
  /-- A requested program could not be read. -/
  | unreadable (path : String) (error : FileError)
  /-- A program could not be sent. -/
  | sending (error : DeviceError)
  /-- A program could not be pushed out. -/
  | flushing (error : DeviceError)
  deriving DecidableEq, Repr

/-- The wording of a session error and of the causes below it, the outermost first. -/
def SessionError.chain : SessionError → List String
  | .receiving error => "cannot read device message" :: error.chain
  | .screen cause => [cause]
  | .unreadable path error => ["cannot read program " ++ path, error.message]
  | .sending error => "cannot send program" :: error.chain
  | .flushing error => error.chain

/-- The device error among the causes, if there is one. -/
def SessionError.device? : SessionError → Option DeviceError
  | .receiving error | .sending error | .flushing error => some error
  | .screen _ | .unreadable _ _ => none

/-- What a session works with, over a state `σ`. -/
structure Session (σ : Type) where
  device : Device σ
  screen : Screen σ
  log : Logger σ Empty
  /-- Reads a file. -/
  readFile : String → EStateM Empty σ (Except FileError (List UInt8))
  source : ProgramSource

/-- A state and the number of programs served so far. -/
structure Serving (σ : Type) where
  programs : Nat
  world : σ

namespace Session

variable {σ : Type}

/-- The part of the system that shows the console, as the log names it. -/
def logTarget : String := "xw_host::console"

/-- The most bytes of a requested name that are kept. -/
def maxName : Nat := 256

/-- The world of a serving session. -/
def world : Part (Serving σ) σ := ⟨fun ⟨programs, world⟩ => (world, fun world => ⟨programs, world⟩)⟩

/-- Acts on the world and says what a failure means for the session. -/
def acting {ε α : Type} (failure : ε → SessionError) (action : EStateM ε σ α) :
    EStateM SessionError (Serving σ) α :=
  EStateM.adaptExcept failure (world.run action)

/-- Notes something in the log. -/
def note (session : Session σ) (message : String) : EStateM SessionError (Serving σ) Unit :=
  world.run (session.log.note ⟨.info, logTarget, message⟩)

/-- Shows a console byte. A line is brought up when it ends. -/
def showByte (session : Session σ) (byte : UInt8) : EStateM SessionError (Serving σ) Unit :=
  acting .screen do
    session.screen.write [byte]
    if byte = 0x0a then session.screen.flush else pure ()

/-- Answers a request with the file that the name stands for. -/
def serve (session : Session σ) (name : String) : EStateM SessionError (Serving σ) Unit := do
  let path := session.source.resolve name
  session.note ("program requested: " ++ name ++ " (" ++ path ++ ")")
  match ← acting (fun error => nomatch error) (session.readFile path) with
  | .error error => throw (.unreadable path error)
  | .ok image =>
    session.note ("serving " ++ Text.decimal image.length ++ " bytes, CRC "
      ++ Text.hex 8 (Crc32.checksum image).toNat)
    acting (fun error => .sending (.ofTransfer error)) (Program.serve session.device.link image)
    acting .flushing session.device.flush
    modify fun serving => { serving with programs := serving.programs + 1 }

/-- Handles at most `rounds` messages. -/
def handle (session : Session σ) : (rounds : Nat) → EStateM SessionError (Serving σ) Unit
  | 0 => throw (.receiving .closed)
  | rounds + 1 => do
    match ← acting .receiving (session.device.receive maxName) with
    | .putc byte =>
      session.showByte byte
      handle session rounds
    | .loadProgram name =>
      session.serve (Text.decodeLossy name)
      handle session rounds
    | .ready => acting .screen session.screen.flush

/-- Handles messages until the monitor announces itself. -/
def run (session : Session σ) : EStateM SessionError (Serving σ) Unit := do
  let serving ← get
  session.handle (session.device.pending serving.world + 1)

end Session

end Bringup
