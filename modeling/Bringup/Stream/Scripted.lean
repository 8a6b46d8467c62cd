import Bringup.Stream.Basic
/-!
# A stream with a script

The stream reads from a fixed input and keeps what is written. The script says how the
transfers are cut up, where the input starts to fail, and where the output fills up or
starts to fail.
-/

namespace Bringup

/-- How a scripted stream fails. -/
inductive ScriptedError where
  | readFailed
  | writeFailed
  deriving DecidableEq, Repr

/-- The wording of a scripted failure. -/
def ScriptedError.message : ScriptedError → String
  | .readFailed => "read failed"
  | .writeFailed => "write failed"

/-- How transfers go. A limit that is absent does not bind. -/
structure Script where
  /-- The most bytes one read gives. -/
  readLimit : Option Nat := none
  /-- The position from which on every read fails. -/
  readFailure : Option Nat := none
  /-- The most bytes one write takes. -/
  writeLimit : Option Nat := none
  /-- The length the output never passes. -/
  capacity : Option Nat := none
  /-- The length of the output from which on every write fails. -/
  writeFailure : Option Nat := none
  deriving Repr

/-- A scripted stream in use. -/
structure Scripted where
  script : Script
  /-- The input that was not read yet. -/
  unread : List UInt8
  /-- How much of the input was read. -/
  position : Nat
  /-- Everything written. -/
  output : Array UInt8

namespace Scripted

/-- A stream of which nothing was read or written. -/
def ofInput (script : Script) (input : List UInt8) : Scripted := ⟨script, input, 0, #[]⟩

/-- Cuts a number of bytes at an optional limit. -/
def within (limit : Option Nat) (count : Nat) : Nat :=
  match limit with
  | some most => min most count
  | none => count

/-- Reads up to the next limit of the script. -/
def read (want : Nat) : EStateM ScriptedError Scripted (List UInt8)
  | stream@⟨script, unread, position, output⟩ =>
    if script.readFailure = some position then .error .readFailed stream
    else
      let count := within script.readLimit (within (script.readFailure.map (· - position)) want)
      let bytes := unread.take count
      .ok bytes ⟨script, unread.drop count, position + bytes.length, output⟩

/-- Writes up to the next limit of the script. -/
def write (bytes : List UInt8) : EStateM ScriptedError Scripted Nat
  | ⟨script, unread, position, output⟩ =>
    if script.writeFailure = some output.size then
      .error .writeFailed ⟨script, unread, position, output⟩
    else
      let room (limit : Option Nat) : Option Nat := limit.map (· - output.size)
      let count := within script.writeLimit (within (room script.capacity)
        (within (room script.writeFailure) bytes.length))
      .ok count ⟨script, unread, position, output ++ bytes.take count⟩

/-- The stream that follows its script. -/
def stream : ByteStream Scripted ScriptedError where
  read := read
  write := write
  flush := pure ()
  pending state := state.unread.length

end Scripted

end Bringup
