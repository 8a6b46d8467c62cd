import Bringup.Monitor.Frame
import Bringup.Part
import Bringup.Stream.Scripted
import Std.Data.HashMap
/-!
# A simulated system behind the monitor

Words keep what was written to them. The clock moves by a fixed amount on each reading and
on each poll of the rasterizer, which stays busy for a scripted number of polls per start.
Everything that was done to the system is recorded.
-/

namespace Bringup.Monitor

/-- What was done to the simulated system. -/
inductive SystemEvent where
  | read (address data : UInt32)
  | write (address data : UInt32)
  | start
  | polled (busy : Bool)
  | cycles (value : UInt64)
  deriving DecidableEq, Repr

/-- The event as a record shows it. -/
def SystemEvent.text : SystemEvent → String
  | .read address data => "R" ++ Text.hex 8 address.toNat ++ "=" ++ Text.hex 8 data.toNat
  | .write address data => "W" ++ Text.hex 8 address.toNat ++ "=" ++ Text.hex 8 data.toNat
  | .start => "start"
  | .polled busy => if busy then "busy=1" else "busy=0"
  | .cycles value => "cycles=" ++ Text.markedHex 1 value.toNat

/-- The simulated system. -/
structure SimulatedSystem where
  /-- Words that were written; all others are zero. -/
  words : Std.HashMap UInt32 UInt32
  clock : UInt64
  /-- What a reading of the clock adds to it. -/
  tick : UInt64
  /-- What a poll of the rasterizer adds to the clock. -/
  pollTick : UInt64
  /-- The busy polls of the starts to come; a start past the list is not busy at all. -/
  runs : List Nat
  /-- The busy polls left of the running job. -/
  busyPolls : Nat
  events : Array SystemEvent

namespace SimulatedSystem

variable {ε : Type}

/-- Adds an event to the record. -/
def record (system : SimulatedSystem) (event : SystemEvent) : SimulatedSystem :=
  { system with events := system.events.push event }

/-- The system as the monitor sees it. -/
def target : Target SimulatedSystem ε where
  readWord address := do
    let data := (← get).words.getD address 0
    modify (·.record (.read address data))
    pure data
  writeWord address data := modify fun system =>
    let system := system.record (.write address data)
    { system with words := system.words.insert address data }
  startRasterizer := modify fun system =>
    let system := system.record .start
    { system with busyPolls := system.runs.headD 0, runs := system.runs.tail }
  rasterizerBusy := do
    let busy := decide (0 < (← get).busyPolls)
    modify fun system =>
      let system := system.record (.polled busy)
      { system with busyPolls := system.busyPolls - 1, clock := system.clock + system.pollTick }
    pure busy
  cycles := do
    let clock := (← get).clock + (← get).tick
    modify fun system => { system.record (.cycles clock) with clock := clock }
    pure clock

/-- A number of polls that outlasts every run of the rasterizer still to come. -/
def patience (system : SimulatedSystem) : Nat :=
  system.runs.foldl max system.busyPolls + 1

end SimulatedSystem

/-- A scripted host, the simulated system and the log of the monitor between them. -/
structure Rehearsal where
  host : Scripted
  system : SimulatedSystem
  log : Array LogRecord

namespace Rehearsal

/-- The scripted host. -/
def hostPart : Part Rehearsal Scripted :=
  ⟨fun ⟨host, system, log⟩ => (host, fun host => ⟨host, system, log⟩)⟩

/-- The simulated system. -/
def systemPart : Part Rehearsal SimulatedSystem :=
  ⟨fun ⟨host, system, log⟩ => (system, fun system => ⟨host, system, log⟩)⟩

/-- The log. -/
def logPart : Part Rehearsal (Array LogRecord) :=
  ⟨fun ⟨host, system, log⟩ => (log, fun log => ⟨host, system, log⟩)⟩

/-- Serves one frame. -/
def serveFrame : EStateM (FrameError ScriptedError) Rehearsal Unit := do
  let patience := (← get).system.patience
  Monitor.serveFrame (hostPart.stream Scripted.stream)
    (SimulatedSystem.target.onPart systemPart) (Logger.keeping.onPart logPart) patience

end Rehearsal

end Bringup.Monitor
