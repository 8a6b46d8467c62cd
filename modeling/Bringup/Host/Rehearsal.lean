import Bringup.Host.Client
import Bringup.Host.Session
/-!
# Host and replayed board

A board that replays its side of the talk, a screen that keeps what is shown, and the log of the
host between them.
-/

namespace Bringup.Host

/-- The replayed board, the screen and the log. -/
structure Rehearsal where
  board : Replay
  screen : KeptScreen
  log : Array LogRecord := #[]

namespace Rehearsal

/-- The board. -/
def boardPart : Part Rehearsal Replay :=
  ⟨fun ⟨board, screen, log⟩ => (board, fun board => ⟨board, screen, log⟩)⟩

/-- The screen. -/
def screenPart : Part Rehearsal KeptScreen :=
  ⟨fun ⟨board, screen, log⟩ => (screen, fun screen => ⟨board, screen, log⟩)⟩

/-- The log. -/
def logPart : Part Rehearsal (Array LogRecord) :=
  ⟨fun ⟨board, screen, log⟩ => (log, fun log => ⟨board, screen, log⟩)⟩

/-- The board as a device. -/
def device : Device Rehearsal := Replay.device.onPart boardPart

/-- The screen as a screen. -/
def console : Screen Rehearsal := KeptScreen.screen.onPart screenPart

/-- A session that serves these files. -/
def session (files : FileTree) (source : ProgramSource) : Session Rehearsal :=
  ⟨device, console, Logger.keeping.onPart logPart, fun path => pure (files.read path), source⟩

/-- A client of the monitor. -/
def client : Client Rehearsal := ⟨device, Logger.keeping.onPart logPart⟩

end Rehearsal

end Bringup.Host
