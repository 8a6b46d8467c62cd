import Bringup.Calibration.Phy
import Bringup.Calibration.Run
import Bringup.Calibration.Scan
/-!
# Calibrating a simulated PHY

The simulated PHY with a record of the accesses to it, of the log lines of the sequencer and of
the text that a scan printed.
-/

namespace Bringup.Calibration

/-- A simulated PHY under observation. -/
structure Rehearsal where
  phy : Phy
  accesses : Array Access
  log : Array LogRecord
  printed : String

namespace Rehearsal

variable {ε : Type}

/-- The PHY and the record of accesses. -/
def phyPart : Part Rehearsal (Phy × Array Access) :=
  ⟨fun ⟨phy, accesses, log, printed⟩ =>
    ((phy, accesses), fun (phy, accesses) => ⟨phy, accesses, log, printed⟩)⟩

/-- The log lines. -/
def logPart : Part Rehearsal (Array LogRecord) :=
  ⟨fun ⟨phy, accesses, log, printed⟩ => (log, fun log => ⟨phy, accesses, log, printed⟩)⟩

/-- A sequencer on the observed PHY. -/
def sequencer (config : Config) : Except Fault (Sequencer Rehearsal ε) :=
  Sequencer.create (Phy.bus.recording.onPart phyPart) (Logger.keeping.onPart logPart) config

/-- Keeps what a scan prints. -/
def printer : Sequencer.Printer Rehearsal ε := some fun text ⟨phy, accesses, log, printed⟩ =>
  .ok true ⟨phy, accesses, log, printed ++ text⟩

/-- A PHY of which nothing was seen yet. -/
def ofPhy (phy : Phy) : Rehearsal := ⟨phy, #[], #[], ""⟩

/-- Changes the PHY itself. -/
def adjust (change : Phy → Phy) : Procedure Rehearsal ε Unit := fun ⟨status, rehearsal⟩ =>
  .ok () ⟨status, { rehearsal with phy := change rehearsal.phy }⟩

end Rehearsal

end Bringup.Calibration
