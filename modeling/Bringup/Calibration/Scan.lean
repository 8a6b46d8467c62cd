import Bringup.Calibration.PhaseSearch
/-!
# Scanning the DQS enable phase

A scan tests every phase from the current one on and goes back afterwards. It may print a
map of the tests as it goes; whether a text could be printed does not change the scan.
-/

namespace Bringup.Calibration.Sequencer

open Procedure (checked device updateStatus)

variable {σ ε : Type}

/-- Where a scan prints. A printer says whether it took the text. -/
abbrev Printer (σ ε : Type) : Type := Option (String → EStateM ε σ Bool)

/-- Prints a text if there is a printer. -/
def print (printer : Printer σ ε) (text : String) : Procedure σ ε Unit :=
  match printer with
  | some print => (fun _ => ()) <$> device (print text)
  | none => pure ()

/-- Tests phases upwards and answers how many work. -/
def scanUp (sequencer : Sequencer σ ε) (printer : Printer σ ε) (group : UInt32) :
    (steps : Nat) → (working : Nat) → Procedure σ ε Nat
  | 0, working => pure working
  | steps + 1, working => do
    let pass ← sequencer.anyBitReads group
    print printer (if pass then "1" else "0")
    sequencer.phaseUp group
    scanUp sequencer printer group steps (if pass then working + 1 else working)

/-- Scans `steps` phases of a group and answers how many work. -/
def scan (sequencer : Sequencer σ ε) (printer : Printer σ ε) (group : UInt32) (steps : Nat) :
    Procedure σ ε Nat := do
  print printer ("DQS enable phase scan, group " ++ Text.decimal group.toNat ++ ":\n")
  let working ← sequencer.scanUp printer group steps 0
  sequencer.phaseDownBy group steps
  print printer "\n"
  pure working

end Bringup.Calibration.Sequencer
