import Bringup.Proofs.Calibration.Handover
import Bringup.Proofs.Calibration.RomPrograms
import Bringup.Proofs.Header.Divisors
/-!
# Where accepted headers leave programs out

The entry of a program is zero where the headers bind no constant for it. That is harmless for the
programs that a calibration ignores, and for no others (`Settings.accepted_programs`): without the
constant of a program that the protocol demands, headers are accepted all the same, and a
calibration runs what is at the start of the instruction memory (`Settings.mrs2less_runs_zero`).
-/

namespace Bringup

open Calibration

/-- The constants but for one. -/
def Defines.without (defines : Defines) (name : String) : Defines :=
  ⟨defines.bindings.filter fun binding => binding.1 ≠ name⟩

namespace Settings

variable {defines : Defines} {settings : Settings}

/-- Headers whose settings pass a test give settings. -/
theorem accepted_of_any (defines : Defines) (test : Settings → Bool)
    (passes : (ofDefines defines).toOption.any test = true) :
    ∃ settings, ofDefines defines = .ok settings ∧ test settings = true := by
  cases accepted : ofDefines defines with
  | ok settings =>
    rw [accepted] at passes
    exact ⟨settings, rfl, passes⟩
  | error error =>
    rw [accepted] at passes
    cases passes

/-- For all headers that give settings, and every program: its entry is what the headers bind, or
zero where they bind nothing. If the protocol demands the program, then every calibration that comes
to its end has run this entry or set it as a jump target; otherwise no calibration depends on it. -/
theorem accepted_programs (accepted : ofDefines defines = .ok settings) (program : RomProgram) :
    settings.programs program = (defines.get? program.constant).getD 0 ∧
    (program ∈ settings.config.demanded → settings.config.Uses program) ∧
    (program ∉ settings.config.demanded → settings.config.Ignores program) :=
  ⟨(readFrom accepted).programs program, settings.config.uses_of_demanded,
    settings.config.ignores_of_not_demanded⟩

/-- The standard header binds the constant of every program that its protocol demands, so that every
calibration with its settings runs what it says; and it binds none for the first mode register of
another protocol, on which no calibration depends. -/
theorem standard_complete : ∃ settings, ofDefines .standard = .ok settings ∧
    (∀ program ∈ settings.config.demanded, ∃ entry,
      Defines.standard.get? program.constant = some entry ∧ settings.programs program = entry ∧
        settings.config.Uses program) ∧
    Defines.standard.get? RomProgram.emr.constant = none ∧ settings.config.Ignores .emr := by
  obtain ⟨settings, accepted, complete⟩ := accepted_of_any .standard
    (fun settings => decide ((∀ program ∈ settings.config.demanded,
      (Defines.standard.get? program.constant).isSome) ∧ .emr ∉ settings.config.demanded))
    (by decide +kernel)
  obtain ⟨bound, spared⟩ := of_decide_eq_true complete
  refine ⟨settings, accepted, fun program among => ?_, by decide,
    (accepted_programs accepted .emr).2.2 spared⟩
  obtain ⟨entry, same⟩ := Option.isSome_iff_exists.1 (bound program among)
  obtain ⟨read, uses, -⟩ := accepted_programs accepted program
  rw [same] at read
  exact ⟨entry, same, read, uses among⟩

/-- Without the constant of a mode register that every DDR3 memory is given, the standard header is
accepted all the same. Whatever bus the memory is on, its calibration uses the entry, which is zero:
it comes to its end and has run what is at the start of the instruction memory. -/
theorem mrs2less_runs_zero : ∃ settings,
    ofDefines (.without .standard RomProgram.mrs2.constant) = .ok settings ∧
    (Defines.without .standard RomProgram.mrs2.constant).get? RomProgram.mrs2.constant = none ∧
    settings.config.Uses .mrs2 ∧
    ∀ {σ ε : Type} {bus : Bus σ ε} {log : Logger σ ε}, bus.Total →
      (∀ record state, ∃ next, log record state = .ok () next) →
      ∀ masks before, ∃ (pass : Bool) (after : Progress (σ × Array Access))
        (record : List Access) (offset : UInt32),
        (settings.config.recorder bus log masks settings.programs).calibrate before =
          .ok pass after ∧
        after.device.2 = before.device.2 ++ record ∧ RwManager.TakesEntry offset ∧
        .write (settings.config.layout.rwManager + offset) 0 ∈ record := by
  obtain ⟨settings, accepted, facts⟩ := accepted_of_any
    (.without .standard RomProgram.mrs2.constant)
    (fun settings => decide (settings.config.layout = Config.sample.layout ∧
      settings.config.geometry .virtualGroupsPerReadDqs = 1 ∧
      settings.config.geometry .dataMaskWidth ≠ 0 ∧ .mrs2 ∈ settings.config.demanded))
    (by decide +kernel)
  obtain ⟨layout, single, mask, demanded⟩ := of_decide_eq_true facts
  have missing : (Defines.without .standard RomProgram.mrs2.constant).get?
      RomProgram.mrs2.constant = none := by decide
  have zero : settings.config.programs .mrs2 = 0 := by
    have read := (readFrom accepted).programs .mrs2
    rw [missing] at read
    exact read
  obtain ⟨bound, slow⟩ := geometry_eq accepted
  have divides : settings.config.Divides :=
    ⟨(bound .virtualGroupsPerReadDqs).2 rfl, mask, (bound .afiRateRatio).2 rfl,
      (bound .afiClockFrequency).2 rfl, slow⟩
  have fits : settings.config.layout.Fits := by
    rw [layout]
    exact Sequencer.sample_separates.toFits
  refine ⟨settings, accepted, missing, settings.config.uses_of_demanded demanded,
    fun {σ ε bus log} total logs => ?_⟩
  rw [← zero]
  exact settings.config.runs_of_demanded total logs divides fits (by rw [single]; decide) demanded

end Settings

end Bringup
