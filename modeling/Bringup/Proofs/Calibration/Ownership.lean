import Bringup.Proofs.Calibration.Chores
/-!
# Taking the path to the memory and giving it back

A calibration begins by taking the path to the memory and withdrawing the last result, and ends by
giving the path back and publishing the new result. All else that it does before and after the
searches is plain (`prepare_trace`, `conclude_trace`), and all of it succeeds where no divisor of
the configuration is zero.
-/

namespace Bringup.Calibration.Sequencer

open Procedure (checked device updateStatus)

variable {σ ε α β : Type} {sequencer : Sequencer σ ε} {before after : Progress σ}

/-- What is published for a result. -/
def verdict (pass : Bool) : UInt32 :=
  if pass then PhyManager.calibrationSuccess else PhyManager.calibrationFailure

/-- What a calibration does before it searches the groups. -/
def prepare (sequencer : Sequencer σ ε) : Procedure σ ε Unit := do
  sequencer.note .info ("calibrating " ++ sequencer.config.protocol.name ++ " memory")
  sequencer.takeOwnership
  sequencer.setRankAndOdtMask 0
  sequencer.startMemory
  updateStatus fun _ => Status.initial
  sequencer.configureMemory
  sequencer.loadReadPatterns

/-- What a calibration does after the searches, given whether all succeeded. -/
def conclude (sequencer : Sequencer σ ε) (pass : Bool) : Procedure σ ε Unit := do
  sequencer.prechargeAndActivate
  sequencer.writePhy PhyManager.fifoReset 0
  sequencer.handOff
  sequencer.writePhy PhyManager.muxSelect 0
  sequencer.writePhy PhyManager.calibrationStatus (verdict pass)

/-- What a calibration does to take the path. -/
def ownershipDeeds (sequencer : Sequencer σ ε) : List Deed :=
  [.log (record .info ("calibrating " ++ sequencer.config.protocol.name ++ " memory")),
    .write (sequencer.config.layout.phyManager + PhyManager.readLatency) 0xf,
    .write (sequencer.config.layout.phyManager + PhyManager.muxSelect) 1,
    .write (sequencer.config.layout.phyManager + PhyManager.memoryStable) 0,
    .write (sequencer.config.layout.phyManager + PhyManager.calibrationStatus) 0]

/-- What a calibration does to give the path back. -/
def releaseDeeds (sequencer : Sequencer σ ε) (pass : Bool) : List Deed :=
  [.write (sequencer.config.layout.phyManager + PhyManager.muxSelect) 0,
    .write (sequencer.config.layout.phyManager + PhyManager.calibrationStatus) (verdict pass)]

/-- A write of a register of the PHY manager that succeeds is that deed. -/
theorem writePhy_eq_ok {offset value : UInt32}
    (ran : sequencer.writePhy offset value before = .ok () after) :
    sequencer.Step before.device
        (.write (sequencer.config.layout.phyManager + offset) value) after.device ∧
      after.status = before.status :=
  (write_eq_ok ran).2

/-- Taking the path is one log line and four writes. -/
theorem takeOwnership_trace
    (noted : sequencer.note .info ("calibrating " ++ sequencer.config.protocol.name ++ " memory")
      before = .ok () middle)
    (took : sequencer.takeOwnership middle = .ok () after) :
    Trace sequencer.Step before.device sequencer.ownershipDeeds after.device := by
  obtain ⟨note, _⟩ := device_eq_ok noted
  obtain ⟨_, first, latency, took⟩ := Action.bind_eq_ok took
  obtain ⟨_, second, mux, took⟩ := Action.bind_eq_ok took
  obtain ⟨_, third, stable, status⟩ := Action.bind_eq_ok took
  exact .next note (.next (writePhy_eq_ok latency).1 (.next (writePhy_eq_ok mux).1
    (.next (writePhy_eq_ok stable).1 (.single (writePhy_eq_ok status).1))))

/-- Setting the write latency is plain, and keeps the latency in the status. -/
theorem configureMemory_trace (configured : sequencer.configureMemory before = .ok () after) :
    ∃ deeds latency, Trace sequencer.Step before.device deeds after.device ∧
      (∀ deed ∈ deeds, sequencer.Plain deed) ∧
      after.status = { before.status with writeLatency := latency } := by
  obtain ⟨address, first, computed, ran⟩ := Action.bind_eq_ok configured
  obtain ⟨_, rfl⟩ := checked_eq_ok computed
  obtain ⟨memoryLatency, second, asked, ran⟩ := Action.bind_eq_ok ran
  obtain ⟨_, third, changed, ran⟩ := Action.bind_eq_ok ran
  have chore : sequencer.Chore (do
      sequencer.writePhy PhyManager.afiWriteLatency (writeLatencyFor memoryLatency - 1)
      sequencer.prechargeAndActivate) :=
    .bind (.writePhy _ (by decide)) fun _ => sequencer.prechargeAndActivate_chore
  obtain ⟨same, deeds, trace, plain⟩ := (Chore.read address).plain asked
  obtain ⟨again, others, later, also⟩ := chore.plain ran
  cases changed
  refine ⟨deeds ++ others, writeLatencyFor memoryLatency, trace.append later,
    List.forall_mem_append.2 ⟨plain, also⟩, ?_⟩
  rw [again, ← same]

/-- Before the searches the path is taken, and all else is plain. The status says that nothing has
failed. -/
theorem prepare_trace (ran : sequencer.prepare before = .ok () after) :
    ∃ deeds latency, Trace sequencer.Step before.device (sequencer.ownershipDeeds ++ deeds)
        after.device ∧
      (∀ deed ∈ deeds, sequencer.Plain deed) ∧
      after.status = { Status.initial with writeLatency := latency } := by
  obtain ⟨_, first, noted, ran⟩ := Action.bind_eq_ok ran
  obtain ⟨_, second, took, ran⟩ := Action.bind_eq_ok ran
  obtain ⟨_, third, ranked, ran⟩ := Action.bind_eq_ok ran
  obtain ⟨_, fourth, started, ran⟩ := Action.bind_eq_ok ran
  obtain ⟨_, fifth, cleared, ran⟩ := Action.bind_eq_ok ran
  obtain ⟨_, sixth, configured, loaded⟩ := Action.bind_eq_ok ran
  have owned := takeOwnership_trace noted took
  obtain ⟨_, starts, start, startPlain⟩ := ((sequencer.setRankAndOdtMask_chore (by decide)).plain
    ranked).trans (sequencer.startMemory_chore.plain started)
  obtain ⟨sets, latency, set, setPlain, status⟩ := configureMemory_trace configured
  obtain ⟨same, loads, load, loadPlain⟩ := sequencer.loadReadPatterns_chore.plain loaded
  cases cleared
  refine ⟨starts ++ (sets ++ loads), latency, owned.append (start.append (set.append load)), ?_,
    same.trans status⟩
  exact List.forall_mem_append.2 ⟨startPlain, List.forall_mem_append.2 ⟨setPlain, loadPlain⟩⟩

/-- After the searches all is plain until the path is given back, and the status is kept. -/
theorem conclude_trace {pass : Bool} (ran : sequencer.conclude pass before = .ok () after) :
    ∃ deeds, Trace sequencer.Step before.device (deeds ++ sequencer.releaseDeeds pass)
        after.device ∧
      (∀ deed ∈ deeds, sequencer.Plain deed) ∧ after.status = before.status := by
  obtain ⟨_, first, precharged, ran⟩ := Action.bind_eq_ok ran
  obtain ⟨_, second, reset, ran⟩ := Action.bind_eq_ok ran
  obtain ⟨_, third, handed, ran⟩ := Action.bind_eq_ok ran
  obtain ⟨_, fourth, mux, published⟩ := Action.bind_eq_ok ran
  have resetting : sequencer.Chore (sequencer.writePhy PhyManager.fifoReset 0) :=
    .writePhy 0 (by decide)
  obtain ⟨same, deeds, trace, plain⟩ := ((sequencer.prechargeAndActivate_chore.plain
    precharged).trans (resetting.plain reset)).trans (sequencer.handOff_chore.plain handed)
  obtain ⟨release, kept⟩ := writePhy_eq_ok mux
  obtain ⟨publish, also⟩ := writePhy_eq_ok published
  exact ⟨deeds, trace.append (.next release (.single publish)), plain,
    also.trans (kept.trans same)⟩

/-- A procedure that succeeds, whatever was before. -/
def Succeeds (procedure : Procedure σ ε α) : Prop :=
  ∀ before, ∃ value after, procedure before = .ok value after

/-- Procedures that succeed succeed in sequence. -/
theorem Succeeds.bind {first : Procedure σ ε α} {rest : α → Procedure σ ε β}
    (begins : Succeeds first) (others : ∀ value, Succeeds (rest value)) :
    Succeeds (first >>= rest) := by
  intro before
  obtain ⟨value, middle, ran⟩ := begins before
  obtain ⟨other, after, later⟩ := others value middle
  exact ⟨other, after, (Action.bind_ok ran _).trans later⟩

/-- Changing the status succeeds. -/
theorem Succeeds.updateStatus (change : Status → Status) :
    Succeeds (Procedure.updateStatus change : Procedure σ ε Unit) :=
  fun _ => ⟨(), _, rfl⟩

section Success

variable (answers : sequencer.Answers) (fits : sequencer.config.layout.Fits)

include answers fits

/-- Writing a register of the PHY manager succeeds. -/
theorem writePhy_succeeds {offset : UInt32} (value : UInt32)
    (inside : offset.toNat < PhyManager.window) : Succeeds (sequencer.writePhy offset value) := by
  intro before
  obtain ⟨next, does⟩ := writePhy_does answers fits offset value inside before.device
  exact ⟨(), _, does.runs before.status⟩

variable (divides : sequencer.config.Divides)

include divides

/-- A chore succeeds. -/
theorem Chore.succeeds {procedure : Procedure σ ε α} (chore : sequencer.Chore procedure) :
    Succeeds procedure := by
  intro before
  obtain ⟨value, next, ran⟩ := chore.runs answers fits divides before.status before.device
  exact ⟨value, _, ran⟩

/-- What comes before the searches succeeds. -/
theorem prepare_succeeds : Succeeds sequencer.prepare := by
  have write {offset : UInt32} (value : UInt32) (inside : offset.toNat < PhyManager.window) :
      Succeeds (sequencer.writePhy offset value) := writePhy_succeeds answers fits value inside
  have chore {γ : Type} {procedure : Procedure σ ε γ} (plain : sequencer.Chore procedure) :
      Succeeds procedure := plain.succeeds answers fits divides
  have ends := fits.phy
  have configures : Succeeds sequencer.configureMemory := by
    refine .bind (chore (.compute fun _ _ => ⟨_, add32_ok ?_⟩)) fun address =>
      .bind (chore (.read address)) fun memoryLatency => .bind (.updateStatus _) fun _ =>
      .bind (write _ (by decide)) fun _ => chore sequencer.prechargeAndActivate_chore
    have latency : PhyManager.memoryWriteLatency.toNat = 0x1c := by decide
    rw [PhyManager.window] at ends
    omega
  have takes : Succeeds sequencer.takeOwnership :=
    .bind (write _ (by decide)) fun _ => .bind (write _ (by decide)) fun _ =>
      .bind (write _ (by decide)) fun _ => write _ (by decide)
  exact .bind (chore (.note _ _)) fun _ => .bind takes fun _ =>
    .bind (chore (sequencer.setRankAndOdtMask_chore (by decide))) fun _ =>
    .bind (chore sequencer.startMemory_chore) fun _ => .bind (.updateStatus _) fun _ =>
    .bind configures fun _ => chore sequencer.loadReadPatterns_chore

/-- What comes after the searches succeeds. -/
theorem conclude_succeeds (pass : Bool) : Succeeds (sequencer.conclude pass) := by
  have chore {γ : Type} {procedure : Procedure σ ε γ} (plain : sequencer.Chore procedure) :
      Succeeds procedure := plain.succeeds answers fits divides
  exact .bind (chore sequencer.prechargeAndActivate_chore) fun _ =>
    .bind (chore (.writePhy _ (by decide))) fun _ => .bind (chore sequencer.handOff_chore) fun _ =>
    .bind (writePhy_succeeds answers fits _ (by decide)) fun _ =>
    writePhy_succeeds answers fits _ (by decide)

end Success

end Bringup.Calibration.Sequencer
