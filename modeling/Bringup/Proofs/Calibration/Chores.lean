import Bringup.Calibration.Run
import Bringup.Proofs.Calibration.Accesses
import Bringup.Proofs.Calibration.ClockCounts
/-!
# What a sequencer does besides searching

Starting the memory, waiting, loading patterns and handing over are chores: they write registers of
the read-write manager and a few of the PHY manager, and log. Nothing that a chore does moves a
clock or a FIFO, takes or gives back the path to the memory, or publishes a result
(`Chore.plain`). A chore computes with the numbers of the configuration; where those it divides by
are not zero it succeeds on every bus that does not fail (`Chore.runs`).
-/

namespace Bringup.Calibration

/-- No number of the configuration that is divided by is zero, nor is the period of the controller's
clock in whole picoseconds. -/
structure Config.Divides (config : Config) : Prop where
  virtualGroups : config.geometry .virtualGroupsPerReadDqs ≠ 0
  dataMask : config.geometry .dataMaskWidth ≠ 0
  ratio : config.geometry .afiRateRatio ≠ 0
  frequency : config.geometry .afiClockFrequency ≠ 0
  period : (config.geometry .afiClockFrequency).toNat ≤ 1000000

/-- Registers of the PHY manager that say nothing about a FIFO, the path to the memory or a
result. -/
def PhyManager.plain : List UInt32 := [fifoReset, readLatency, memoryStable, afiWriteLatency]

/-- Where these registers lie. -/
theorem PhyManager.toNat_plain {offset : UInt32} (among : offset ∈ plain) :
    offset.toNat = 8 ∨ offset.toNat = 0x4000 ∨ offset.toNat = 0x4004 ∨ offset.toNat = 0x4018 := by
  simp only [plain, List.mem_cons, List.not_mem_nil, or_false] at among
  rcases among with rfl | rfl | rfl | rfl <;> decide

/-- They lie in the window of the manager. -/
theorem PhyManager.plain_lt {offset : UInt32} (among : offset ∈ plain) :
    offset.toNat < window := by
  have place := toNat_plain among
  rw [window]
  omega

namespace Sequencer

open Procedure (checked device)

variable {σ ε α β : Type} {sequencer : Sequencer σ ε}

/-- A deed that moves neither a clock nor a FIFO and has nothing to do with the path to the memory
or the result. -/
inductive Plain (sequencer : Sequencer σ ε) : Deed → Prop where
  | log (record : LogRecord) : Plain sequencer (.log record)
  | read (address value : UInt32) : Plain sequencer (.read address value)
  | rw {address : UInt32} (value : UInt32) :
    sequencer.config.layout.rwManager.toNat ≤ address.toNat →
    address.toNat < sequencer.config.layout.rwManager.toNat + RwManager.window →
    Plain sequencer (.write address value)
  | phy {address offset : UInt32} (value : UInt32) : offset ∈ PhyManager.plain →
    address.toNat = sequencer.config.layout.phyManager.toNat + offset.toNat →
    Plain sequencer (.write address value)

/-- A program made of accesses to plain registers, of log lines, and of computations that succeed
where the registers have addresses and the divisors are not zero. -/
inductive Chore (sequencer : Sequencer σ ε) : {α : Type} → Procedure σ ε α → Prop where
  | pure {α : Type} (value : α) : Chore sequencer (pure value)
  | bind {α β : Type} {first : Procedure σ ε α} {rest : α → Procedure σ ε β} :
    Chore sequencer first → (∀ value, Chore sequencer (rest value)) →
    Chore sequencer (first >>= rest)
  | compute {α : Type} {result : Except Fault α} :
    (sequencer.config.layout.Fits → sequencer.config.Divides → ∃ value, result = .ok value) →
    Chore sequencer (checked result)
  | note (level : Level) (message : String) : Chore sequencer (sequencer.note level message)
  | read (address : UInt32) : Chore sequencer (device (sequencer.bus.read address))
  | writeRw {offset : UInt32} (value : UInt32) : offset.toNat < RwManager.window →
    Chore sequencer (sequencer.writeRw offset value)
  | writePhy {offset : UInt32} (value : UInt32) : offset ∈ PhyManager.plain →
    Chore sequencer (sequencer.writePhy offset value)

namespace Chore

/-- Where nothing it divides by is zero, a chore succeeds on a bus that does not fail, and leaves
the status as it is. -/
theorem runs {procedure : Procedure σ ε α} (chore : sequencer.Chore procedure)
    (answers : sequencer.Answers) (fits : sequencer.config.layout.Fits)
    (divides : sequencer.config.Divides) (status : Status) (state : σ) :
    ∃ value next, procedure ⟨status, state⟩ = .ok value ⟨status, next⟩ := by
  induction chore generalizing state with
  | pure value => exact ⟨value, state, rfl⟩
  | bind _ _ first rest =>
    obtain ⟨value, middle, ran⟩ := first state
    obtain ⟨other, next, others⟩ := rest value middle
    exact ⟨other, next, (Action.bind_ok ran _).trans others⟩
  | compute computes =>
    obtain ⟨value, rfl⟩ := computes fits divides
    exact ⟨value, state, rfl⟩
  | note level message =>
    obtain ⟨next, does⟩ := note_does answers level message state
    exact ⟨(), next, does.runs status⟩
  | read address =>
    obtain ⟨value, next, does⟩ := read_does answers address state
    exact ⟨value, next, does.runs status⟩
  | writeRw value inside =>
    obtain ⟨next, does⟩ := writeRw_does answers fits _ value inside state
    exact ⟨(), next, does.runs status⟩
  | writePhy value among =>
    obtain ⟨next, does⟩ :=
      writePhy_does answers fits _ value (PhyManager.plain_lt among) state
    exact ⟨(), next, does.runs status⟩

end Chore

/-- The status is as before, and only plain deeds lie between. -/
structure PlainRun (sequencer : Sequencer σ ε) (before after : Progress σ) : Prop where
  status : after.status = before.status
  trace : ∃ deeds, Trace sequencer.Step before.device deeds after.device ∧
    ∀ deed ∈ deeds, sequencer.Plain deed

namespace PlainRun

variable {before middle after : Progress σ}

/-- Where nothing happens there is no deed. -/
theorem refl (progress : Progress σ) : sequencer.PlainRun progress progress :=
  ⟨rfl, [], .done _, fun _ member => absurd member List.not_mem_nil⟩

/-- Plain deeds and then plain deeds. -/
theorem trans (first : sequencer.PlainRun before middle)
    (second : sequencer.PlainRun middle after) : sequencer.PlainRun before after := by
  obtain ⟨same, deeds, trace, plain⟩ := first
  obtain ⟨again, others, later, also⟩ := second
  exact ⟨again.trans same, deeds ++ others, trace.append later,
    List.forall_mem_append.2 ⟨plain, also⟩⟩

/-- One plain deed. -/
theorem single {deed : Deed} (plain : sequencer.Plain deed)
    (step : sequencer.Step before.device deed after.device)
    (same : after.status = before.status) : sequencer.PlainRun before after :=
  ⟨same, [deed], .single step, List.forall_mem_singleton.2 plain⟩

end PlainRun

/-- An action on the device that succeeds changes the device alone. -/
theorem device_eq_ok {action : EStateM ε σ α} {value : α} {before after : Progress σ}
    (ran : device action before = .ok value after) :
    action before.device = .ok value after.device ∧ after.status = before.status := by
  obtain ⟨status, state⟩ := before
  rw [device] at ran
  cases step : action state with
  | ok result next =>
    rw [step] at ran
    cases ran
    exact ⟨rfl, rfl⟩
  | error error next =>
    rw [step] at ran
    cases ran

/-- A computation that succeeds changes nothing. -/
theorem checked_eq_ok {result : Except Fault α} {value : α} {before after : Progress σ}
    (ran : (checked result : Procedure σ ε α) before = .ok value after) :
    result = .ok value ∧ after = before := by
  cases result with
  | ok computed =>
    cases ran
    exact ⟨rfl, rfl⟩
  | error fault => cases ran

/-- A write behind a base address that succeeds went to the sum of the two. -/
theorem write_eq_ok {base offset value : UInt32} {before after : Progress σ}
    (ran : (do
      let address ← checked (Word.add32 base offset)
      device (sequencer.bus.write address value) : Procedure σ ε Unit) before = .ok () after) :
    (base + offset).toNat = base.toNat + offset.toNat ∧
      sequencer.Step before.device (.write (base + offset) value) after.device ∧
      after.status = before.status := by
  obtain ⟨address, middle, computed, wrote⟩ := Action.bind_eq_ok ran
  obtain ⟨sum, rfl⟩ := checked_eq_ok computed
  obtain ⟨rfl, number⟩ := add32_eq_ok sum
  obtain ⟨step, same⟩ := device_eq_ok wrote
  exact ⟨number, step, same⟩

/-- Whenever a chore succeeds, all that it did was plain. -/
theorem Chore.plain {procedure : Procedure σ ε α} (chore : sequencer.Chore procedure) {result : α}
    {before after : Progress σ} (ran : procedure before = .ok result after) :
    sequencer.PlainRun before after := by
  induction chore generalizing before after with
  | pure =>
    cases ran
    exact .refl before
  | bind _ _ first rest =>
    obtain ⟨value, middle, ran, others⟩ := Action.bind_eq_ok ran
    exact (first ran).trans (rest value others)
  | compute =>
    obtain ⟨_, rfl⟩ := checked_eq_ok ran
    exact .refl after
  | note level message =>
    obtain ⟨step, same⟩ := device_eq_ok ran
    exact .single (.log (record level message)) step same
  | read address =>
    obtain ⟨step, same⟩ := device_eq_ok ran
    exact .single (.read address result) step same
  | writeRw value inside =>
    obtain ⟨number, step, same⟩ := write_eq_ok ran
    exact .single (.rw value (by omega) (by omega)) step same
  | writePhy value among =>
    obtain ⟨number, step, same⟩ := write_eq_ok ran
    exact .single (.phy value among number) step same

variable (sequencer)

/-- Running a program is a chore. -/
theorem run_chore (program : RomProgram) : sequencer.Chore (sequencer.run program) :=
  .writeRw _ (by decide)

/-- Setting a loop counter is a chore. -/
theorem setCounter_chore (counter : LoopCounter) (count : UInt32) :
    sequencer.Chore (sequencer.setCounter counter count) :=
  .writeRw _ (counter_lt counter)

/-- Setting a jump target is a chore. -/
theorem setJump_chore (counter : LoopCounter) (target : RomProgram) :
    sequencer.Chore (sequencer.setJump counter target) :=
  .writeRw _ (jump_lt counter)

/-- Setting both is a chore. -/
theorem load_chore (counter : LoopCounter) (count : UInt32) (target : RomProgram) :
    sequencer.Chore (sequencer.load counter count target) :=
  .bind (sequencer.setCounter_chore counter count) fun _ => sequencer.setJump_chore counter target

/-- Running programs in order is a chore. -/
theorem runAll_chore (programs : List RomProgram) :
    sequencer.Chore (sequencer.runAll programs) := by
  induction programs with
  | nil => exact .pure ()
  | cons program rest ih => exact .bind (sequencer.run_chore program) fun _ => ih

/-- Running a program several times is a chore. -/
theorem runTimes_chore (program : RomProgram) (times : Nat) :
    sequencer.Chore (sequencer.runTimes program times) := by
  induction times with
  | zero => exact .pure ()
  | succ times ih => exact .bind (sequencer.run_chore program) fun _ => ih

/-- Selecting one of the first ranks is a chore. -/
theorem setRankAndOdtMask_chore {rank : UInt32} (few : rank < 32) :
    sequencer.Chore (sequencer.setRankAndOdtMask rank) :=
  .bind (.compute fun _ _ => ⟨_, if_pos few⟩) fun _ => .writeRw _ (by decide)

/-- Waiting some clocks is a chore. -/
theorem delayClocks_chore (clocks : UInt32) :
    sequencer.Chore (sequencer.delayClocks clocks) := by
  have computes (ratio : sequencer.config.geometry .afiRateRatio ≠ 0) : ∃ covered,
      controllerClocks clocks (sequencer.config.geometry .afiRateRatio) = .ok covered := by
    obtain ⟨covered, computed, _⟩ := controllerClocks_eq clocks ratio
    exact ⟨covered, computed⟩
  refine .bind (.compute fun _ divides => computes divides.ratio) fun covered => ?_
  dsimp only
  split
  · exact .bind (sequencer.load_chore _ _ _) fun _ => sequencer.run_chore _
  · exact .bind (sequencer.setCounter_chore _ _) fun _ =>
      .bind (sequencer.setCounter_chore _ _) fun _ =>
      .bind (sequencer.setJump_chore _ _) fun _ =>
      .bind (sequencer.setJump_chore _ _) fun _ => sequencer.runTimes_chore _ _

/-- The memory clocks in at most a fifth of a millisecond can be computed. -/
theorem memoryClocks_ok {nanoseconds : UInt32} (short : nanoseconds.toNat ≤ 200000)
    {config : Config} (divides : config.Divides) :
    ∃ clocks, memoryClocks nanoseconds config.geometry = .ok clocks := by
  have ticks : config.geometry.Ticks := ⟨divides.frequency, divides.period⟩
  have few : config.geometry.periods nanoseconds ≤ 200000000 := by
    have most := Nat.div_le_self (1000 * nanoseconds.toNat) config.geometry.period
    rw [Geometry.periods]
    omega
  have ratio : (config.geometry .afiRateRatio).toNat ≤ 0xffffffff := by
    have bound := (config.geometry .afiRateRatio).toNat_lt
    omega
  have product : config.geometry.periods nanoseconds * (config.geometry .afiRateRatio).toNat <
      UInt64.size := by
    have most := Nat.mul_le_mul few ratio
    rw [UInt64.size]
    omega
  rw [ticks.memoryClocks_eq, if_pos product]
  exact ⟨_, rfl⟩

/-- Waiting up to a fifth of a millisecond is a chore. -/
theorem delayNanoseconds_chore {nanoseconds : UInt32} (short : nanoseconds.toNat ≤ 200000) :
    sequencer.Chore (sequencer.delayNanoseconds nanoseconds) :=
  .bind (.compute fun _ divides => memoryClocks_ok short divides) fun clocks =>
    sequencer.delayClocks_chore clocks

/-- Starting a DDR3 memory is a chore. -/
theorem startDdr3_chore : sequencer.Chore sequencer.startDdr3 :=
  .bind (.writeRw _ (by decide)) fun _ =>
  .bind (sequencer.load_chore _ _ _) fun _ =>
  .bind (sequencer.load_chore _ _ _) fun _ =>
  .bind (sequencer.run_chore _) fun _ =>
  .bind (.writePhy _ (by decide)) fun _ =>
  .bind (sequencer.load_chore _ _ _) fun _ =>
  .bind (sequencer.load_chore _ _ _) fun _ =>
  .bind (sequencer.run_chore _) fun _ =>
  .bind (sequencer.delayClocks_chore _) fun _ =>
  .bind (sequencer.runAll_chore _) fun _ => sequencer.delayClocks_chore _

/-- Starting a DDR2 memory is a chore. -/
theorem startDdr2_chore : sequencer.Chore sequencer.startDdr2 :=
  .bind (sequencer.load_chore _ _ _) fun _ =>
  .bind (sequencer.load_chore _ _ _) fun _ =>
  .bind (sequencer.run_chore _) fun _ =>
  .bind (.writePhy _ (by decide)) fun _ =>
  .bind (sequencer.run_chore _) fun _ =>
  .bind (sequencer.delayNanoseconds_chore (by decide)) fun _ =>
  .bind (sequencer.runAll_chore _) fun _ =>
  .bind (sequencer.delayNanoseconds_chore (by decide)) fun _ =>
  .bind (sequencer.run_chore _) fun _ =>
  .bind (sequencer.delayNanoseconds_chore (by decide)) fun _ =>
  .bind (sequencer.runAll_chore _) fun _ => sequencer.delayClocks_chore _

/-- Starting an LPDDR2 memory is a chore. -/
theorem startLpddr2_chore : sequencer.Chore sequencer.startLpddr2 :=
  .bind (sequencer.load_chore _ _ _) fun _ =>
  .bind (sequencer.run_chore _) fun _ =>
  .bind (sequencer.delayNanoseconds_chore (by decide)) fun _ =>
  .bind (.writePhy _ (by decide)) fun _ =>
  .bind (sequencer.run_chore _) fun _ =>
  .bind (sequencer.delayNanoseconds_chore (by decide)) fun _ =>
  .bind (sequencer.run_chore _) fun _ =>
  .bind (sequencer.delayNanoseconds_chore (by decide)) fun _ => sequencer.runAll_chore _

/-- Starting the memory is a chore. -/
theorem startMemory_chore : sequencer.Chore sequencer.startMemory := by
  rw [startMemory]
  cases sequencer.config.protocol with
  | ddr2 => exact sequencer.startDdr2_chore
  | ddr3 => exact sequencer.startDdr3_chore
  | lpddr2 => exact sequencer.startLpddr2_chore

/-- Precharging and activating is a chore. -/
theorem prechargeAndActivate_chore : sequencer.Chore sequencer.prechargeAndActivate :=
  .bind (sequencer.run_chore _) fun _ =>
  .bind (sequencer.load_chore _ _ _) fun _ =>
  .bind (sequencer.load_chore _ _ _) fun _ => sequencer.run_chore _

/-- Writing the bursts for the read tests is a chore. -/
theorem loadReadPatterns_chore : sequencer.Chore sequencer.loadReadPatterns :=
  .bind (sequencer.load_chore _ _ _) fun _ =>
  .bind (sequencer.load_chore _ _ _) fun _ =>
  .bind (sequencer.load_chore _ _ _) fun _ =>
  .bind (sequencer.load_chore _ _ _) fun _ => sequencer.run_chore _

/-- Handing the memory over to its user is a chore. -/
theorem handOff_chore : sequencer.Chore sequencer.handOff := sequencer.runAll_chore _

end Sequencer

end Bringup.Calibration
