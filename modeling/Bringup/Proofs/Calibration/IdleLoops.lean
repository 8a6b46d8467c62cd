import Bringup.Proofs.Calibration.Handover
import Bringup.Proofs.Calibration.Retrace
/-!
# How long the idle loops run

A wait loads the counters of the idle loops and runs them. A run of the inner loop alone takes one
controller clock more than its counter says, a run of both takes the product of what the two take
(`IdleRuns.clocks`). The counters for a wait hold what they are computed from without loss
(`DelayCounters.Counts`), and their runs take exactly the controller clocks of a short wait, and
less than 0x100 or 0x10000 more for longer ones (`IdleRuns.Covers`). Main statement: this is what
every wait does (`delayClocks_idles`).
-/

namespace Bringup.Calibration

/-- The runs of the idle loops in a wait, with the counters that are loaded for them. -/
inductive IdleRuns where
  /-- The inner loop alone, once. -/
  | single (count : UInt8)
  /-- Both loops, one inside the other, several times. -/
  | nested (inner outer : UInt8) (runs : Nat)
  deriving DecidableEq

/-- The controller clocks that the runs take. Each loop tests before it counts. -/
def IdleRuns.clocks : IdleRuns → Nat
  | .single count => count.toNat + 1
  | .nested inner outer runs => runs * ((inner.toNat + 1) * (outer.toNat + 1))

/-- The runs take enough for so many controller clocks, and not much more. -/
structure IdleRuns.Covers (runs : IdleRuns) (covered : Nat) : Prop where
  short : covered ≤ 0x100 → runs.clocks = max covered 1
  middle : 0x100 < covered → covered ≤ 0x10000 →
    covered ≤ runs.clocks ∧ runs.clocks < covered + 0x100
  long : 0x10000 < covered → covered ≤ runs.clocks ∧ runs.clocks < covered + 0x10000

namespace DelayCounters

/-- The runs for these counters: those of the inner loop alone where the others are not used. -/
def idleRuns (counters : DelayCounters) : IdleRuns :=
  if counters.outer = 0 ∧ counters.repeats = 0 then .single counters.inner
  else .nested counters.inner counters.outer (counters.repeats.toNat + 1)

/-- The counters are those for so many controller clocks, and none has lost a bit of its number. -/
structure Counts (counters : DelayCounters) (covered : Nat) : Prop where
  inner : counters.inner.toNat = min (covered - 1) 0xff
  outer : counters.outer.toNat = min ((covered - 1) / 0x100) 0xff
  repeats : counters.repeats.toNat = (covered - 1) / 0x10000

/-- A wait of some controller clocks has the counters for them. -/
theorem ofControllerClocks_counts (covered : UInt32) :
    (ofControllerClocks covered).Counts covered.toNat := by
  have bound := covered.toNat_lt
  have shortLimit : covered ≤ 0x100 ↔ covered.toNat ≤ 0x100 := UInt32.le_iff_toNat_le
  have longLimit : covered ≤ 0x10000 ↔ covered.toNat ≤ 0x10000 := UInt32.le_iff_toNat_le
  rw [ofControllerClocks]
  by_cases nothing : covered = 0
  · rw [if_pos nothing, nothing]
    exact ⟨rfl, rfl, rfl⟩
  have positive := toNat_pos nothing
  have before : (covered - 1).toNat = covered.toNat - 1 :=
    UInt32.toNat_sub_of_le covered 1 (UInt32.le_iff_toNat_le.2 positive)
  rw [if_neg nothing]
  by_cases short : covered ≤ 0x100
  · have few := shortLimit.1 short
    have inner : (covered - 1).toUInt8.toNat = (covered - 1).toNat % 256 := UInt32.toNat_toUInt8 _
    have zero : (0 : UInt8).toNat = 0 := rfl
    have once : (0 : UInt16).toNat = 0 := rfl
    rw [if_pos short]
    constructor <;> dsimp only <;> omega
  have more : ¬covered.toNat ≤ 0x100 := fun few => short (shortLimit.2 few)
  have full : (0xff : UInt8).toNat = 0xff := rfl
  rw [if_neg short]
  by_cases middle : covered ≤ 0x10000
  · have most := longLimit.1 middle
    have outer : ((covered - 1) >>> 8).toUInt8.toNat = (covered.toNat - 1) / 0x100 % 256 := by
      rw [UInt32.toNat_toUInt8, UInt32.toNat_shiftRight, before, Nat.shiftRight_eq_div_pow]
      rfl
    have once : (0 : UInt16).toNat = 0 := rfl
    rw [if_pos middle]
    constructor <;> dsimp only <;> omega
  · have long : ¬covered.toNat ≤ 0x10000 := fun most => middle (longLimit.2 most)
    have repeats : ((covered - 1) >>> 16).toUInt16.toNat =
        (covered.toNat - 1) / 0x10000 % 65536 := by
      rw [UInt32.toNat_toUInt16, UInt32.toNat_shiftRight, before, Nat.shiftRight_eq_div_pow]
      rfl
    rw [if_neg middle]
    constructor <;> dsimp only <;> omega

namespace Counts

variable {counters : DelayCounters} {covered : Nat}

/-- The inner loop runs alone for the short waits. -/
theorem single_iff (counts : counters.Counts covered) :
    counters.outer = 0 ∧ counters.repeats = 0 ↔ covered ≤ 0x100 := by
  have outer := counts.outer
  have repeats := counts.repeats
  have unused : counters.outer = 0 ↔ counters.outer.toNat = 0 := UInt8.toNat_inj.symm
  have once : counters.repeats = 0 ↔ counters.repeats.toNat = 0 := UInt16.toNat_inj.symm
  rw [unused, once]
  omega

/-- The runs for these counters take as long as they should. -/
theorem covers (counts : counters.Counts covered) : counters.idleRuns.Covers covered := by
  have inner := counts.inner
  have outer := counts.outer
  have repeats := counts.repeats
  have alone := counts.single_iff
  have choice : counters.idleRuns.clocks =
      if covered ≤ 0x100 then counters.inner.toNat + 1
      else (counters.repeats.toNat + 1) *
        ((counters.inner.toNat + 1) * (counters.outer.toNat + 1)) := by
    simp only [idleRuns, alone]
    split <;> rfl
  constructor
  · intro short
    rw [choice, if_pos short]
    omega
  · intro more middle
    have once : counters.repeats.toNat = 0 := by omega
    have full : counters.inner.toNat = 0xff := by omega
    rw [choice, if_neg (Nat.not_le.2 more), once, full]
    omega
  · intro long
    have full : counters.inner.toNat = 0xff := by omega
    have also : counters.outer.toNat = 0xff := by omega
    rw [choice, if_neg (by omega), full, also, repeats]
    omega

end Counts

/-- The counters for a wait are those of the inner loop alone as long as it is short. -/
theorem idleRuns_eq (covered : UInt32) : (ofControllerClocks covered).idleRuns =
    if covered ≤ 0x100 then .single (ofControllerClocks covered).inner
    else .nested (ofControllerClocks covered).inner (ofControllerClocks covered).outer
      ((ofControllerClocks covered).repeats.toNat + 1) := by
  have alone := (ofControllerClocks_counts covered).single_iff
  have short : covered ≤ 0x100 ↔ covered.toNat ≤ 0x100 := UInt32.le_iff_toNat_le
  rw [← short] at alone
  simp only [idleRuns, alone]

end DelayCounters

namespace Sequencer

variable {σ ε : Type} {sequencer : Sequencer σ ε} {before after : Progress σ}

/-- Setting a loop counter as a deed. -/
def counterDeed (sequencer : Sequencer σ ε) (counter : LoopCounter) (count : UInt32) : Deed :=
  .write (sequencer.config.layout.rwManager + (RwManager.loadCounter + counter.offset)) count

/-- Setting a jump target as a deed. -/
def jumpDeed (sequencer : Sequencer σ ε) (counter : LoopCounter) (target : RomProgram) : Deed :=
  .write (sequencer.config.layout.rwManager + (RwManager.loadJump + counter.offset))
    (sequencer.entry target)

/-- Running a program as a deed. -/
def runDeed (sequencer : Sequencer σ ε) (program : RomProgram) : Deed :=
  .write (sequencer.config.layout.rwManager + RwManager.runSingleGroup) (sequencer.entry program)

/-- What programming the idle loops and running them does. -/
def idleDeeds (sequencer : Sequencer σ ε) : IdleRuns → List Deed
  | .single count =>
    [sequencer.counterDeed .one count.toUInt32, sequencer.jumpDeed .one .idleLoop1,
      sequencer.runDeed .idleLoop1]
  | .nested inner outer runs =>
    [sequencer.counterDeed .zero inner.toUInt32, sequencer.counterDeed .one outer.toUInt32,
      sequencer.jumpDeed .zero .idleLoop2, sequencer.jumpDeed .one .idleLoop2] ++
      List.replicate runs (sequencer.runDeed .idleLoop2)

/-- A wait, wherever it ends well, runs the idle loops for its counters and nothing else, and it
ends well on every bus that does not fail. -/
structure Idles (sequencer : Sequencer σ ε) (clocks : UInt32) (counters : DelayCounters) :
    Prop where
  deeds : ∀ {before after : Progress σ}, sequencer.delayClocks clocks before = .ok () after →
    Trace sequencer.Step before.device (sequencer.idleDeeds counters.idleRuns) after.device ∧
      after.status = before.status
  ends : sequencer.Answers → sequencer.config.layout.Fits → ∀ before, ∃ after,
    sequencer.delayClocks clocks before = .ok () after

/-- A program was run several times. -/
theorem runTimes_trace {program : RomProgram} {times : Nat}
    (ran : sequencer.runTimes program times before = .ok () after) :
    Trace sequencer.Step before.device (List.replicate times (sequencer.runDeed program))
      after.device := by
  induction times generalizing before with
  | zero =>
    cases ran
    exact .done _
  | succ times ih =>
    obtain ⟨_, middle, first, others⟩ := Action.bind_eq_ok ran
    have once : sequencer.Step before.device (sequencer.runDeed program) middle.device :=
      (write_eq_ok first).2.1
    exact .next once (ih others)

/-- Running a program several times succeeds on a bus that does not fail. -/
theorem runTimes_does (answers : sequencer.Answers) (fits : sequencer.config.layout.Fits)
    (program : RomProgram) (times : Nat) (state : σ) :
    ∃ next, sequencer.Does (sequencer.runTimes program times) state ()
      (List.replicate times (sequencer.runDeed program)) next := by
  induction times generalizing state with
  | zero => exact ⟨state, .pure () state⟩
  | succ times ih =>
    obtain ⟨middle, first⟩ :=
      writeRw_does answers fits RwManager.runSingleGroup (sequencer.entry program) (by decide) state
    obtain ⟨next, others⟩ := ih middle
    exact ⟨next, first.bind others⟩

section Waits

variable {clocks covered : UInt32}
  (computed : controllerClocks clocks (sequencer.config.geometry .afiRateRatio) = .ok covered)

include computed

/-- The idle loops were run. -/
theorem delayClocks_trace (ran : sequencer.delayClocks clocks before = .ok () after) :
    Trace sequencer.Step before.device
      (sequencer.idleDeeds (DelayCounters.ofControllerClocks covered).idleRuns) after.device := by
  obtain ⟨other, same, ran⟩ := compute_eq_ok ran
  obtain rfl : covered = other := Except.ok.inj (computed.symm.trans same)
  rw [DelayCounters.idleRuns_eq]
  by_cases few : covered ≤ 0x100
  · rw [if_pos few] at ran ⊢
    obtain ⟨_, middle, loads, runs⟩ := Action.bind_eq_ok ran
    exact (load_trace loads).append (.single (write_eq_ok runs).2.1)
  · rw [if_neg few] at ran ⊢
    obtain ⟨_, first, inner, ran⟩ := Action.bind_eq_ok ran
    obtain ⟨_, second, outer, ran⟩ := Action.bind_eq_ok ran
    obtain ⟨_, third, innerJump, ran⟩ := Action.bind_eq_ok ran
    obtain ⟨_, fourth, outerJump, ran⟩ := Action.bind_eq_ok ran
    have runs := runTimes_trace ran
    have jumps := Trace.next (write_eq_ok innerJump).2.1 (.next (write_eq_ok outerJump).2.1 runs)
    exact .next (write_eq_ok inner).2.1 (.next (write_eq_ok outer).2.1 jumps)

/-- A wait that can be computed runs the idle loops on a bus that does not fail. -/
theorem delayClocks_does (answers : sequencer.Answers) (fits : sequencer.config.layout.Fits)
    (state : σ) : ∃ next, sequencer.Does (sequencer.delayClocks clocks) state ()
      (sequencer.idleDeeds (DelayCounters.ofControllerClocks covered).idleRuns) next := by
  have counter (loop : LoopCounter) (count : UInt32) :=
    writeRw_does answers fits _ count (counter_lt loop)
  have jump (loop : LoopCounter) (target : RomProgram) :=
    writeRw_does answers fits _ (sequencer.entry target) (jump_lt loop)
  have run (program : RomProgram) :=
    writeRw_does answers fits RwManager.runSingleGroup (sequencer.entry program) (by decide)
  rw [DelayCounters.idleRuns_eq]
  by_cases few : covered ≤ 0x100
  · obtain ⟨loaded, loads⟩ := load_does answers fits .one _ .idleLoop1 state
    obtain ⟨next, runs⟩ := run .idleLoop1 loaded
    rw [if_pos few]
    refine ⟨next, .compute computed ?_⟩
    rw [if_pos few]
    exact loads.bind runs
  · obtain ⟨first, inner⟩ := counter .zero _ state
    obtain ⟨second, outer⟩ := counter .one _ first
    obtain ⟨third, innerJump⟩ := jump .zero .idleLoop2 second
    obtain ⟨fourth, outerJump⟩ := jump .one .idleLoop2 third
    obtain ⟨next, runs⟩ := runTimes_does answers fits .idleLoop2 _ fourth
    rw [if_neg few]
    refine ⟨next, .compute computed ?_⟩
    rw [if_neg few]
    exact inner.bind (outer.bind (innerJump.bind (outerJump.bind runs)))

end Waits

/-- A wait of some memory clocks runs the idle loops for the controller clocks that cover them: with
counters that hold these without loss, long enough and not much longer, and the inner loop alone
exactly where the other counters are not used. -/
theorem delayClocks_idles (sequencer : Sequencer σ ε) (clocks : UInt32)
    (nonzero : sequencer.config.geometry .afiRateRatio ≠ 0) :
    ∃ counters, delayCounters clocks (sequencer.config.geometry .afiRateRatio) = .ok counters ∧
      counters.Counts (clocks.toNat ⌈/⌉ (sequencer.config.geometry .afiRateRatio).toNat) ∧
      counters.idleRuns.Covers
        (clocks.toNat ⌈/⌉ (sequencer.config.geometry .afiRateRatio).toNat) ∧
      sequencer.Idles clocks counters := by
  obtain ⟨covered, computed, quotient⟩ := controllerClocks_eq clocks nonzero
  have counts := DelayCounters.ofControllerClocks_counts covered
  rw [quotient] at counts
  have deeds {before after : Progress σ}
      (ran : sequencer.delayClocks clocks before = .ok () after) :
      Trace sequencer.Step before.device
        (sequencer.idleDeeds (DelayCounters.ofControllerClocks covered).idleRuns) after.device ∧
        after.status = before.status :=
    ⟨delayClocks_trace computed ran, ((sequencer.delayClocks_chore clocks).plain ran).status⟩
  have ends (answers : sequencer.Answers) (fits : sequencer.config.layout.Fits)
      (before : Progress σ) : ∃ after, sequencer.delayClocks clocks before = .ok () after := by
    obtain ⟨next, does⟩ := delayClocks_does computed answers fits before.device
    exact ⟨_, does.runs before.status⟩
  exact ⟨_, delayCounters_eq computed, counts, counts.covers, deeds, ends⟩

/-- Waiting 300000 memory clocks on the sample memory sets both counters to their largest value and
runs both loops three times: at two memory clocks to a controller clock, 196608 controller clocks
for the 150000 that are asked for. -/
theorem sampleRecorder_idles :
    Config.sample.geometry .afiRateRatio ≠ 0 ∧
      delayCounters 300000 2 = .ok ⟨0xff, 0xff, 2⟩ ∧
      (IdleRuns.nested 0xff 0xff 3).Covers 150000 ∧
      (IdleRuns.nested 0xff 0xff 3).clocks = 196608 ∧
      ∃ after, sampleRecorder.delayClocks 300000 ⟨.initial, samplePhy, #[]⟩ = .ok () after ∧
        after.device.2 = #[.write 0x90800 0xff, .write 0x90804 0xff, .write 0x90c00 0x11,
          .write 0x90c04 0x11, .write 0x90000 0x11, .write 0x90000 0x11, .write 0x90000 0x11] := by
  have nonzero : Config.sample.geometry .afiRateRatio ≠ 0 := by decide
  have total : (Phy.bus : Bus Phy Empty).Total := ⟨Phy.read_ok, fun _ _ _ => ⟨_, rfl⟩⟩
  have logs (record : LogRecord) (phy : Phy) :
      ∃ next, (Logger.silent : Logger Phy Empty) record phy = .ok () next := ⟨phy, rfl⟩
  have answers : sampleRecorder.Answers := recorder_answers logs rfl total rfl
  have computed : delayCounters 300000 2 = .ok ⟨0xff, 0xff, 2⟩ := by decide
  obtain ⟨counters, same, _, covers, idles⟩ := delayClocks_idles sampleRecorder 300000 nonzero
  obtain rfl : (⟨0xff, 0xff, 2⟩ : DelayCounters) = counters :=
    Except.ok.inj (computed.symm.trans same)
  obtain ⟨after, ran⟩ := idles.ends answers sample_separates.toFits ⟨.initial, samplePhy, #[]⟩
  have record := recorder_trace logs rfl total rfl (idles.deeds ran).1
  exact ⟨nonzero, computed, covers, by decide, after, ran, record⟩

end Sequencer

end Bringup.Calibration
