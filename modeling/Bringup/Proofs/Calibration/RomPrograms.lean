import Bringup.Proofs.Calibration.ProgramTables
/-!
# The programs that a calibration takes

Which programs of the instruction memory a calibration takes is decided by the protocol and, for the
idle loops, by how many clocks of the controller the waits are (`Config.demanded`). Whatever the bus
answers, a calibration that comes to its end has run each of them or set it as a jump target
(`Config.uses_of_demanded`), and no calibration depends on any other entry
(`Config.ignores_of_not_demanded`).
-/

namespace Bringup.Calibration

/-- The program that fills a wait. -/
def waitPrograms (geometry : Geometry) (clocks : UInt32) : List RomProgram :=
  match controllerClocks clocks (geometry .afiRateRatio) with
  | .ok covered => if covered ≤ 0x100 then [.idleLoop1] else [.idleLoop2]
  | .error _ => []

/-- The programs that fill a wait given in nanoseconds. -/
def nanosecondPrograms (geometry : Geometry) (nanoseconds : UInt32) : List RomProgram :=
  match memoryClocks nanoseconds geometry with
  | .ok clocks => waitPrograms geometry clocks
  | .error _ => []

/-- The programs that start a memory. -/
def startPrograms (geometry : Geometry) : Protocol → List RomProgram
  | .ddr2 =>
    [.initCke0, .initCke0Inner, .nop] ++ nanosecondPrograms geometry 400 ++
    [.prechargeAll, .emr2, .emr3, .emr, .mrDllReset, .refresh] ++ nanosecondPrograms geometry 200 ++
    [.mrCalib, .emrOcdEnable] ++ waitPrograms geometry 200
  | .ddr3 =>
    [.initReset0Cke0, .initReset0Cke0Inner, .initReset1Cke0, .initReset1Cke0Inner] ++
    waitPrograms geometry 250 ++ [.mrs2, .mrs3, .mrs1, .mrs0DllReset, .zqcl] ++
    waitPrograms geometry 512
  | .lpddr2 =>
    [.initCke0] ++ nanosecondPrograms geometry 200000 ++ [.mr63Reset] ++
    nanosecondPrograms geometry 10000 ++ [.mr10Zqc] ++ nanosecondPrograms geometry 1000 ++
    [.mr1Calib, .mr2, .mr3]

/-- The programs that precharge and activate. -/
def activatePrograms : List RomProgram := [.prechargeAll, .activateWait1, .activateWait2, .activate]

/-- The programs that write the bursts for the read tests. -/
def patternPrograms : List RomProgram :=
  [.guaranteedWriteWait0, .guaranteedWriteWait1, .guaranteedWriteWait2, .guaranteedWriteWait3,
    .guaranteedWrite]

/-- The programs of a read test. -/
def readPrograms : List RomProgram :=
  [.readBackToBackWait1, .readBackToBackWait2, .readBackToBack, .clearDqsEnable]

/-- The programs that a calibration takes. -/
def Config.demanded (config : Config) : List RomProgram :=
  startPrograms config.geometry config.protocol ++ activatePrograms ++ patternPrograms ++
    readPrograms ++ Sequencer.handoffPrograms config.protocol

namespace Sequencer

open Procedure (checked device updateStatus)

variable {σ ε α β : Type} (sequencer : Sequencer σ ε)

/-- A wait takes the program that fills it. -/
theorem delayClocks_takes (clocks : UInt32) :
    sequencer.Takes (waitPrograms sequencer.config.geometry clocks)
      (waitPrograms sequencer.config.geometry clocks) fun table =>
        (sequencer.withPrograms table).delayClocks clocks := by
  refine Takes.compute (fun _ _ => rfl) fun covered computed => ?_
  have computed : controllerClocks clocks (sequencer.config.geometry .afiRateRatio) =
    .ok covered := computed
  unfold waitPrograms
  rw [computed]
  dsimp only
  split
  · exact (Takes.bind (sequencer.load_takes _ _ _) fun _ => sequencer.run_takes _).mono
      (by simp) (by simp)
  · exact (Takes.bind (.chore (sequencer.setCounter_chore _ _)) fun _ =>
      .bind (.chore (sequencer.setCounter_chore _ _)) fun _ =>
      .bind (sequencer.setJump_takes _ _) fun _ =>
      .bind (sequencer.setJump_takes _ _) fun _ =>
        sequencer.runTimes_takes _ _).mono (by simp) (by simp)

/-- So does a wait given in nanoseconds. -/
theorem delayNanoseconds_takes (nanoseconds : UInt32) :
    sequencer.Takes (nanosecondPrograms sequencer.config.geometry nanoseconds)
      (nanosecondPrograms sequencer.config.geometry nanoseconds) fun table =>
        (sequencer.withPrograms table).delayNanoseconds nanoseconds := by
  refine Takes.compute (fun _ _ => rfl) fun clocks computed => ?_
  have computed : memoryClocks nanoseconds sequencer.config.geometry = .ok clocks := computed
  unfold nanosecondPrograms
  rw [computed]
  exact sequencer.delayClocks_takes clocks

/-- Starting a DDR3 memory takes the programs of its start. -/
theorem startDdr3_takes :
    sequencer.Takes (startPrograms sequencer.config.geometry .ddr3)
      (startPrograms sequencer.config.geometry .ddr3) fun table =>
        (sequencer.withPrograms table).startDdr3 := by
  refine Takes.listed (.bind (.chore (.writeRw _ (by decide))) fun _ =>
    .bind (sequencer.load_takes _ _ _) fun _ =>
    .bind (sequencer.load_takes _ _ _) fun _ =>
    .bind (sequencer.run_takes _) fun _ =>
    .bind (.chore (.writePhy _ (by decide))) fun _ =>
    .bind (sequencer.load_takes _ _ _) fun _ =>
    .bind (sequencer.load_takes _ _ _) fun _ =>
    .bind (sequencer.run_takes _) fun _ =>
    .bind (sequencer.delayClocks_takes _) fun _ =>
    .bind (sequencer.runAll_takes _) fun _ => sequencer.delayClocks_takes _) ?_
  intro program
  simp only [startPrograms, List.mem_append, List.mem_cons, List.not_mem_nil, or_false, false_or]
  grind

/-- So does starting a DDR2 memory. -/
theorem startDdr2_takes :
    sequencer.Takes (startPrograms sequencer.config.geometry .ddr2)
      (startPrograms sequencer.config.geometry .ddr2) fun table =>
        (sequencer.withPrograms table).startDdr2 := by
  refine Takes.listed (.bind (sequencer.load_takes _ _ _) fun _ =>
    .bind (sequencer.load_takes _ _ _) fun _ =>
    .bind (sequencer.run_takes _) fun _ =>
    .bind (.chore (.writePhy _ (by decide))) fun _ =>
    .bind (sequencer.run_takes _) fun _ =>
    .bind (sequencer.delayNanoseconds_takes _) fun _ =>
    .bind (sequencer.runAll_takes _) fun _ =>
    .bind (sequencer.delayNanoseconds_takes _) fun _ =>
    .bind (sequencer.run_takes _) fun _ =>
    .bind (sequencer.delayNanoseconds_takes _) fun _ =>
    .bind (sequencer.runAll_takes _) fun _ => sequencer.delayClocks_takes _) ?_
  intro program
  simp only [startPrograms, List.mem_append, List.mem_cons, List.not_mem_nil, or_false, false_or]
  grind

/-- So does starting an LPDDR2 memory. -/
theorem startLpddr2_takes :
    sequencer.Takes (startPrograms sequencer.config.geometry .lpddr2)
      (startPrograms sequencer.config.geometry .lpddr2) fun table =>
        (sequencer.withPrograms table).startLpddr2 := by
  refine Takes.listed (.bind (sequencer.load_takes _ _ _) fun _ =>
    .bind (sequencer.run_takes _) fun _ =>
    .bind (sequencer.delayNanoseconds_takes _) fun _ =>
    .bind (.chore (.writePhy _ (by decide))) fun _ =>
    .bind (sequencer.run_takes _) fun _ =>
    .bind (sequencer.delayNanoseconds_takes _) fun _ =>
    .bind (sequencer.run_takes _) fun _ =>
    .bind (sequencer.delayNanoseconds_takes _) fun _ => sequencer.runAll_takes _) ?_
  intro program
  simp only [startPrograms, List.mem_append, List.mem_cons, List.not_mem_nil, or_false, false_or]
  grind

/-- Starting the memory takes what its protocol demands. -/
theorem startMemory_takes :
    sequencer.Takes (startPrograms sequencer.config.geometry sequencer.config.protocol)
      (startPrograms sequencer.config.geometry sequencer.config.protocol) fun table =>
        (sequencer.withPrograms table).startMemory := by
  obtain ⟨bus, ⟨layout, programs, geometry, protocol, groups⟩, masks, log⟩ := sequencer
  cases protocol with
  | ddr2 => exact startDdr2_takes _
  | ddr3 => exact startDdr3_takes _
  | lpddr2 => exact startLpddr2_takes _

/-- Precharging and activating takes its programs. -/
theorem prechargeAndActivate_takes :
    sequencer.Takes activatePrograms activatePrograms fun table =>
      (sequencer.withPrograms table).prechargeAndActivate :=
  .bind (sequencer.run_takes _) fun _ =>
  .bind (sequencer.load_takes _ _ _) fun _ =>
  .bind (sequencer.load_takes _ _ _) fun _ => sequencer.run_takes _

/-- Writing the bursts for the read tests takes its programs. -/
theorem loadReadPatterns_takes :
    sequencer.Takes patternPrograms patternPrograms fun table =>
      (sequencer.withPrograms table).loadReadPatterns :=
  .bind (sequencer.load_takes _ _ _) fun _ =>
  .bind (sequencer.load_takes _ _ _) fun _ =>
  .bind (sequencer.load_takes _ _ _) fun _ =>
  .bind (sequencer.load_takes _ _ _) fun _ => sequencer.run_takes _

/-- Handing the memory over takes the programs that set its mode registers. -/
theorem handOff_takes :
    sequencer.Takes (handoffPrograms sequencer.config.protocol)
      (handoffPrograms sequencer.config.protocol) fun table =>
        (sequencer.withPrograms table).handOff :=
  sequencer.runAll_takes _

/-- Setting the latencies up takes what activating takes. -/
theorem configureMemory_takes :
    sequencer.Takes activatePrograms activatePrograms fun table =>
      (sequencer.withPrograms table).configureMemory :=
  .compute (fun _ _ => rfl) fun _ _ =>
  .after (.chore (.read _)) fun _ =>
  .after (.updateStatus _) fun _ =>
  .after (.chore (.writePhy _ (by decide))) fun _ => sequencer.prechargeAndActivate_takes

/-- Reading a virtual group runs the read program. -/
theorem readVirtualGroup_takes (base group shift good index : UInt32) :
    sequencer.Takes [] [.readBackToBack] fun table =>
      (sequencer.withPrograms table).readVirtualGroup base group shift good index := by
  refine .after (.chore (.writePhy _ (by decide))) fun _ =>
    .after (.chore (.writeRw _ (by decide))) fun _ => ?_
  refine .compute (fun _ _ => rfl) fun slot _ => .compute (fun _ _ => rfl) fun offset _ => ?_
  exact .bind (sequencer.writeEntry_depends offset .readBackToBack) fun _ =>
    .after (.chore (.read sequencer.config.layout.rwManager)) fun errors =>
    .chore (.pure (shiftOut good shift ||| (sequencer.masks.readVirtualGroup &&& ~~~errors)))

/-- So does reading several. -/
theorem readVirtualGroups_takes (base group shift good : UInt32) (count : Nat) :
    sequencer.Takes [] [.readBackToBack] fun table =>
      (sequencer.withPrograms table).readVirtualGroups base group shift count good := by
  induction count generalizing good with
  | zero => exact (Takes.chore (.pure good)).mono (List.Subset.refl _) (List.nil_subset _)
  | succ count ih =>
    exact (Takes.bind (sequencer.readVirtualGroup_takes base group shift good _) fun good =>
      ih good).mono (by simp) (by simp)

variable {group : UInt32}

/-- The register that runs a program for one of the first groups. -/
theorem group_takesEntry (near : group ≤ 2) :
    RwManager.TakesEntry (RwManager.runSingleGroup + (group <<< 2)) := by
  -- With more groups the offset could come round to any register.
  left
  have few : group = 0 ∨ group = 1 ∨ group = 2 := by grind
  obtain rfl | rfl | rfl := few <;> decide

/-- A read test takes its programs. -/
theorem readTest_takes (near : group ≤ 2) (allCorrect allGroups : Bool) :
    sequencer.Takes readPrograms readPrograms fun table =>
      (sequencer.withPrograms table).readTest group allCorrect allGroups := by
  show sequencer.Takes _ _ fun table => checked (Word.div32
    (sequencer.config.geometry .dqPerReadDqs)
    (sequencer.config.geometry .virtualGroupsPerReadDqs)) >>= _
  refine .compute (fun _ _ => rfl) fun shift _ => ?_
  refine Takes.mono (.bind (sequencer.load_takes _ _ _) fun _ =>
    .bind (sequencer.load_takes _ _ _) fun _ =>
    .bind (sequencer.load_takes _ _ _) fun _ =>
    .compute (fun _ _ => rfl) fun _ _ =>
    .bind (sequencer.load_takes _ _ _) fun _ =>
    .bind (sequencer.readVirtualGroups_takes _ _ _ _
      (sequencer.config.geometry .virtualGroupsPerReadDqs).toNat) fun good =>
    .bind (sequencer.writeEntry_takes .clearDqsEnable (group_takesEntry near)) fun _ =>
    .chore (.pure (if allCorrect then (sequencer.masks.read &&& good) == sequencer.masks.read
      else (sequencer.masks.read &&& good) != 0, sequencer.masks.read &&& good))) ?_ ?_
  · simp [readPrograms]
  · simp [readPrograms]

/-- So does looking whether any bit reads well. -/
theorem anyBitReads_takes (near : group ≤ 2) :
    sequencer.Takes readPrograms readPrograms fun table =>
      (sequencer.withPrograms table).anyBitReads group :=
  (sequencer.readTest_takes near false false).map Prod.fst

/-- Moving a clock takes no program. -/
theorem stepPhase_takes (group command : UInt32) : sequencer.Takes [] [] fun table =>
    (sequencer.withPrograms table).stepClock (captureClock group) command := by
  have fixed : sequencer.Takes [] [] fun _ => sequencer.stepClock (captureClock group) command :=
    .fixed fun _ _ _ ran => ⟨_, stepClock_trace ran⟩
  exact fixed

/-- Nor does moving it back several steps. -/
theorem phaseDownBy_takes (group : UInt32) (steps : Nat) : sequencer.Takes [] [] fun table =>
    (sequencer.withPrograms table).phaseDownBy group steps := by
  induction steps with
  | zero => exact .chore (.pure ())
  | succ steps ih => exact .after (sequencer.stepPhase_takes group _) fun _ => ih

/-- Nor does giving up. -/
theorem giveUp_takes (group : UInt32) (substage : Substage) (reason : String) :
    sequencer.Takes [] [] fun table =>
      (sequencer.withPrograms table).giveUp group substage reason :=
  .after (.chore (.note _ _)) fun _ => .after (.updateStatus _) fun _ => .chore (.pure false)

/-- Nothing that is done to the PHY manager takes a program. -/
theorem writePhy_takes (offset value : UInt32) : sequencer.Takes [] [] fun table =>
    (sequencer.withPrograms table).writePhy offset value := by
  have fixed : sequencer.Takes [] [] fun _ => sequencer.writePhy offset value :=
    .fixed fun _ _ _ ran => ⟨_, .single (writePhy_eq_ok ran).1⟩
  exact fixed

/-- Trying a position takes the programs of a read test, if what follows takes no others. -/
theorem tryPositions_takes_of (near : group ≤ 2) {positions : Nat}
    (others : sequencer.Takes [] readPrograms fun table =>
      (sequencer.withPrograms table).tryPositions group positions) :
    sequencer.Takes readPrograms readPrograms fun table =>
      (sequencer.withPrograms table).tryPositions group (positions + 1) := by
  refine .before (sequencer.readTest_takes near true false) fun result => ?_
  obtain ⟨pass, bits⟩ := result
  cases pass with
  | true => exact .idle (.chore (.pure true))
  | false => exact .after (sequencer.writePhy_takes _ _) fun _ => others

/-- Trying positions takes no other programs than a read test. -/
theorem tryPositions_takes (near : group ≤ 2) (positions : Nat) :
    sequencer.Takes [] readPrograms fun table =>
      (sequencer.withPrograms table).tryPositions group positions := by
  induction positions with
  | zero => exact .idle (.chore (.pure false))
  | succ positions ih => exact (sequencer.tryPositions_takes_of near ih).maybe

/-- Searching the phases takes the programs of a read test, if what follows takes no others. -/
theorem findPosition_takes_of (near : group ≤ 2) {rounds steps : Nat}
    (others : sequencer.Takes [] readPrograms fun table =>
      (sequencer.withPrograms table).findPosition group rounds (steps + 1)) :
    sequencer.Takes readPrograms readPrograms fun table =>
      (sequencer.withPrograms table).findPosition group (rounds + 1) steps := by
  refine .before (sequencer.tryPositions_takes_of near (sequencer.tryPositions_takes near _))
    fun found => ?_
  cases found with
  | true => exact .idle (.chore (.pure (some steps)))
  | false => exact .after (sequencer.stepPhase_takes group _) fun _ => others

/-- Searching the phases for a position takes no other programs than a read test. -/
theorem findPosition_takes (near : group ≤ 2) (rounds steps : Nat) :
    sequencer.Takes [] readPrograms fun table =>
      (sequencer.withPrograms table).findPosition group rounds steps := by
  induction rounds generalizing steps with
  | zero => exact .idle (.chore (.pure none))
  | succ rounds ih => exact (sequencer.findPosition_takes_of near (ih _)).maybe

/-- Neither does looking for the lower edge of the window. -/
theorem findLowerEdge_takes (near : group ≤ 2) (rounds : Nat) :
    sequencer.Takes [] readPrograms fun table =>
      (sequencer.withPrograms table).findLowerEdge group rounds := by
  induction rounds with
  | zero => exact .idle (.chore (.pure false))
  | succ rounds ih =>
    refine .after (sequencer.stepPhase_takes group _) fun _ =>
      (Takes.before (sequencer.anyBitReads_takes near) fun reads => ?_).maybe
    cases reads with
    | true => exact ih
    | false => exact .idle (.chore (.pure true))

/-- Neither does looking for its upper edge. -/
theorem findUpperEdge_takes (near : group ≤ 2) (rounds steps : Nat) :
    sequencer.Takes [] readPrograms fun table =>
      (sequencer.withPrograms table).findUpperEdge group rounds steps := by
  induction rounds generalizing steps with
  | zero => exact .idle (.chore (.pure none))
  | succ rounds ih =>
    refine .after (sequencer.stepPhase_takes group _) fun _ =>
      (Takes.before (sequencer.anyBitReads_takes near) fun reads => ?_).maybe
    cases reads with
    | true => exact ih _
    | false => exact .idle (.chore (.pure (some (steps + 1))))

/-- A search takes the programs of a read test: it begins with one. -/
theorem findDqsEnablePhase_takes (near : group ≤ 2) :
    sequencer.Takes readPrograms readPrograms fun table =>
      (sequencer.withPrograms table).findDqsEnablePhase group := by
  refine .before (sequencer.findPosition_takes_of near (sequencer.findPosition_takes near _ _))
    fun found => ?_
  cases found with
  | none => exact .idle (sequencer.giveUp_takes group _ _)
  | some steps =>
    refine .after (.chore (.note _ _)) fun _ =>
      .later (sequencer.findLowerEdge_takes near _) fun lower => ?_
    cases lower with
    | false => exact .idle (sequencer.giveUp_takes group _ _)
    | true =>
      refine .later (sequencer.findUpperEdge_takes near _ _) fun upper => ?_
      cases upper with
      | none => exact .idle (sequencer.giveUp_takes group _ _)
      | some width =>
        exact .idle (.after (sequencer.phaseDownBy_takes group _) fun _ =>
          .after (.chore (.note _ _)) fun _ => .chore (.pure true))

/-- Searching a group takes the programs of a read test, if the groups after it take no others. -/
theorem calibrateGroups_takes_of (near : group ≤ 2) {rest : List UInt32}
    (others : sequencer.Takes [] readPrograms fun table =>
      (sequencer.withPrograms table).calibrateGroups rest) :
    sequencer.Takes readPrograms readPrograms fun table =>
      (sequencer.withPrograms table).calibrateGroups (group :: rest) :=
  .before (sequencer.findDqsEnablePhase_takes near) fun pass =>
    .later others fun rest => .idle (.chore (.pure (pass && rest)))

/-- Searching groups takes no other programs than a read test. -/
theorem calibrateGroups_takes {groups : List UInt32} (near : ∀ group ∈ groups, group ≤ 2) :
    sequencer.Takes [] readPrograms fun table =>
      (sequencer.withPrograms table).calibrateGroups groups := by
  induction groups with
  | nil => exact .idle (.chore (.pure true))
  | cons group rest ih =>
    have others := ih fun group among => near group (List.mem_cons_of_mem _ among)
    exact (sequencer.calibrateGroups_takes_of (near group List.mem_cons_self) others).maybe

/-- Calibrating the FIFO takes the programs for its bursts and those of a read test. -/
theorem calibrateVfifo_takes :
    sequencer.Takes (patternPrograms ++ readPrograms) (patternPrograms ++ readPrograms)
      fun table => (sequencer.withPrograms table).calibrateVfifo := by
  refine .bind sequencer.loadReadPatterns_takes fun _ => ?_
  show sequencer.Takes _ _ fun table =>
    (sequencer.withPrograms table).calibrateGroups sequencer.config.groups.groups
  -- Every layout has a group, so that there is always a read test.
  have near := sequencer.config.groups.groups_le
  obtain ⟨group, rest, split⟩ : ∃ group rest, sequencer.config.groups.groups = group :: rest := by
    rcases sequencer.config.groups with _ | (_ | _) | _ <;> exact ⟨_, _, rfl⟩
  rw [split] at near ⊢
  exact sequencer.calibrateGroups_takes_of (near group List.mem_cons_self)
    (sequencer.calibrateGroups_takes fun group among =>
      near group (List.mem_cons_of_mem _ among))

/-- Taking the path to the memory takes no program. -/
theorem takeOwnership_takes : sequencer.Takes [] [] fun table =>
    (sequencer.withPrograms table).takeOwnership :=
  .after (sequencer.writePhy_takes _ _) fun _ =>
  .after (sequencer.writePhy_takes _ _) fun _ =>
  .after (sequencer.writePhy_takes _ _) fun _ => sequencer.writePhy_takes _ _

/-- A calibration takes the programs that its configuration demands. -/
theorem calibrate_takes :
    sequencer.Takes sequencer.config.demanded sequencer.config.demanded fun table =>
      (sequencer.withPrograms table).calibrate := by
  refine Takes.listed (.after (.chore (.note .info
      ("calibrating " ++ sequencer.config.protocol.name ++ " memory"))) fun _ =>
    .after sequencer.takeOwnership_takes fun _ =>
    .after (.chore (sequencer.setRankAndOdtMask_chore (by decide))) fun _ =>
    .bind sequencer.startMemory_takes fun _ =>
    .bind (.after (.updateStatus _) fun _ =>
      .bind sequencer.configureMemory_takes fun _ => sequencer.calibrateVfifo_takes) fun pass =>
    .bind sequencer.prechargeAndActivate_takes fun _ =>
    .after (sequencer.writePhy_takes _ _) fun _ =>
    .bind sequencer.handOff_takes fun _ =>
    .after (sequencer.writePhy_takes _ _) fun _ =>
    .after (sequencer.writePhy_takes _ _) fun _ => .chore (.pure pass)) ?_
  intro program
  simp only [Config.demanded, List.mem_append, List.not_mem_nil, or_false]
  grind

end Sequencer

namespace Config

variable (config : Config) {program : RomProgram}

/-- The sequencer of the configuration with a table of programs, on a bus with a record. -/
def recorder {σ ε : Type} (bus : Bus σ ε) (log : Logger σ ε) (masks : Masks) (table : Programs) :
    Sequencer (σ × Array Access) ε :=
  ⟨bus.recording, { config with programs := table }, masks, log.onPart Part.first⟩

/-- Whatever the entries are, every calibration that comes to its end has written the entry of the
program to a register that runs programs or holds a jump target. -/
def Uses (config : Config) (program : RomProgram) : Prop :=
  ∀ {σ ε : Type} {bus : Bus σ ε} {log : Logger σ ε} (masks : Masks) (table : Programs),
    bus.Total → (∀ record state, ∃ next, log record state = .ok () next) →
    ∀ before pass after, (config.recorder bus log masks table).calibrate before = .ok pass after →
      ∃ (record : List Access) (offset : UInt32), after.device.2 = before.device.2 ++ record ∧
        RwManager.TakesEntry offset ∧
        .write (config.layout.rwManager + offset) (table program) ∈ record

/-- No calibration depends on the entry of the program. -/
def Ignores (config : Config) (program : RomProgram) : Prop :=
  ∀ {σ ε : Type} (bus : Bus σ ε) (log : Logger σ ε) (masks : Masks) (table other : Programs),
    (∀ each, each ≠ program → table each = other each) →
    Sequencer.calibrate ⟨bus, { config with programs := table }, masks, log⟩ =
      Sequencer.calibrate ⟨bus, { config with programs := other }, masks, log⟩

/-- Calibrations use every program that the configuration demands. -/
theorem uses_of_demanded (demanded : program ∈ config.demanded) : config.Uses program := by
  intro σ ε bus log masks table total logs before pass after ran
  have takes := (config.recorder bus log masks table).calibrate_takes
  obtain ⟨deeds, trace, enters⟩ := takes.each table before pass after ran
  obtain ⟨offset, entry, member⟩ := enters program demanded
  have recorded := Sequencer.recorder_trace logs rfl total rfl trace
  exact ⟨accesses deeds, offset, recorded, entry, List.mem_filterMap.2 ⟨_, member, rfl⟩⟩

/-- They depend on no other. -/
theorem ignores_of_not_demanded (spared : program ∉ config.demanded) : config.Ignores program := by
  intro σ ε bus log masks table other agree
  have takes := (⟨bus, config, masks, log⟩ : Sequencer σ ε).calibrate_takes
  apply takes.only table other
  intro each among
  apply agree
  rintro rfl
  exact spared among

/-- Where no divisor is zero and all registers have addresses, a calibration on a bus that does not
fail comes to its end, and has used every program that the configuration demands. -/
theorem runs_of_demanded {σ ε : Type} {bus : Bus σ ε} {log : Logger σ ε} (total : bus.Total)
    (logs : ∀ record state, ∃ next, log record state = .ok () next) (divides : config.Divides)
    (fits : config.layout.Fits) (few : (config.geometry .virtualGroupsPerReadDqs).toNat ≤ 64)
    (demanded : program ∈ config.demanded) (masks : Masks)
    (before : Progress (σ × Array Access)) :
    ∃ (pass : Bool) (after : Progress (σ × Array Access)) (record : List Access)
      (offset : UInt32),
      (config.recorder bus log masks config.programs).calibrate before = .ok pass after ∧
      after.device.2 = before.device.2 ++ record ∧ RwManager.TakesEntry offset ∧
      .write (config.layout.rwManager + offset) (config.programs program) ∈ record := by
  have answers : (config.recorder bus log masks config.programs).Answers :=
    Sequencer.recorder_answers logs rfl total rfl
  obtain ⟨pass, after, ran⟩ := Sequencer.calibrate_succeeds answers fits divides few before
  obtain ⟨record, offset, recorded, entry, among⟩ :=
    config.uses_of_demanded demanded masks _ total logs _ _ _ ran
  exact ⟨pass, after, record, offset, ran, recorded, entry, among⟩

end Config

end Bringup.Calibration
