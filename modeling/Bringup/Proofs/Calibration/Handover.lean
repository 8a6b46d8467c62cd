import Bringup.Calibration.Phy
import Bringup.Calibration.Sample
import Bringup.Proofs.Calibration.SimulatedPhy
import Bringup.Proofs.Calibration.Turns
/-!
# What a calibration leaves on the bus

On every bus that does not fail, whatever it answers, a calibration takes the path to the memory
once and gives it back once, works on the memory only in between, withdraws the last result at the
beginning and publishes the new one as its last access (`HandsOver`). The result, the status and the
searches of the groups agree (`Reports`). Main statement: `Sequencer.calibrate_hands_over`.
-/

namespace Bringup

variable {σ ε : Type}

/-- A bus on which no access fails. -/
structure Bus.Total (bus : Bus σ ε) : Prop where
  read : ∀ address state, ∃ value next, bus.read address state = .ok value next
  write : ∀ address value state, ∃ next, bus.write address value state = .ok () next

/-- A read that is recorded is the read and an entry in the record. -/
theorem Bus.recording_read {bus : Bus σ ε} {address value : UInt32} {state next : σ}
    (step : bus.read address state = .ok value next) (past : Array Access) :
    bus.recording.read address (state, past) =
      .ok value (next, past.push (.read address value)) := by
  have whole : (Part.first : Part (σ × Array Access) σ).run (bus.read address) (state, past) =
      .ok value (next, past) := Part.run_ok step
  exact (Action.bind_ok whole _).trans rfl

/-- A write that is recorded is the write and an entry in the record. -/
theorem Bus.recording_write {bus : Bus σ ε} {address value : UInt32} {state next : σ}
    (step : bus.write address value state = .ok () next) (past : Array Access) :
    bus.recording.write address value (state, past) =
      .ok () (next, past.push (.write address value)) := by
  have whole : (Part.first : Part (σ × Array Access) σ).run (bus.write address value)
      (state, past) = .ok () (next, past) := Part.run_ok step
  exact (Action.bind_ok whole _).trans rfl

/-- The values written to a register, in order. -/
def writesTo (address : UInt32) (record : List Access) : List UInt32 :=
  record.filterMap fun
    | .write place value => if place = address then some value else none
    | .read _ _ => none

namespace Calibration

/-- The access that a deed is, unless it is a log line. -/
def Deed.access? : Deed → Option Access
  | .read address value => some (.read address value)
  | .write address value => some (.write address value)
  | .log _ => none

/-- The accesses among some deeds. -/
def accesses (deeds : List Deed) : List Access := deeds.filterMap Deed.access?

/-- The register that says who owns the path to the memory. -/
def Layout.muxSelect (layout : Layout) : UInt32 := layout.phyManager + PhyManager.muxSelect

/-- The register where the result is published. -/
def Layout.calibrationStatus (layout : Layout) : UInt32 :=
  layout.phyManager + PhyManager.calibrationStatus

/-- A write to the read-write manager or the PLL manager. -/
def Layout.Works (layout : Layout) : Access → Prop
  | .read _ _ => False
  | .write address _ =>
    (layout.rwManager.toNat ≤ address.toNat ∧
      address.toNat < layout.rwManager.toNat + RwManager.window) ∨
    (layout.pllManager.toNat ≤ address.toNat ∧
      address.toNat < layout.pllManager.toNat + PllManager.window)

/-- A deed that writes neither of the registers that say who owns the path and what came of it. -/
def Layout.SparesPath (layout : Layout) : Deed → Prop
  | .write address _ => address ≠ layout.muxSelect ∧ address ≠ layout.calibrationStatus
  | _ => True

/-- How the accesses of a calibration with this result are ordered: the path is taken and given back
once, all writes to the two managers lie in between, and the result is withdrawn at first and
published at last. -/
structure HandsOver (layout : Layout) (pass : Bool) (record : List Access) : Prop where
  mux : writesTo layout.muxSelect record = [1, 0]
  published : writesTo layout.calibrationStatus record = [0, Sequencer.verdict pass]
  ordered : ∃ before during, record =
      before ++ .write layout.muxSelect 1 :: during ++
        [.write layout.muxSelect 0, .write layout.calibrationStatus (Sequencer.verdict pass)] ∧
    (∀ access ∈ before, ¬ layout.Works access) ∧
    ∀ access ∈ [Access.write layout.muxSelect 0,
      .write layout.calibrationStatus (Sequencer.verdict pass)], ¬ layout.Works access

/-- How the status tells the results of the searches of some groups: no failure if all succeeded,
and else the last group that failed, in one of the two steps of a search. -/
structure Reports (groups : List UInt32) (results : List Bool) (status : Status) : Prop where
  tried : results.length = groups.length
  passed : results.all id = true →
    status.stage = .nil ∧ status.substage = .nil ∧ status.group = noGroup
  failed : results.all id = false → status.stage = .vfifo ∧
    (status.substage = .dqsEnablePhase ∨ status.substage = .vfifoCenter) ∧
    ∃ earlier later, groups.zip results = earlier ++ (status.group, false) :: later ∧
      ∀ entry ∈ later, entry.2 = true

/-- The groups of every layout are among the first three. -/
theorem GroupLayout.groups_le (layout : GroupLayout) : ∀ group ∈ layout.groups, group ≤ 2 := by
  rcases layout with _ | (_ | _) | _ <;>
    simp only [groups, List.forall_mem_cons, List.not_mem_nil, false_implies, implies_true] <;>
    decide

/-- Deeds that spare both registers write neither. -/
theorem writesTo_spared {layout : Layout} {deeds : List Deed}
    (spare : ∀ deed ∈ deeds, layout.SparesPath deed) :
    writesTo layout.muxSelect (accesses deeds) = [] ∧
      writesTo layout.calibrationStatus (accesses deeds) = [] := by
  induction deeds with
  | nil => exact ⟨rfl, rfl⟩
  | cons deed deeds ih =>
    obtain ⟨first, others⟩ := List.forall_mem_cons.1 spare
    obtain ⟨mux, status⟩ := ih others
    cases deed with
    | log => exact ⟨mux, status⟩
    | read => exact ⟨mux, status⟩
    | write address value =>
      refine ⟨?_, ?_⟩
      · rw [← mux]
        exact List.filterMap_cons_none (if_neg first.1)
      · rw [← status]
        exact List.filterMap_cons_none (if_neg first.2)

/-- The accesses of deeds in sequence. -/
theorem accesses_append (first second : List Deed) :
    accesses (first ++ second) = accesses first ++ accesses second :=
  List.filterMap_append

/-- Writes of accesses in sequence. -/
theorem writesTo_append (address : UInt32) (first second : List Access) :
    writesTo address (first ++ second) = writesTo address first ++ writesTo address second :=
  List.filterMap_append

namespace Layout.Separates

variable {layout : Layout} (separates : layout.Separates)

include separates

/-- The two registers have addresses of their own. -/
theorem toNat_path :
    layout.muxSelect.toNat = layout.phyManager.toNat + 0x4008 ∧
      layout.calibrationStatus.toNat = layout.phyManager.toNat + 0x400c := by
  have ends := separates.phy
  rw [PhyManager.window] at ends
  have mux : PhyManager.muxSelect.toNat = 0x4008 := by decide
  have status : PhyManager.calibrationStatus.toNat = 0x400c := by decide
  rw [muxSelect, calibrationStatus, UInt32.toNat_add, UInt32.toNat_add]
  omega

/-- They are two registers. -/
theorem status_ne_mux : layout.calibrationStatus ≠ layout.muxSelect := by
  obtain ⟨mux, status⟩ := separates.toNat_path
  intro same
  have numbers := congrArg UInt32.toNat same
  omega

/-- A write anywhere else spares them. -/
theorem sparesPath_of_toNat {address : UInt32} (value : UInt32)
    (mux : address.toNat ≠ layout.phyManager.toNat + 0x4008)
    (status : address.toNat ≠ layout.phyManager.toNat + 0x400c) :
    layout.SparesPath (.write address value) := by
  obtain ⟨muxPlace, statusPlace⟩ := separates.toNat_path
  refine ⟨?_, ?_⟩
  · rintro rfl
    exact mux muxPlace
  · rintro rfl
    exact status statusPlace

/-- The PHY manager is neither of the two others. -/
theorem not_works {address : UInt32} (value : UInt32)
    (low : layout.phyManager.toNat ≤ address.toNat)
    (high : address.toNat < layout.phyManager.toNat + PhyManager.window) :
    ¬ layout.Works (.write address value) := by
  have rw := separates.phyRw
  have pll := separates.phyPll
  simp only [Apart] at rw pll
  rw [Works]
  omega

end Layout.Separates

namespace Sequencer

variable {sequencer : Sequencer σ ε} {group : UInt32}

/-- A plain deed spares the path. -/
theorem Plain.sparesPath (separates : sequencer.config.layout.Separates) {deed : Deed}
    (plain : sequencer.Plain deed) : sequencer.config.layout.SparesPath deed := by
  have apart := separates.phyRw
  simp only [Apart, PhyManager.window] at apart
  cases plain with
  | log => trivial
  | read => trivial
  | rw value low high => exact separates.sparesPath_of_toNat value (by omega) (by omega)
  | @phy address offset value among place =>
    have offsets := PhyManager.toNat_plain among
    exact separates.sparesPath_of_toNat value (by omega) (by omega)

/-- A deed of a search spares the path where the slots lie inside their window. -/
theorem SearchDeed.sparesPath (separates : sequencer.config.layout.Separates) (three : group ≤ 2)
    (few : sequencer.virtualGroups.toNat ≤ 64) {deed : Deed}
    (search : sequencer.SearchDeed group deed) : sequencer.config.layout.SparesPath deed := by
  have clock := captureClock_le three
  have rwApart := separates.phyRw
  have pllApart := separates.phyPll
  simp only [Apart, PhyManager.window, RwManager.window, PllManager.window] at rwApart pllApart
  cases search with
  | plain plain => exact plain.sparesPath separates
  | slot inside =>
    obtain ⟨_, place, small⟩ := runRegister?_of_few separates.toFits three few inside false
    have base : (runBase false).toNat = 0 := by decide
    exact separates.sparesPath_of_toNat _ (by omega) (by omega)
  | advance place =>
    have fifo := PhyManager.toNat_incrementVfifo
    exact separates.sparesPath_of_toNat group (by omega) (by omega)
  | clock place => exact separates.sparesPath_of_toNat _ (by omega) (by omega)
  | beside _ place => exact separates.sparesPath_of_toNat _ (by omega) (by omega)

/-- The status reports what the searches found, if nothing had failed before. -/
theorem Rounds.reports {groups : List UInt32} {failures : List (Option Substage)}
    {before after : Progress σ} (rounds : sequencer.Rounds groups before failures after)
    {latency : UInt32} (fresh : before.status = { Status.initial with writeLatency := latency }) :
    Reports groups (failures.map Option.isNone) after.status where
  tried := by rw [List.length_map, rounds.length_eq]
  passed := by
    intro success
    rw [List.all_map] at success
    rw [rounds.status_eq success, fresh]
    exact ⟨rfl, rfl, rfl⟩
  failed := by
    intro failed
    rw [List.all_map] at failed
    obtain ⟨earlier, later, group, substage, split, passed, step, same⟩ :=
      rounds.status_failed failed
    rw [same]
    refine ⟨rfl, step, earlier.map (Prod.map id Option.isNone),
      later.map (Prod.map id Option.isNone), ?_, ?_⟩
    · rw [List.zip_map_right, split, List.map_append, List.map_cons]
      rfl
    · intro entry member
      obtain ⟨found, among, rfl⟩ := List.mem_map.1 member
      exact Option.isNone_iff_eq_none.2 (passed found among)

section Recorded

variable {bus : Bus σ ε} {log : Logger σ ε} {recorder : Sequencer (σ × Array Access) ε}
  (logs : ∀ record state, ∃ next, log record state = .ok () next)
  (onLog : recorder.log = log.onPart Part.first)

include logs onLog

/-- A log line of a recorder leaves the record alone. -/
theorem log_recorded (entry : LogRecord) (state : σ) (past : Array Access) :
    ∃ next, recorder.log entry (state, past) = .ok () (next, past) := by
  obtain ⟨next, noted⟩ := logs entry state
  rw [onLog]
  have whole : (Part.first : Part (σ × Array Access) σ).run (log entry) (state, past) =
      .ok () (next, past) := Part.run_ok noted
  exact ⟨next, whole⟩

variable (total : bus.Total) (onBus : recorder.bus = bus.recording)

include total onBus

/-- Nothing that a recorder does fails. -/
theorem recorder_answers : recorder.Answers where
  read := by
    rintro address ⟨state, past⟩
    obtain ⟨value, next, step⟩ := total.read address state
    rw [onBus]
    exact ⟨value, _, Bus.recording_read step past⟩
  write := by
    rintro address value ⟨state, past⟩
    obtain ⟨next, step⟩ := total.write address value state
    rw [onBus]
    exact ⟨_, Bus.recording_write step past⟩
  log := by
    rintro entry ⟨state, past⟩
    obtain ⟨next, noted⟩ := log_recorded logs onLog entry state past
    exact ⟨_, noted⟩

/-- The record of a run of deeds holds their accesses. -/
theorem recorder_trace {before after : σ × Array Access} {deeds : List Deed}
    (trace : Trace recorder.Step before deeds after) : after.2 = before.2 ++ accesses deeds := by
  induction trace with
  | done => exact Array.appendList_nil.symm
  | @next before middle after deed rest taken _ ih =>
    obtain ⟨state, past⟩ := before
    cases deed with
    | read address value =>
      obtain ⟨answer, next, step⟩ := total.read address state
      have read : recorder.bus.read address (state, past) = .ok value middle := taken
      rw [onBus, Bus.recording_read step past] at read
      cases read
      rw [ih]
      exact Array.appendList_cons.symm
    | write address value =>
      obtain ⟨next, step⟩ := total.write address value state
      have wrote : recorder.bus.write address value (state, past) = .ok () middle := taken
      rw [onBus, Bus.recording_write step past] at wrote
      cases wrote
      rw [ih]
      exact Array.appendList_cons.symm
    | log entry =>
      obtain ⟨next, noted⟩ := log_recorded logs onLog entry state past
      have logged : recorder.log entry (state, past) = .ok () middle := taken
      rw [noted] at logged
      cases logged
      exact ih

end Recorded

/-- What taking the path writes to the two registers. -/
theorem writesTo_ownership (separates : sequencer.config.layout.Separates) :
    writesTo sequencer.config.layout.muxSelect (accesses sequencer.ownershipDeeds) = [1] ∧
      writesTo sequencer.config.layout.calibrationStatus (accesses sequencer.ownershipDeeds) =
        [0] := by
  have ends := separates.phy
  rw [PhyManager.window] at ends
  obtain ⟨mux, status⟩ := separates.toNat_path
  have latencyPlace : PhyManager.readLatency.toNat = 0x4000 := by decide
  have stablePlace : PhyManager.memoryStable.toNat = 0x4004 := by decide
  obtain ⟨latencyMux, latencyStatus⟩ : sequencer.config.layout.SparesPath
      (.write (sequencer.config.layout.phyManager + PhyManager.readLatency) 0xf) := by
    refine separates.sparesPath_of_toNat _ ?_ ?_ <;> rw [UInt32.toNat_add] <;> omega
  obtain ⟨stableMux, stableStatus⟩ : sequencer.config.layout.SparesPath
      (.write (sequencer.config.layout.phyManager + PhyManager.memoryStable) 0) := by
    refine separates.sparesPath_of_toNat _ ?_ ?_ <;> rw [UInt32.toNat_add] <;> omega
  have apart := separates.status_ne_mux
  refine ⟨?_, ?_⟩
  · show writesTo _ [Access.write _ _, .write sequencer.config.layout.muxSelect _, .write _ _,
      .write sequencer.config.layout.calibrationStatus _] = _
    simp [writesTo, latencyMux, stableMux, apart]
  · show writesTo _ [Access.write _ _, .write sequencer.config.layout.muxSelect _, .write _ _,
      .write sequencer.config.layout.calibrationStatus _] = _
    simp [writesTo, latencyStatus, stableStatus, apart.symm]

/-- The accesses of a calibration are ordered, whatever is done in between that spares the path. -/
theorem handsOver_of_deeds (separates : sequencer.config.layout.Separates) {deeds : List Deed}
    (spare : ∀ deed ∈ deeds, sequencer.config.layout.SparesPath deed) (pass : Bool) :
    HandsOver sequencer.config.layout pass
      (accesses (sequencer.ownershipDeeds ++ (deeds ++ sequencer.releaseDeeds pass))) := by
  obtain ⟨taken, withdrawn⟩ := writesTo_ownership separates
  obtain ⟨mux, status⟩ := writesTo_spared spare
  obtain ⟨muxPlace, statusPlace⟩ := separates.toNat_path
  have ends := separates.phy
  have size : PhyManager.window = 0x401c := rfl
  have apart := separates.status_ne_mux
  have release : accesses (sequencer.releaseDeeds pass) =
      [.write sequencer.config.layout.muxSelect 0,
        .write sequencer.config.layout.calibrationStatus (verdict pass)] := rfl
  refine ⟨?_, ?_, ?_⟩
  · rw [accesses_append, accesses_append, writesTo_append, writesTo_append, taken, mux, release]
    simp [writesTo, apart]
  · rw [accesses_append, accesses_append, writesTo_append, writesTo_append, withdrawn, status,
      release]
    simp [writesTo, apart.symm]
  · have latencyPlace : PhyManager.readLatency.toNat = 0x4000 := by decide
    refine ⟨[.write (sequencer.config.layout.phyManager + PhyManager.readLatency) 0xf],
      [.write (sequencer.config.layout.phyManager + PhyManager.memoryStable) 0,
        .write sequencer.config.layout.calibrationStatus 0] ++ accesses deeds, ?_, ?_, ?_⟩
    · rw [accesses_append, accesses_append, release]
      rfl
    · refine List.forall_mem_singleton.2 (separates.not_works _ ?_ ?_) <;>
        rw [UInt32.toNat_add] <;> omega
    · exact List.forall_mem_cons.2 ⟨separates.not_works _ (by omega) (by omega),
        List.forall_mem_singleton.2 (separates.not_works _ (by omega) (by omega))⟩

/-- A configuration whose divisors are not zero has a sequencer. -/
theorem create_ok (bus : Bus σ ε) (log : Logger σ ε) {config : Config}
    (divides : config.Divides) :
    ∃ sequencer, create bus log config = .ok sequencer ∧ sequencer.bus = bus ∧
      sequencer.log = log ∧ sequencer.config = config := by
  unfold create Masks.ofGeometry
  rw [Word.div32, if_neg divides.virtualGroups, Word.div32, if_neg divides.dataMask]
  exact ⟨_, rfl, rfl, rfl, rfl⟩

/-- A calibration comes to its end where all registers have addresses. -/
theorem calibrate_succeeds (answers : sequencer.Answers) (fits : sequencer.config.layout.Fits)
    (divides : sequencer.config.Divides) (few : sequencer.virtualGroups.toNat ≤ 64) :
    Succeeds sequencer.calibrate := by
  rw [calibrate_eq]
  have searches :
      Succeeds (sequencer.config.groups.groups.mapM sequencer.findDqsEnablePhase) := by
    intro before
    obtain ⟨_, after, _, ran⟩ := mapM_rounds answers divides.virtualGroups
      (fun group among => .of_few fits (GroupLayout.groups_le _ group among) few) before
    exact ⟨_, after, ran⟩
  exact .bind (prepare_succeeds answers fits divides) fun _ => .bind searches fun results =>
    .bind (conclude_succeeds answers fits divides _) fun _ => fun before => ⟨_, before, rfl⟩

/-- A calibration hands the memory over. On every bus that does not fail, whatever it answers, from
whatever status, and for every configuration whose divisors are not zero and whose registers have
addresses of their own: it ends, having searched every group of the layout in order, also after a
failure, and its result is whether all searches succeeded. The accesses that it made take the path
and give it back once, and publish the result last; the status reports the searches. -/
theorem calibrate_hands_over {bus : Bus σ ε} (total : bus.Total) {log : Logger σ ε}
    (logs : ∀ record state, ∃ next, log record state = .ok () next) {config : Config}
    (divides : config.Divides) (few : (config.geometry .virtualGroupsPerReadDqs).toNat ≤ 64)
    (separates : config.layout.Separates) :
    ∃ sequencer, create bus.recording (log.onPart Part.first) config = .ok sequencer ∧
      ∀ (status : Status) (state : σ) (past : Array Access),
        ∃ (results : List Bool) (begun ended : Progress (σ × Array Access)) (after : Status)
          (next : σ) (record : List Access),
          sequencer.prepare ⟨status, state, past⟩ = .ok () begun ∧
          config.groups.groups.mapM sequencer.findDqsEnablePhase begun = .ok results ended ∧
          sequencer.conclude (results.all id) ended = .ok () ⟨after, next, past ++ record⟩ ∧
          sequencer.calibrate ⟨status, state, past⟩ =
            .ok (results.all id) ⟨after, next, past ++ record⟩ ∧
          HandsOver config.layout (results.all id) record ∧
          Reports config.groups.groups results after := by
  obtain ⟨sequencer, created, onBus, onLog, rfl⟩ :=
    create_ok bus.recording (log.onPart Part.first) divides
  refine ⟨sequencer, created, fun status state past => ?_⟩
  have answers : sequencer.Answers := recorder_answers logs onLog total onBus
  have reaches : ∀ group ∈ sequencer.config.groups.groups, sequencer.Reaches group :=
    fun group among => .of_few separates.toFits (GroupLayout.groups_le _ group among) few
  obtain ⟨_, begun, prepared⟩ :=
    prepare_succeeds answers separates.toFits divides ⟨status, state, past⟩
  obtain ⟨failures, ended, rounds, searched⟩ :=
    mapM_rounds answers divides.virtualGroups reaches begun
  obtain ⟨_, ⟨after, next, kept⟩, concluded⟩ := conclude_succeeds answers separates.toFits divides
    ((failures.map Option.isNone).all id) ended
  obtain ⟨starts, latency, start, startPlain, fresh⟩ := prepare_trace prepared
  obtain ⟨tries, search, trySearch⟩ :=
    mapM_trace separates.toFits (fun group among => (reaches group among).three) searched
  obtain ⟨ends, finish, endPlain, same⟩ := conclude_trace concluded
  have whole := (start.append search).append finish
  have recorded := recorder_trace logs onLog total onBus whole
  have spare : ∀ deed ∈ starts ++ (tries ++ ends),
      sequencer.config.layout.SparesPath deed := by
    refine List.forall_mem_append.2 ⟨fun deed member =>
      (startPlain deed member).sparesPath separates,
      List.forall_mem_append.2 ⟨fun deed member => ?_,
        fun deed member => (endPlain deed member).sparesPath separates⟩⟩
    obtain ⟨group, among, searching⟩ := trySearch deed member
    exact searching.sparesPath separates (GroupLayout.groups_le _ group among) few
  have order : sequencer.ownershipDeeds ++ starts ++ tries ++
        (ends ++ sequencer.releaseDeeds ((failures.map Option.isNone).all id)) =
      sequencer.ownershipDeeds ++ (starts ++ (tries ++ ends) ++
        sequencer.releaseDeeds ((failures.map Option.isNone).all id)) := by
    simp only [List.append_assoc]
  rw [order] at recorded
  obtain rfl : kept = _ := recorded
  refine ⟨_, begun, ended, after, next, _, prepared, searched, concluded, ?_,
    handsOver_of_deeds separates spare _, ?_⟩
  · rw [calibrate_eq, Action.bind_ok prepared, Action.bind_ok searched, Action.bind_ok concluded]
    rfl
  · obtain rfl : after = ended.status := same
    exact rounds.reports fresh

/-- A PHY on which every bit reads well at the first operating point and in the two phases above
it. -/
def samplePhy : Phy :=
  { Phy.fresh Config.sample.layout 0x60 1 with bands := [⟨none, some 0, some 0, some 2, 0⟩] }

/-- The sequencer of the sample memory on this PHY, with a record. -/
def sampleRecorder : Sequencer (Phy × Array Access) Empty :=
  ⟨Phy.bus.recording, .sample, ⟨0xff, 0xff, 0xff, 0xff, 0xff⟩, Logger.silent.onPart Part.first⟩

/-- The registers of the sample memory have addresses of their own. -/
theorem sample_separates : Config.sample.layout.Separates where
  phy := by decide
  rw := by decide
  pll := by decide
  phyRw := by decide
  phyPll := by decide
  rwPll := by decide

/-- The sample memory is calibrated and handed over on this PHY. -/
theorem sampleRecorder_handsOver :
    Config.sample.Divides ∧ Config.sample.layout.Separates ∧
      ∃ (after : Status) (next : Phy) (record : List Access),
        sampleRecorder.calibrate ⟨.initial, samplePhy, #[]⟩ =
          .ok true ⟨after, next, (#[] : Array Access) ++ record⟩ ∧
        HandsOver Config.sample.layout true record ∧ Reports [0] [true] after := by
  have divides : Config.sample.Divides :=
    ⟨by decide, by decide, by decide, by decide, by decide⟩
  have total : (Phy.bus : Bus Phy Empty).Total := ⟨Phy.read_ok, fun _ _ _ => ⟨_, rfl⟩⟩
  have logs (record : LogRecord) (phy : Phy) :
      ∃ next, (Logger.silent : Logger Phy Empty) record phy = .ok () next := ⟨phy, rfl⟩
  have created : create (Phy.bus : Bus Phy Empty).recording (Logger.silent.onPart Part.first)
      Config.sample = .ok sampleRecorder := rfl
  have passes : (match sampleRecorder.calibrate ⟨.initial, samplePhy, #[]⟩ with
      | .ok pass _ => pass
      | .error _ _ => false) = true := by decide +kernel
  obtain ⟨sequencer, same, calibrates⟩ :=
    calibrate_hands_over total logs divides (by decide) sample_separates
  obtain rfl : sampleRecorder = sequencer := Except.ok.inj (created.symm.trans same)
  obtain ⟨results, _, _, after, next, record, _, _, _, calibrated, handsOver, reports⟩ :=
    calibrates .initial samplePhy #[]
  rw [calibrated] at passes
  obtain ⟨result, rfl⟩ := List.length_eq_one_iff.1 reports.tried
  obtain rfl : result = true := by simpa using passes
  exact ⟨divides, sample_separates, after, next, record, calibrated, handsOver, reports⟩

end Sequencer

end Calibration

end Bringup
