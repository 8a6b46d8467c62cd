import Bringup.Proofs.Calibration.Beside
import Bringup.Proofs.Calibration.SearchBounds
/-!
# What a phase scan leaves behind

A scan goes up from phase to phase, testing each, and comes back down. What it does is made of the
moves of a search (`scanMoves`), so the steps of the clocks can be counted on the bus as there. What
it prints goes to paper that lies beside the bus; the paper may refuse a text, and nothing but the
paper shows that it did (`scan_runs`). Main statement: a scan restores the phases, and the map and
the count that it gives are those of its tests (`scan_restores`).
-/

namespace Bringup.Calibration

open Move (tests netSteps tests_append)

/-- The moves of a scan whose tests read these error words. -/
def scanMoves (tested : List (List UInt32)) : List Move :=
  tested.flatMap (fun words => [.tested words, .up]) ++ List.replicate tested.length .down

/-- The moves of a scan on its way up. -/
def rising (tested : List (List UInt32)) : List Move :=
  tested.flatMap fun words => [.tested words, .up]

/-- A scan goes up and comes back down. -/
theorem scanMoves_eq (tested : List (List UInt32)) :
    scanMoves tested = rising tested ++ List.replicate tested.length .down := rfl

/-- Each test on the way up is followed by a step. -/
theorem rising_cons (words : List UInt32) (tested : List (List UInt32)) :
    rising (words :: tested) = .tested words :: .up :: rising tested := rfl

/-- The line that a scan begins with. -/
def scanHeader (group : UInt32) : String :=
  "DQS enable phase scan, group " ++ Text.decimal group.toNat ++ ":\n"

/-- What a scan prints for a test. -/
def mark (pass : Bool) : String := if pass then "1" else "0"

/-- Paper that takes texts: whether it took one, and the paper after it. -/
abbrev Paper (ρ : Type) : Type := String → ρ → Bool × ρ

namespace Paper

variable {σ ρ ε : Type}

/-- Paper that lies beside the state of a bus is a printer. -/
def printer (paper : Paper ρ) : Sequencer.Printer (σ × ρ) ε :=
  some fun text => Part.second.run fun page => .ok (paper text page).1 (paper text page).2

/-- What is on the paper when it was given some texts. -/
def printed (paper : Paper ρ) (texts : List String) (page : ρ) : ρ :=
  texts.foldl (fun page text => (paper text page).2) page

/-- Printing a text and then texts. -/
theorem printed_cons (paper : Paper ρ) (text : String) (texts : List String) (page : ρ) :
    paper.printed (text :: texts) page = paper.printed texts (paper text page).2 := rfl

/-- Printing texts and then texts. -/
theorem printed_append (paper : Paper ρ) (first second : List String) (page : ρ) :
    paper.printed (first ++ second) page = paper.printed second (paper.printed first page) :=
  List.foldl_append

/-- Paper that takes every text. -/
def plain : Paper String := fun text page => (true, page ++ text)

end Paper

/-- Where no deed writes a register, no access does. -/
theorem writesTo_eq_nil {address : UInt32} {deeds : List Deed}
    (unwritten : ∀ value, ∀ deed ∈ deeds, deed ≠ .write address value) :
    writesTo address (accesses deeds) = [] := by
  induction deeds with
  | nil => rfl
  | cons deed rest ih =>
    have others := ih fun value other among =>
      unwritten value other (List.mem_cons_of_mem deed among)
    cases deed with
    | read => exact others
    | log => exact others
    | write place value =>
      have apart : place ≠ address := by
        rintro rfl
        exact unwritten value _ List.mem_cons_self rfl
      rw [← others]
      exact List.filterMap_cons_none (if_neg apart)

namespace Sequencer

open Procedure (checked device ok_beside)

variable {σ ε ρ : Type} {sequencer : Sequencer σ ε} {group : UInt32} {state : σ}

/-- The verdicts of tests that one good bit passes. -/
def verdicts (sequencer : Sequencer σ ε) (tested : List (List UInt32)) : List Bool :=
  tested.map (sequencer.passes false)

/-- Printing is seen on the paper only. -/
theorem print_runs (paper : Paper ρ) (text : String) (status : Status) (state : σ) (page : ρ) :
    print (paper.printer : Printer (σ × ρ) ε) text ⟨status, state, page⟩ =
      .ok () ⟨status, state, (paper text page).2⟩ := rfl

section Scans

variable (answers : sequencer.Answers) (fits : sequencer.config.layout.Fits) (three : group ≤ 2)
  (divided : sequencer.virtualGroups ≠ 0)

include answers fits three divided

/-- On its way up a scan tests and steps in turn. It counts the tests that pass and prints a mark
for each, and what becomes of the marks is seen nowhere else. -/
theorem scanUp_runs {steps : Nat} (slots : 0 < steps → sequencer.Runnable (runBase false) group)
    (working : Nat) (state : σ) :
    ∃ tested next, tested.length = steps ∧
      (∀ words ∈ tested, words.length = sequencer.virtualGroups.toNat) ∧
      sequencer.Makes group (sequencer.scanUp none group steps working) state
        (working + (sequencer.verdicts tested).count true)
        (rising tested) next ∧
      ∀ (ρ : Type) (paper : Paper ρ) (status : Status) (page : ρ),
        (sequencer.beside ρ).scanUp paper.printer group steps working ⟨status, state, page⟩ =
          .ok (working + (sequencer.verdicts tested).count true)
            ⟨status, next, paper.printed ((sequencer.verdicts tested).map mark) page⟩ := by
  induction steps generalizing working state with
  | zero =>
    exact ⟨[], state, rfl, by simp, .pure working state, fun _ _ _ _ => rfl⟩
  | succ steps ih =>
    have runnable := slots (Nat.succ_pos steps)
    obtain ⟨words, pass, read, verdict, test⟩ :=
      readTest_makes answers ⟨three, fits, runnable⟩ divided false state
    obtain ⟨stepped, step⟩ := phaseUp_makes answers fits three read
    obtain ⟨tested, next, length, whole, makes, prints⟩ :=
      ih (fun _ => runnable) (if pass then working + 1 else working) stepped
    have counted : (if pass then working + 1 else working) +
        (sequencer.verdicts tested).count true =
        working + (sequencer.verdicts (words :: tested)).count true := by
      rw [verdicts, verdicts, List.map_cons, verdict.2]
      cases pass
      · simp
      · simp
        omega
    rw [counted] at makes prints
    refine ⟨words :: tested, next, by rw [List.length_cons, length],
      List.forall_mem_cons.2 ⟨verdict.1, whole⟩, ?_, ?_⟩
    · exact (test.map Prod.fst).bind (Makes.bind (.pure () _) (step.bind makes))
    · intro ρ paper status page
      have reads : (sequencer.beside ρ).anyBitReads group ⟨status, state, page⟩ =
          .ok pass ⟨status, read, page⟩ :=
        Action.map_ok (ok_beside (sequencer.readTest_inStep page group false false)
          (test.runs status)) Prod.fst
      have marks := print_runs (ε := ε) paper (mark pass) status read page
      have goes : (sequencer.beside ρ).phaseUp group ⟨status, read, (paper (mark pass) page).2⟩ =
          .ok () ⟨status, stepped, (paper (mark pass) page).2⟩ :=
        ok_beside (sequencer.stepClock_inStep _ (captureClock group) PllManager.increment)
          (step.runs status)
      have rest := prints ρ paper status (paper (mark pass) page).2
      rw [scanUp]
      refine (Action.bind_ok reads _).trans ((Action.bind_ok marks _).trans
        ((Action.bind_ok goes _).trans (rest.trans ?_)))
      rw [verdicts, verdicts, List.map_cons, verdict.2]
      rfl

/-- A scan makes its moves, whatever becomes of what it prints, and answers how many tests
passed. -/
theorem scan_runs {steps : Nat} (slots : 0 < steps → sequencer.Runnable (runBase false) group)
    (state : σ) :
    ∃ tested next, tested.length = steps ∧
      (∀ words ∈ tested, words.length = sequencer.virtualGroups.toNat) ∧
      sequencer.Makes group (sequencer.scan none group steps) state
        ((sequencer.verdicts tested).count true) (scanMoves tested) next ∧
      ∀ (ρ : Type) (paper : Paper ρ) (status : Status) (page : ρ),
        (sequencer.beside ρ).scan paper.printer group steps ⟨status, state, page⟩ =
          .ok ((sequencer.verdicts tested).count true)
            ⟨status, next, paper.printed
              (scanHeader group :: ((sequencer.verdicts tested).map mark ++ ["\n"])) page⟩ := by
  obtain ⟨tested, top, length, whole, makes, prints⟩ :=
    scanUp_runs answers fits three divided slots 0 state
  rw [Nat.zero_add] at makes prints
  obtain ⟨next, back⟩ := phaseDownBy_makes answers fits three steps top
  refine ⟨tested, next, length, whole, ?_, ?_⟩
  · have ends : sequencer.Makes group
        (print none "\n" >>= fun _ => pure ((sequencer.verdicts tested).count true)) next
        ((sequencer.verdicts tested).count true) [] next :=
      Makes.bind (.pure () next) (.pure _ next)
    rw [scanMoves_eq, length, ← List.nil_append (rising _ ++ _),
      ← List.append_nil (List.replicate _ _)]
    exact .bind (.pure () state) (makes.bind (back.bind ends))
  · intro ρ paper status page
    have begins := print_runs (ε := ε) paper (scanHeader group) status state page
    have rises := prints ρ paper status (paper (scanHeader group) page).2
    have falls (left : ρ) :=
      ok_beside (sequencer.phaseDownBy_inStep left group steps) (back.runs status)
    have ends := print_runs (ε := ε) paper "\n" status next
    rw [scan]
    refine (Action.bind_ok begins _).trans ((Action.bind_ok rises _).trans
      ((Action.bind_ok (falls _) _).trans ((Action.bind_ok (ends _) _).trans ?_)))
    rw [Paper.printed_cons, Paper.printed_append]
    rfl

end Scans

/-- What the moves of a scan are: each of its tests at the net steps up that are its number, and in
the end every clock register and every FIFO as before. -/
structure Scans (sequencer : Sequencer σ ε) (group : UInt32) (tested : List (List UInt32))
    (moves : List Move) : Prop where
  tests : tests moves = tested
  phases : ∀ index (inside : index < tested.length), ∃ before after,
    moves = before ++ .tested tested[index] :: after ∧ (Move.tests before).length = index ∧
      netSteps before = index ∧ ∀ register ∈ sequencer.clockRegisters group,
        Deed.travels register (before.flatMap (sequencer.moveDeeds group)) = index
  restored : netSteps moves = 0
  registers : ∀ register, sequencer.config.layout.Clocks register →
    Deed.travels register (moves.flatMap (sequencer.moveDeeds group)) = 0
  fifo : writesTo (sequencer.config.layout.phyManager + PhyManager.incrementVfifo)
    (sequencer.accessesOf group moves) = []

section Moves

variable {tested : List (List UInt32)}

/-- On its way up a scan makes its tests. -/
theorem tests_rising : tests (rising tested) = tested := by
  induction tested with
  | nil => rfl
  | cons words rest ih => rw [rising_cons, tests, tests, ih]

/-- On its way up a scan makes a step for each test. -/
theorem netSteps_rising : netSteps (rising tested) = tested.length := by
  induction tested with
  | nil => rfl
  | cons words rest ih =>
    have step : netSteps (rising (words :: rest)) = netSteps (rising rest) + 1 := by
      rw [rising_cons]
      simp [netSteps]
      omega
    rw [step, ih, List.length_cons]
    omega

/-- The net steps of a scan. -/
theorem netSteps_scanMoves : netSteps (scanMoves tested) = 0 := by
  rw [scanMoves_eq, Move.netSteps_append, netSteps_rising]
  simp [netSteps, List.count_replicate]

/-- The tests of a scan. -/
theorem tests_scanMoves : tests (scanMoves tested) = tested := by
  rw [scanMoves_eq, tests_append, tests_rising, Move.tests_replicate_down, List.append_nil]

/-- A test of a scan lies behind the tests and steps before it. -/
theorem scanMoves_split {index : Nat} (inside : index < tested.length) :
    ∃ after, scanMoves tested =
      rising (tested.take index) ++ .tested tested[index] :: after := by
  have parts : rising tested = rising (tested.take index) ++ rising (tested.drop index) := by
    rw [rising, rising, rising, ← List.flatMap_append, List.take_append_drop]
  rw [scanMoves_eq, parts, List.drop_eq_getElem_cons inside, rising_cons, List.append_assoc]
  exact ⟨_, rfl⟩

/-- A scan tests and steps, and does nothing else. -/
theorem mem_scanMoves {move : Move} (among : move ∈ scanMoves tested) :
    (∃ words ∈ tested, move = .tested words) ∨ move = .up ∨ move = .down := by
  rw [scanMoves_eq, rising, List.mem_append, List.mem_flatMap, List.mem_replicate] at among
  rcases among with ⟨words, inside, one⟩ | ⟨_, rfl⟩
  · rw [List.mem_cons, List.mem_singleton] at one
    rcases one with rfl | rfl
    · exact .inl ⟨words, inside, rfl⟩
    · exact .inr (.inl rfl)
  · exact .inr (.inr rfl)

/-- Each test of a scan reads all virtual groups. -/
theorem scanMoves_sized (whole : ∀ words ∈ tested, words.length = sequencer.virtualGroups.toNat) :
    ∀ move ∈ scanMoves tested, sequencer.Sized move := by
  intro move among
  obtain ⟨words, inside, rfl⟩ | rfl | rfl := mem_scanMoves among
  · exact whole words inside
  · trivial
  · trivial

end Moves

section Apart

variable (separates : sequencer.config.layout.Separates) (three : group ≤ 2)

include separates

/-- Where the register lies that moves a FIFO on. -/
theorem toNat_fifo :
    (sequencer.config.layout.phyManager + PhyManager.incrementVfifo).toNat =
      sequencer.config.layout.phyManager.toNat + 4 := by
  have ends := separates.phy
  have advance := PhyManager.toNat_incrementVfifo
  rw [PhyManager.window] at ends
  rw [UInt32.toNat_add]
  omega

/-- A read test moves no FIFO on, where no slot is run there. -/
theorem TestDeed.ne_advance (houses : sequencer.Houses group) {deed : Deed}
    (test : sequencer.TestDeed group deed) (value : UInt32) :
    deed ≠ .write (sequencer.config.layout.phyManager + PhyManager.incrementVfifo) value := by
  have fifo := toNat_fifo separates
  have phyRw := separates.phyRw
  simp only [Apart, PhyManager.window, RwManager.window] at phyRw
  intro same
  cases test with
  | plain plain =>
    subst same
    cases plain with
    | rw _ low high =>
      rw [RwManager.window] at high
      omega
    | phy _ among place =>
      have offsets := PhyManager.toNat_plain among
      omega
  | @slot index inside => exact houses.fifo index inside (Deed.write.inj same).1

include three

/-- Neither does a scan. -/
theorem writesTo_scanMoves (houses : sequencer.Houses group) {tested : List (List UInt32)}
    (whole : ∀ words ∈ tested, words.length = sequencer.virtualGroups.toNat) :
    writesTo (sequencer.config.layout.phyManager + PhyManager.incrementVfifo)
      (sequencer.accessesOf group (scanMoves tested)) = [] := by
  have fits := separates.toFits
  have fifo := toNat_fifo separates
  have phyPll := separates.phyPll
  simp only [Apart, PhyManager.window] at phyPll
  have clock (command value : UInt32) : ∀ deed ∈ sequencer.clockDeeds group command,
      deed ≠ .write (sequencer.config.layout.phyManager + PhyManager.incrementVfifo) value := by
    rw [clockDeeds_eq]
    rintro deed among rfl
    obtain ⟨register, own, same⟩ := List.mem_map.1 among
    have clocks := clocks_of_mem fits three own
    have low := clocks.low
    have high := clocks.high
    cases same
    omega
  apply writesTo_eq_nil
  intro value deed among
  obtain ⟨move, inside, done⟩ := List.mem_flatMap.1 among
  obtain ⟨words, tests, rfl⟩ | rfl | rfl := mem_scanMoves inside
  · have test := testDeeds_test fits three (whole words tests) deed done
    exact test.ne_advance separates houses value
  · exact clock PllManager.increment value deed done
  · exact clock PllManager.decrement value deed done

/-- The moves of a scan are those of a scan. -/
theorem scanMoves_scans (houses : sequencer.Houses group) {tested : List (List UInt32)}
    (whole : ∀ words ∈ tested, words.length = sequencer.virtualGroups.toNat) :
    sequencer.Scans group tested (scanMoves tested) where
  tests := tests_scanMoves
  phases := by
    intro index inside
    obtain ⟨after, parts⟩ := scanMoves_split inside
    have length : (tested.take index).length = index := by
      rw [List.length_take]
      omega
    refine ⟨_, after, parts, ?_, ?_, ?_⟩
    · rw [tests_rising, length]
    · rw [netSteps_rising, length]
    · intro register own
      have fits := separates.toFits
      have clocks := clocks_of_mem fits three own
      rw [moves_travels separates clocks three houses, travel_eq_netSteps fits three own,
        netSteps_rising, length]
      intro move among
      apply scanMoves_sized whole
      rw [parts]
      exact List.mem_append_left _ among
  restored := netSteps_scanMoves
  registers := by
    intro register clocks
    rw [moves_travels separates clocks three houses (scanMoves_sized whole)]
    by_cases own : register ∈ sequencer.clockRegisters group
    · rw [travel_eq_netSteps separates.toFits three own, netSteps_scanMoves]
    · exact travel_eq_zero own _
  fifo := writesTo_scanMoves separates three houses whole

end Apart

/-- A scan of no steps does nothing. -/
theorem scanMoves_nil : sequencer.Scans group [] (scanMoves []) where
  tests := rfl
  phases _ inside := absurd inside (Nat.not_lt_zero _)
  restored := rfl
  registers _ _ := rfl
  fifo := rfl

/-- The map that a scan draws: a one for each test that passes. -/
def scanMap (verdicts : List Bool) : String :=
  String.ofList (verdicts.map fun pass => if pass then '1' else '0')

/-- A test that passes and one that fails have different marks. -/
theorem marks_injective : Function.Injective fun pass : Bool => if pass then '1' else '0' := by
  intro first second same
  cases first <;> cases second <;> simp_all

/-- Paper that takes every text has the header on it, the map and the end of the line. -/
theorem printed_plain (group : UInt32) (verdicts : List Bool) (page : String) :
    Paper.plain.printed (scanHeader group :: (verdicts.map mark ++ ["\n"])) page =
      page ++ scanHeader group ++ scanMap verdicts ++ "\n" := by
  have marks (begun : String) :
      Paper.plain.printed (verdicts.map mark) begun = begun ++ scanMap verdicts := by
    induction verdicts generalizing begun with
    | nil => simp [Paper.printed, scanMap]
    | cons pass rest ih =>
      have first : mark pass ++ scanMap rest = scanMap (pass :: rest) := by
        rw [scanMap, scanMap, List.map_cons, ← List.singleton_append, String.ofList_append]
        cases pass <;> rfl
      rw [List.map_cons, Paper.printed_cons, ih, Paper.plain, String.append_assoc, first]
  rw [Paper.printed_cons, Paper.printed_append, marks]
  rfl

/-- A sequencer that was created for a bus and a log has them. -/
theorem onBus_of_create {bus : Bus σ ε} {log : Logger σ ε} {config : Config}
    (created : create bus log config = .ok sequencer) :
    sequencer.bus = bus ∧ sequencer.log = log := by
  unfold create at created
  cases masks : Masks.ofGeometry config.geometry with
  | error fault =>
    rw [masks] at created
    cases created
  | ok masks =>
    rw [masks] at created
    cases created
    exact ⟨rfl, rfl⟩

/-- A scan leaves the phases and the FIFOs as they were, and counts what it prints. On every bus
that does not fail, whatever it answers, and for every configuration whose registers have addresses
of their own, where every slot of the group is run at an address that is neither a clock register
nor that of the FIFO: a scan of some steps takes as many read tests, each at the net steps up that
are its number, and afterwards no clock register has moved, no FIFO was moved on, and the status is
as it was. It answers how many of its tests passed. It does so, over the same accesses, without a
printer and with one, also where paper refuses some of the texts; paper that takes all of them has
the map on it, between the header and the end of the line, with one mark for each test. -/
theorem scan_restores {bus : Bus σ ε} (total : bus.Total) {log : Logger σ ε}
    (logs : ∀ record state, ∃ next, log record state = .ok () next) {config : Config}
    {recorder : Sequencer (σ × Array Access) ε}
    (created : create bus.recording (log.onPart Part.first) config = .ok recorder)
    (separates : config.layout.Separates) (three : group ≤ 2) (steps : Nat)
    (slots : 0 < steps → recorder.Runnable (runBase false) group ∧ recorder.Houses group)
    (status : Status) (state : σ) (past : Array Access) :
    ∃ (tested : List (List UInt32)) (moves : List Move) (working : Nat) (map : String) (next : σ),
      tested.length = steps ∧
      (∀ words ∈ tested, words.length = recorder.virtualGroups.toNat) ∧
      recorder.Scans group tested moves ∧
      valuesRead (recorder.accessesOf group moves) = tested.flatten ∧
      recorder.scan none group steps ⟨status, state, past⟩ =
        .ok working ⟨status, next, past ++ recorder.accessesOf group moves⟩ ∧
      (∀ (ρ : Type) (paper : Paper ρ) (page : ρ),
        (recorder.beside ρ).scan paper.printer group steps ⟨status, (state, past), page⟩ =
          .ok working ⟨status, (next, past ++ recorder.accessesOf group moves), paper.printed
            (scanHeader group :: ((recorder.verdicts tested).map mark ++ ["\n"])) page⟩) ∧
      (∀ page, (recorder.beside String).scan Paper.plain.printer group steps
          ⟨status, (state, past), page⟩ =
        .ok working ⟨status, (next, past ++ recorder.accessesOf group moves),
          page ++ scanHeader group ++ map ++ "\n"⟩) ∧
      map.length = steps ∧
      (∀ index (inside : index < tested.length), map.toList[index]? =
        some (if recorder.passes false tested[index] then '1' else '0')) ∧
      map.toList.count '1' = working := by
  obtain ⟨onBus, onLog⟩ := onBus_of_create created
  obtain ⟨rfl, divided⟩ := of_create created
  have answers : recorder.Answers := recorder_answers logs onLog total onBus
  obtain ⟨tested, ⟨next, kept⟩, length, whole, makes, prints⟩ := scan_runs answers
    separates.toFits three divided (fun positive => (slots positive).1) (state, past)
  have recorded : kept = past ++ recorder.accessesOf group (scanMoves tested) :=
    recorder_trace logs onLog total onBus makes.trace
  have scans : recorder.Scans group tested (scanMoves tested) := by
    rcases Nat.eq_zero_or_pos steps with rfl | positive
    · rw [List.length_eq_zero_iff.1 length]
      exact scanMoves_nil
    · exact scanMoves_scans separates three (slots positive).2 whole
  rw [recorded] at makes prints
  refine ⟨tested, scanMoves tested, _, scanMap (recorder.verdicts tested), next, length, whole,
    scans, ?_, makes.runs status, fun ρ paper page => prints ρ paper status page, ?_, ?_, ?_, ?_⟩
  · rw [valuesRead_accessesOf, tests_scanMoves]
  · intro page
    rw [← printed_plain]
    exact prints String Paper.plain status page
  · simp [scanMap, verdicts, length]
  · intro index inside
    simp [scanMap, verdicts, inside]
  · rw [scanMap, String.toList_ofList]
    exact List.count_map_of_injective _ _ marks_injective true

/-- The PHY of the small memory with the FIFO of the third group where its reads work. -/
def placedPhy : Phy := smallPhy.nextPosition 2 |>.nextPosition 2 |>.nextPosition 2

/-- A scan of the third group prints its window, and leaves the clock where it was. -/
theorem smallRecorder_restores :
    create Phy.bus.recording (Logger.silent.onPart Part.first) smallConfig = .ok smallRecorder ∧
      smallConfig.layout.Separates ∧ smallRecorder.Runnable (runBase false) 2 ∧
      smallRecorder.Houses 2 ∧
      ∃ (moves : List Move) (next : Phy) (tested : List (List UInt32)),
        (smallRecorder.beside String).scan Paper.plain.printer 2 12
            ⟨.initial, (placedPhy, #[]), ""⟩ =
          .ok 6 ⟨.initial, (next, (#[] : Array Access) ++ smallRecorder.accessesOf 2 moves),
            "DQS enable phase scan, group 2:\n000011111100\n"⟩ ∧
        smallRecorder.Scans 2 tested moves := by
  have created : create Phy.bus.recording (Logger.silent.onPart Part.first) smallConfig =
      .ok smallRecorder := rfl
  have separates : smallConfig.layout.Separates := small_roomy.toSeparates
  have three : (2 : UInt32) ≤ 2 := by decide
  have few : smallRecorder.virtualGroups.toNat ≤ 64 := by decide
  have runnable : smallRecorder.Runnable (runBase false) 2 :=
    runnable_of_few separates.toFits three few false
  have houses : smallRecorder.Houses 2 := houses_of_few separates three few
  have drawn : (match (smallRecorder.beside String).scan Paper.plain.printer 2 12
      ⟨.initial, (placedPhy, #[]), ""⟩ with
      | .ok working after => (working, after.device.2)
      | .error _ _ => (0, "")) = (6, "DQS enable phase scan, group 2:\n000011111100\n") := by
    decide +kernel
  obtain ⟨tested, moves, working, map, next, _, _, scans, _, _, _, prints, _⟩ :=
    scan_restores phy_total silent_logs created separates three 12
      (fun _ => ⟨runnable, houses⟩) .initial placedPhy #[]
  have page := prints ""
  rw [page] at drawn
  obtain ⟨rfl, same⟩ := Prod.mk.inj drawn
  refine ⟨created, separates, runnable, houses, moves, next, tested, ?_, scans⟩
  rw [← same]
  exact page

/-- The geometry of a memory with more slots than have room in their window. -/
def crowdedGeometry : Geometry
  | .virtualGroupsPerReadDqs => 684
  | dimension => Geometry.sample dimension

/-- This memory, with the read program at the entry 1. -/
def crowdedConfig (layout : Layout) : Config :=
  { Config.sample with
    layout
    geometry := crowdedGeometry
    programs := fun
      | .readBackToBack => 1
      | program => Programs.sample program }

/-- A bus that keeps what is written to one register, the last value first. Reads give zero. -/
def watchBus (register : UInt32) : Bus (List UInt32) Empty where
  read _ := pure 0
  write address value := modify fun seen => if address = register then value :: seen else seen

/-- The sequencer of the memory, with a register that is watched. -/
def crowdedSequencer (layout : Layout) (register : UInt32) : Sequencer (List UInt32) Empty :=
  ⟨watchBus register, crowdedConfig layout, ⟨0, 0, 0xff, 0xff, 0xff⟩, Logger.silent⟩

/-- What a scan of one step of the third group writes to the register, or the fault that it ends
with. -/
def crowdedScan (layout : Layout) (register : UInt32) : Except Fault (List UInt32) :=
  match (crowdedSequencer layout register).scan none 2 1 ⟨.initial, []⟩ with
  | .ok _ after => .ok after.device
  | .error (.fault fault) _ => .error fault
  | .error (.device error) _ => error.elim

/-- Where a slot of the group is run at the register of a clock, a scan of one step moves this clock
by one. Where one is run at the register of the FIFO it moves a FIFO on, and where one has no
address it does not end well. All three happen though no two managers share a register. -/
theorem crowdedSequencer_disturbs :
    (∀ layout register, create (watchBus register) Logger.silent (crowdedConfig layout) =
      .ok (crowdedSequencer layout register)) ∧
    (Layout.Separates ⟨0x88000, 0x90000, 0x92004⟩ ∧
      crowdedScan ⟨0x88000, 0x90000, 0x92004⟩ 0x92004 = .ok [PllManager.increment]) ∧
    (Layout.Separates ⟨0x92004, 0x90000, 0x58000⟩ ∧
      crowdedScan ⟨0x92004, 0x90000, 0x58000⟩ (0x92004 + PhyManager.incrementVfifo) = .ok [1]) ∧
    (Layout.Separates ⟨0x88000, 0xffffdffc, 0x58000⟩ ∧
      crowdedScan ⟨0x88000, 0xffffdffc, 0x58000⟩ 0 = .error .addOverflow) := by
  have masks : Masks.ofGeometry crowdedGeometry = .ok ⟨0, 0, 0xff, 0xff, 0xff⟩ := rfl
  refine ⟨fun layout register => ?_, ⟨?_, by decide +kernel⟩, ⟨?_, by decide +kernel⟩,
    ?_, by decide +kernel⟩
  · rw [create, crowdedConfig, masks]
    rfl
  · exact ⟨⟨by decide, by decide, by decide⟩, by decide, by decide, by decide⟩
  · exact ⟨⟨by decide, by decide, by decide⟩, by decide, by decide, by decide⟩
  · exact ⟨⟨by decide, by decide, by decide⟩, by decide, by decide, by decide⟩

end Sequencer

end Bringup.Calibration
