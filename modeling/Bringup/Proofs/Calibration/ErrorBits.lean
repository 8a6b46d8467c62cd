import Mathlib.Data.Nat.Bitwise
import Bringup.Proofs.Calibration.Centering
import Bringup.Proofs.Calibration.Divisions
import Bringup.Proofs.Calibration.Handover
import Bringup.Proofs.Calibration.Retrace
/-!
# Which bit says what about a read

A read test reads the virtual groups of a group from the last to the first. Before each it shifts
what it has up by the data lines of a virtual group, and puts the good lines of the next below. So
the bits of the first virtual group end up lowest, and none is lost as long as there are no more
lines than a word has bits. Main statement: `readTest_assembles`.
-/

namespace Bringup.Calibration

/-- A group has `count` virtual groups of `width` data lines each, as many lines as fit a word. -/
structure Geometry.Divided (geometry : Geometry) (count width : Nat) : Prop where
  groups : (geometry .virtualGroupsPerReadDqs).toNat = count
  lines : (geometry .dqPerReadDqs).toNat = count * width
  positive : 1 ≤ count * width
  few : count * width ≤ 32

/-- A bit is set for each line of each virtual group that was read without error, and no other. -/
structure Assembles (count width : Nat) (errors : Nat → UInt32) (bits : UInt32) : Prop where
  lines : ∀ index < count, ∀ line < width,
    bits.toNat.testBit (index * width + line) = !(errors index).toNat.testBit line
  others : ∀ place, count * width ≤ place → bits.toNat.testBit place = false

/-- No line of any virtual group was read with an error. -/
def AllGood (count width : Nat) (errors : Nat → UInt32) : Prop :=
  ∀ index < count, ∀ line < width, (errors index).toNat.testBit line = false

/-- Some line of some virtual group was read without error. -/
def SomeGood (count width : Nat) (errors : Nat → UInt32) : Prop :=
  ∃ index < count, ∃ line < width, (errors index).toNat.testBit line = false

/-- A place among those of a group is that of a line of a virtual group. -/
theorem exists_line {count width place : Nat} (inside : place < count * width) :
    ∃ index < count, ∃ line < width, place = index * width + line := by
  have positive : 0 < width := by
    rcases Nat.eq_zero_or_pos width with rfl | positive
    · rw [Nat.mul_zero] at inside
      exact absurd inside (Nat.not_lt_zero place)
    · exact positive
  have index : place / width < count := (Nat.div_lt_iff_lt_mul positive).2 inside
  exact ⟨place / width, index, place % width, Nat.mod_lt place positive,
    (Nat.div_add_mod' place width).symm⟩

/-- A line of a virtual group has its place among those of the group. -/
theorem place_lt {count width index line : Nat} (inside : index < count) (within : line < width) :
    index * width + line < count * width := by
  have slots : (index + 1) * width ≤ count * width := Nat.mul_le_mul_right width inside
  rw [Nat.add_one_mul] at slots
  omega

namespace Assembles

variable {count width : Nat} {errors : Nat → UInt32} {bits : UInt32}

/-- All bits are set where no line was read with an error. -/
theorem eq_iff (assembled : Assembles count width errors bits) {mask : UInt32}
    (lowest : ∀ place, mask.toNat.testBit place = decide (place < count * width)) :
    bits = mask ↔ AllGood count width errors := by
  constructor
  · rintro rfl index inside line within
    have set := assembled.lines index inside line within
    rw [lowest, decide_eq_true (place_lt inside within)] at set
    simpa using set.symm
  · intro good
    apply UInt32.toNat_inj.1
    apply Nat.eq_of_testBit_eq
    intro place
    rw [lowest]
    by_cases inside : place < count * width
    · obtain ⟨index, below, line, within, rfl⟩ := exists_line inside
      rw [assembled.lines index below line within, good index below line within,
        decide_eq_true inside]
      rfl
    · rw [assembled.others place (Nat.not_lt.1 inside), decide_eq_false inside]

/-- Some bit is set where some line was read without error. -/
theorem ne_zero_iff (assembled : Assembles count width errors bits) :
    bits ≠ 0 ↔ SomeGood count width errors := by
  constructor
  · intro nonzero
    have number : bits.toNat ≠ 0 := fun zero => nonzero (UInt32.toNat_inj.1 zero)
    obtain ⟨place, set⟩ := Nat.exists_testBit_of_ne_zero number
    have inside : place < count * width := by
      by_contra outside
      rw [assembled.others place (Nat.not_lt.1 outside)] at set
      exact Bool.false_ne_true set
    obtain ⟨index, below, line, within, rfl⟩ := exists_line inside
    rw [assembled.lines index below line within] at set
    exact ⟨index, below, line, within, by simpa using set⟩
  · rintro ⟨index, below, line, within, good⟩ rfl
    have clear := assembled.lines index below line within
    have zero : (0 : UInt32).toNat = 0 := rfl
    rw [good, zero, Nat.zero_testBit] at clear
    exact Bool.false_ne_true clear

end Assembles

/-- The complement has the other bits. -/
theorem testBit_complement (word : UInt32) {place : Nat} (inside : place < 32) :
    (~~~word).toNat.testBit place = !word.toNat.testBit place := by
  have bound : word.toNat < 2 ^ 32 := word.toNat_lt
  have complement : (~~~word).toNat = 2 ^ 32 - (word.toNat + 1) := by
    rw [UInt32.toNat_not, UInt32.size]
    omega
  rw [complement, Nat.testBit_two_pow_sub_succ bound, decide_eq_true inside, Bool.true_and]

/-- Of the lowest bits all are set and no other is. -/
theorem testBit_lowBits {count : UInt32} (few : count.toNat ≤ 32) (place : Nat) :
    (lowBits count).toNat.testBit place = decide (place < count.toNat) := by
  rw [Sequencer.toNat_lowBits, Nat.min_eq_left few, Nat.testBit_two_pow_sub_one]

/-- A word shifted up has its bits that much higher, and none below. -/
theorem testBit_shiftOut (word amount : UInt32) {place : Nat} (inside : place < 32) :
    (Sequencer.shiftOut word amount).toNat.testBit place =
      (decide (amount.toNat ≤ place) && word.toNat.testBit (place - amount.toNat)) := by
  have limit : amount < 32 ↔ amount.toNat < 32 := UInt32.lt_iff_toNat_lt
  rw [Sequencer.shiftOut]
  by_cases small : amount < 32
  · have number : amount.toNat % 32 = amount.toNat := Nat.mod_eq_of_lt (limit.1 small)
    rw [if_pos small, UInt32.toNat_shiftLeft, number, Nat.testBit_mod_two_pow,
      Nat.testBit_shiftLeft, decide_eq_true inside, Bool.true_and]
  · have large : ¬amount.toNat < 32 := fun below => small (limit.2 below)
    have above : ¬amount.toNat ≤ place := by omega
    have zero : (0 : UInt32).toNat = 0 := rfl
    rw [if_neg small, zero, Nat.zero_testBit, decide_eq_false above, Bool.false_and]

namespace Sequencer

variable {σ ε : Type} {sequencer : Sequencer σ ε} {count width : Nat}

/-- A sequencer for `count` virtual groups of `width` lines, with the masks for them. -/
structure Sliced (sequencer : Sequencer σ ε) (count width : Nat) : Prop where
  groups : sequencer.virtualGroups.toNat = count
  shift : sequencer.shift.toNat = width
  virtualMask : sequencer.masks.readVirtualGroup = lowBits sequencer.shift
  mask : ∀ place, sequencer.masks.read.toNat.testBit place = decide (place < count * width)
  positive : 1 ≤ count * width
  few : count * width ≤ 32

/-- The mask of a virtual group covers its share of the data lines. -/
theorem virtualMask_eq {geometry : Geometry} {masks : Masks}
    (computed : Masks.ofGeometry geometry = .ok masks) : masks.readVirtualGroup =
      lowBits (geometry .dqPerReadDqs / geometry .virtualGroupsPerReadDqs) := by
  have nonzero := (ofGeometry_eq_ok computed).1
  unfold Masks.ofGeometry at computed
  rw [Word.div32, if_neg nonzero] at computed
  cases perMask : Word.div32 (geometry .dataWidth) (geometry .dataMaskWidth) with
  | error fault =>
    rw [perMask] at computed
    cases computed
  | ok width =>
    rw [perMask] at computed
    cases computed
    rfl

/-- A sequencer that was created for a divided geometry has the masks for it. -/
theorem sliced_of_create {bus : Bus σ ε} {log : Logger σ ε} {config : Config}
    (created : create bus log config = .ok sequencer)
    (divided : config.geometry.Divided count width) : sequencer.Sliced count width := by
  obtain ⟨rfl, masks⟩ := create_eq_ok created
  have mask := (ofGeometry_eq_ok masks).2
  have positive : 0 < count := Nat.pos_of_mul_pos_right divided.positive
  have shifted : sequencer.shift.toNat = width := by
    rw [Sequencer.shift, virtualGroups, UInt32.toNat_div, divided.groups, divided.lines]
    exact Nat.mul_div_cancel_left width positive
  have few : (sequencer.config.geometry .dqPerReadDqs).toNat ≤ 32 := by
    rw [divided.lines]
    exact divided.few
  have lowest (place : Nat) :
      sequencer.masks.read.toNat.testBit place = decide (place < count * width) := by
    rw [mask, testBit_lowBits few, divided.lines]
  exact ⟨divided.groups, shifted, virtualMask_eq masks, lowest, divided.positive, divided.few⟩

/-- The error words in the order in which they are read. -/
def readOrder (errors : Nat → UInt32) (count : Nat) : List UInt32 :=
  (List.range count).reverse.map errors

/-- The last virtual group is read first. -/
theorem readOrder_succ (errors : Nat → UInt32) (count : Nat) :
    readOrder errors (count + 1) = errors count :: readOrder errors count := by
  rw [readOrder, List.range_succ, List.reverse_append, List.reverse_singleton,
    List.singleton_append, List.map_cons, readOrder]

/-- Any words are those of some errors. -/
theorem exists_readOrder {words : List UInt32} (length : words.length = count) :
    ∃ errors, words = readOrder errors count := by
  refine ⟨fun index => words.reverse.getD index 0, ?_⟩
  rw [← length, readOrder, List.map_reverse, eq_comm, List.reverse_eq_iff]
  apply List.ext_getElem
  · rw [List.length_map, List.length_range, List.length_reverse]
  · intro index first second
    rw [List.getElem_map, List.getElem_range, List.getD_eq_getElem _ 0 second]

/-- What reading virtual groups does, one after the other from the last to the first. -/
theorem groupDeeds_readOrder (base group : UInt32) (errors : Nat → UInt32) (count : Nat) :
    sequencer.groupDeeds base group (readOrder errors count) =
      (List.range count).reverse.flatMap fun index =>
        sequencer.slotDeeds base group (UInt32.ofNat index) (errors index) := by
  induction count with
  | zero => rfl
  | succ count ih =>
    have length : (readOrder errors count).length = count := by
      rw [readOrder, List.length_map, List.length_reverse, List.length_range]
    rw [readOrder_succ, groupDeeds, length, ih, List.range_succ, List.reverse_append,
      List.reverse_singleton, List.singleton_append, List.flatMap_cons]

namespace Sliced

/-- There are virtual groups, and no more than a word has bits. -/
theorem groups_le (sliced : sequencer.Sliced count width) : 0 < count ∧ count ≤ 32 := by
  have positive : 0 < width := Nat.pos_of_mul_pos_left sliced.positive
  have most : count ≤ count * width := Nat.le_mul_of_pos_right count positive
  have few := sliced.few
  exact ⟨Nat.pos_of_mul_pos_right sliced.positive, by omega⟩

/-- No virtual group has more lines than a word has bits. -/
theorem width_le (sliced : sequencer.Sliced count width) : width ≤ 32 := by
  have most : width ≤ count * width := Nat.le_mul_of_pos_left width sliced.groups_le.1
  have few := sliced.few
  omega

/-- Another virtual group puts its good lines below those that there are. -/
theorem testBit_addGood (sliced : sequencer.Sliced count width) (good errors : UInt32)
    {place : Nat} (inside : place < 32) :
    (sequencer.addGood good errors).toNat.testBit place =
      if place < width then !errors.toNat.testBit place
      else good.toNat.testBit (place - width) := by
  have few : sequencer.shift.toNat ≤ 32 := by
    rw [sliced.shift]
    exact sliced.width_le
  rw [addGood, sliced.virtualMask, UInt32.toNat_or, Nat.testBit_or, UInt32.toNat_and,
    Nat.testBit_and, testBit_lowBits few, testBit_complement errors inside,
    testBit_shiftOut _ _ inside, sliced.shift]
  by_cases below : place < width
  · have above : ¬width ≤ place := Nat.not_le.2 below
    simp only [below, above, decide_true, decide_false, Bool.false_and, Bool.false_or,
      Bool.true_and, if_true]
  · have above : width ≤ place := Nat.not_lt.1 below
    simp only [below, above, decide_true, decide_false, Bool.false_and, Bool.or_false,
      Bool.true_and, if_false]

/-- What reading on leaves of the good lines: those read now lie below, those read before above. -/
theorem foldl_addGood (sliced : sequencer.Sliced count width) (errors : Nat → UInt32)
    {read : Nat} (few : read * width ≤ 32) (good : UInt32) :
    (∀ index < read, ∀ line < width,
      ((readOrder errors read).foldl sequencer.addGood good).toNat.testBit
        (index * width + line) = !(errors index).toNat.testBit line) ∧
    ∀ place, read * width ≤ place → place < 32 →
      ((readOrder errors read).foldl sequencer.addGood good).toNat.testBit place =
        good.toNat.testBit (place - read * width) := by
  -- on the virtual groups that are still to be read, for whatever was read before them
  induction read generalizing good with
  | zero =>
    refine ⟨fun index inside => absurd inside (Nat.not_lt_zero index), ?_⟩
    intro place _ _
    rw [Nat.zero_mul]
    rfl
  | succ read ih =>
    rw [Nat.add_one_mul] at few
    obtain ⟨below, above⟩ := ih (by omega) (sequencer.addGood good (errors read))
    rw [readOrder_succ, List.foldl_cons, Nat.add_one_mul]
    constructor
    · intro index inside line within
      rcases Nat.lt_succ_iff_lt_or_eq.1 inside with earlier | rfl
      · exact below index earlier line within
      · -- the group read now is moved up past all those that follow it
        have place : index * width + line - index * width = line := Nat.add_sub_cancel_left _ _
        rw [above _ (by omega) (by omega), place, sliced.testBit_addGood _ _ (by omega),
          if_pos within]
    · intro place beyond inside
      have higher : ¬place - read * width < width := by omega
      rw [above place (by omega) inside, sliced.testBit_addGood _ _ (by omega), if_neg higher,
        Nat.sub_sub]

/-- The good bits of a group say of each line whether it was read without error. -/
theorem assembles (sliced : sequencer.Sliced count width) (errors : Nat → UInt32) :
    Assembles count width errors (sequencer.goodBits (readOrder errors count)) := by
  have read := (sliced.foldl_addGood errors sliced.few 0).1
  constructor
  · intro index inside line within
    rw [goodBits, UInt32.toNat_and, Nat.testBit_and, sliced.mask,
      decide_eq_true (place_lt inside within), Bool.true_and, read index inside line within]
  · intro place outside
    rw [goodBits, UInt32.toNat_and, Nat.testBit_and, sliced.mask,
      decide_eq_false (Nat.not_lt.2 outside), Bool.false_and]

/-- A test for all bits passes where every line reads well, and one for any bit where some line
does. -/
theorem passes_iff (sliced : sequencer.Sliced count width) (errors : Nat → UInt32)
    (allCorrect : Bool) : sequencer.passes allCorrect (readOrder errors count) = true ↔
      if allCorrect then AllGood count width errors else SomeGood count width errors := by
  have assembled := sliced.assembles errors
  cases allCorrect with
  | true =>
    rw [passes, if_pos rfl, if_pos rfl, beq_iff_eq]
    exact assembled.eq_iff sliced.mask
  | false =>
    rw [passes, if_neg Bool.false_ne_true, if_neg Bool.false_ne_true, bne_iff_ne]
    exact assembled.ne_zero_iff

end Sliced

/-- How often a test reads can be computed where there is something to read and the number of reads
is one: always for a single group. -/
theorem exists_readRounds_iff (allGroups : Bool) :
    (∃ rounds, sequencer.readRounds allGroups = .ok rounds) ↔ (allGroups = true →
      1 ≤ (sequencer.config.geometry .readDqsWidth).toNat * sequencer.virtualGroups.toNat ∧
      (sequencer.config.geometry .readDqsWidth).toNat * sequencer.virtualGroups.toNat <
        0x100000000) := by
  cases allGroups with
  | false => exact ⟨fun _ all => absurd all Bool.false_ne_true, fun _ => ⟨0, rfl⟩⟩
  | true =>
    have least (total : UInt32) : 1 ≤ total ↔ 1 ≤ total.toNat := UInt32.le_iff_toNat_le
    rw [readRounds, if_pos rfl]
    constructor
    · rintro ⟨rounds, counted⟩ _
      cases product : Word.mul32 (sequencer.config.geometry .readDqsWidth)
          sequencer.virtualGroups with
      | error fault =>
        rw [product] at counted
        cases counted
      | ok total =>
        obtain ⟨rfl, number⟩ := mul32_eq_ok product
        have bound := (sequencer.config.geometry .readDqsWidth * sequencer.virtualGroups).toNat_lt
        rw [product] at counted
        have rest : Word.sub32 (sequencer.config.geometry .readDqsWidth * sequencer.virtualGroups)
          1 = .ok rounds := counted
        rw [Word.sub32] at rest
        split at rest
        · next reads =>
          rw [least, number] at reads
          omega
        · cases rest
    · intro strobes
      obtain ⟨reads, few⟩ := strobes rfl
      have product : (sequencer.config.geometry .readDqsWidth * sequencer.virtualGroups).toNat =
          (sequencer.config.geometry .readDqsWidth).toNat * sequencer.virtualGroups.toNat := by
        rw [UInt32.toNat_mul]
        exact Nat.mod_eq_of_lt few
      rw [← product, ← least] at reads
      rw [mul32_ok few]
      exact ⟨_, if_pos reads⟩

/-- Whenever a read test of one of the first groups ends well, it has run each virtual group once,
from the last to the first, each after resets of the FIFO and the read path of its own, and the
clearing command at last; a bit of its result is set exactly for each line that the word read after
the run of its virtual group calls good, and the verdict is that of these words. On a bus that does
not fail a test for a single group ends well, and one for all groups does so exactly where its
number of reads is at least one and fits a word. -/
theorem readTest_assembles {bus : Bus σ ε} {log : Logger σ ε} {config : Config}
    (created : create bus log config = .ok sequencer)
    (divided : config.geometry.Divided count width) {group : UInt32} (three : group ≤ 2)
    (allCorrect allGroups : Bool) :
    (∀ {before after : Progress σ} {pass : Bool} {bits : UInt32},
      sequencer.readTest group allCorrect allGroups before = .ok (pass, bits) after →
      ∃ (rounds : UInt32) (errors : Nat → UInt32),
        Trace sequencer.Step before.device
          (sequencer.setupDeeds allGroups rounds ++
            ((List.range count).reverse.flatMap fun index =>
              sequencer.slotDeeds (runBase allGroups) group (UInt32.ofNat index) (errors index)) ++
            [sequencer.clearDeed group]) after.device ∧
        Assembles count width errors bits ∧
        (pass = true ↔
          if allCorrect then AllGood count width errors else SomeGood count width errors)) ∧
    (sequencer.Answers → config.layout.Fits → ∀ before,
      (∃ result after, sequencer.readTest group allCorrect allGroups before = .ok result after) ↔
      (allGroups = true → 1 ≤ (config.geometry .readDqsWidth).toNat * count ∧
        (config.geometry .readDqsWidth).toNat * count < 0x100000000)) := by
  have sliced := sliced_of_create created divided
  obtain ⟨rfl, positive⟩ := of_create created
  constructor
  · intro before after pass bits ran
    obtain ⟨rounds, words, _, length, result, trace⟩ := readTest_trace ran
    obtain ⟨errors, rfl⟩ := exists_readOrder (length.trans sliced.groups)
    cases result
    rw [testDeeds, groupDeeds_readOrder] at trace
    exact ⟨rounds, errors, trace, sliced.assembles errors, sliced.passes_iff errors allCorrect⟩
  · intro answers fits before
    rw [← sliced.groups, ← exists_readRounds_iff]
    constructor
    · rintro ⟨result, after, ran⟩
      obtain ⟨rounds, _, counted, _⟩ := readTest_trace ran
      exact ⟨rounds, counted⟩
    · rintro ⟨rounds, counted⟩
      have few : sequencer.virtualGroups.toNat ≤ 64 := by
        have most := sliced.groups_le.2
        rw [sliced.groups]
        omega
      have runnable := runnable_of_few fits three few allGroups
      obtain ⟨words, next, _, does⟩ :=
        readTest_does answers fits three positive allCorrect runnable counted before.device
      exact ⟨_, _, does.runs before.status⟩

/-- Of two virtual groups, the lines 1 and 3 of the first and the line 0 of the second read well:
they are the bits 1, 3 and 4. -/
theorem smallSequencer_assembles :
    create Phy.bus Logger.silent smallConfig = .ok smallSequencer ∧
      smallConfig.geometry.Divided 2 4 ∧ smallConfig.layout.Fits ∧
      (∃ after, smallSequencer.readTest 1 false true
        ⟨.initial, { smallPhy with queued := [0xfffffffe, 0xfffffff5] }⟩ =
          .ok (true, 0x1a) after) ∧
      ∃ errors, Assembles 2 4 errors 0x1a ∧ SomeGood 2 4 errors := by
  have created : create Phy.bus Logger.silent smallConfig = .ok smallSequencer := rfl
  have divided : smallConfig.geometry.Divided 2 4 := ⟨by decide, by decide, by decide, by decide⟩
  have fits : smallConfig.layout.Fits := small_roomy.toSeparates.toFits
  have answers : smallSequencer.Answers :=
    ⟨Phy.read_ok, fun _ _ _ => ⟨_, rfl⟩, fun _ _ => ⟨_, rfl⟩⟩
  have result : (match smallSequencer.readTest 1 false true
      ⟨.initial, { smallPhy with queued := [0xfffffffe, 0xfffffff5] }⟩ with
      | .ok result _ => some result
      | .error _ _ => none) = some (true, 0x1a) := by decide +kernel
  have three : (1 : UInt32) ≤ 2 := by decide
  obtain ⟨reads, ends⟩ := readTest_assembles created divided three false true
  obtain ⟨⟨pass, bits⟩, after, ran⟩ := (ends answers fits ⟨.initial,
    { smallPhy with queued := [0xfffffffe, 0xfffffff5] }⟩).2 (by decide)
  rw [ran] at result
  obtain ⟨rfl, rfl⟩ := Prod.mk.inj (Option.some.inj result)
  obtain ⟨rounds, errors, _, assembled, verdict⟩ := reads ran
  exact ⟨created, divided, fits, ⟨after, ran⟩, errors, assembled, verdict.1 rfl⟩

/-- The sample memory with other numbers of read strobes and of virtual groups. -/
def strobedConfig (strobes virtualGroups : UInt32) : Config :=
  { Config.sample with
    geometry := fun
      | .readDqsWidth => strobes
      | .virtualGroupsPerReadDqs => virtualGroups
      | dimension => Geometry.sample dimension }

/-- The sequencer of this memory, with a record. -/
def strobedRecorder (strobes virtualGroups virtualMask : UInt32) :
    Sequencer (Unit × Array Access) Empty :=
  ⟨idleBus.recording, strobedConfig strobes virtualGroups,
    ⟨virtualMask, virtualMask, 0xff, 0xff, 0xff⟩, Logger.silent⟩

/-- What a test for all groups has written before it counts its reads. -/
def uncountedWrites : Array Access :=
  #[.write 0x90804 0x10, .write 0x90c04 0x61, .write 0x90808 0x10, .write 0x90c08 0x62,
    .write 0x90800 0x06, .write 0x90c00 0x60]

/-- Without a read strobe the number of reads of a test for all groups is zero, and the count of
repetitions, one less, cannot be computed. With as many strobes as there are the number does not fit
a word. Either way the test ends before it has run anything. -/
theorem strobedRecorder_unread :
    (create idleBus.recording Logger.silent (strobedConfig 0 1) =
        .ok (strobedRecorder 0 1 0xff) ∧
      (strobedConfig 0 1).geometry.Divided 1 8 ∧ (strobedConfig 0 1).layout.Separates ∧
      ∃ after, (strobedRecorder 0 1 0xff).readTest 0 true true ⟨.initial, (), #[]⟩ =
          .error (.fault .subtractOverflow) after ∧ after.device.2 = uncountedWrites) ∧
    (create idleBus.recording Logger.silent (strobedConfig 0x80000000 2) =
        .ok (strobedRecorder 0x80000000 2 0xf) ∧
      (strobedConfig 0x80000000 2).geometry.Divided 2 4 ∧
      (strobedConfig 0x80000000 2).layout.Separates ∧
      ∃ after, (strobedRecorder 0x80000000 2 0xf).readTest 0 true true ⟨.initial, (), #[]⟩ =
          .error (.fault .multiplyOverflow) after ∧ after.device.2 = uncountedWrites) :=
  ⟨⟨rfl, ⟨by decide, by decide, by decide, by decide⟩, sample_separates, _, rfl, by decide⟩,
    rfl, ⟨by decide, by decide, by decide, by decide⟩, sample_separates, _, rfl, by decide⟩

end Sequencer

end Bringup.Calibration
