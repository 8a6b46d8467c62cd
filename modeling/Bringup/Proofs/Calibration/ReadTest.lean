import Mathlib.Algebra.Group.Nat.Defs
import Bringup.Calibration.ReadTest
import Bringup.Proofs.Calibration.Accesses
/-!
# What a read test does

A read test loads the loop counters, reads every virtual group from the last to the first, each
after a reset of its own, and ends with the clearing command, whatever the bus answers
(`readTest_does`). Its verdict depends on the error words alone, in the order in which they were
read (`Sequencer.passes`).
-/

namespace Bringup.Calibration.Sequencer

open Procedure (checked device)

variable {σ ε : Type} {sequencer : Sequencer σ ε} {state : σ}

/-- The virtual groups of a group. -/
def virtualGroups (sequencer : Sequencer σ ε) : UInt32 :=
  sequencer.config.geometry .virtualGroupsPerReadDqs

/-- How far the good bits move from one virtual group to the next. -/
def shift (sequencer : Sequencer σ ε) : UInt32 :=
  sequencer.config.geometry .dqPerReadDqs / sequencer.virtualGroups

/-- The slot of a virtual group. -/
def slot (sequencer : Sequencer σ ε) (group index : UInt32) : UInt32 :=
  group * sequencer.virtualGroups + index

/-- The good bits once the errors of another virtual group are known. -/
def addGood (sequencer : Sequencer σ ε) (good errors : UInt32) : UInt32 :=
  shiftOut good sequencer.shift ||| (sequencer.masks.readVirtualGroup &&& ~~~errors)

/-- The good bits of a group, given the error words in the order in which they were read. -/
def goodBits (sequencer : Sequencer σ ε) (words : List UInt32) : UInt32 :=
  sequencer.masks.read &&& words.foldl sequencer.addGood 0

/-- The verdict of a test. -/
def passes (sequencer : Sequencer σ ε) (allCorrect : Bool) (words : List UInt32) : Bool :=
  if allCorrect then sequencer.goodBits words == sequencer.masks.read
  else sequencer.goodBits words != 0

/-- The register at which the slot of a virtual group is run. -/
def runRegister (sequencer : Sequencer σ ε) (base group index : UInt32) : UInt32 :=
  sequencer.config.layout.rwManager + (base + (sequencer.slot group index <<< 2))

/-- Computes the number of a slot. -/
def slot? (sequencer : Sequencer σ ε) (group index : UInt32) : Except Fault UInt32 := do
  let first ← Word.mul32 group sequencer.virtualGroups
  Word.add32 first index

/-- Computes the register at which the slot of a virtual group is run. -/
def runRegister? (sequencer : Sequencer σ ε) (base group index : UInt32) :
    Except Fault UInt32 := do
  let slot ← sequencer.slot? group index
  let offset ← Word.add32 base (slot <<< 2)
  Word.add32 sequencer.config.layout.rwManager offset

/-- What reading a virtual group does. -/
def slotDeeds (sequencer : Sequencer σ ε) (base group index errors : UInt32) : List Deed :=
  [.write (sequencer.config.layout.phyManager + PhyManager.fifoReset) 0,
    .write (sequencer.config.layout.rwManager + RwManager.resetReadDatapath) 0,
    .write (sequencer.runRegister base group index) (sequencer.entry .readBackToBack),
    .read sequencer.config.layout.rwManager errors]

/-- What reading virtual groups down to the first does, given the error words. -/
def groupDeeds (sequencer : Sequencer σ ε) (base group : UInt32) : List UInt32 → List Deed
  | [] => []
  | errors :: rest =>
    sequencer.slotDeeds base group (UInt32.ofNat rest.length) errors ++
      groupDeeds sequencer base group rest

/-- Where the slots are run. -/
def runBase (allGroups : Bool) : UInt32 :=
  if allGroups then RwManager.runAllGroups else RwManager.runSingleGroup

/-- How often a test reads, less one. -/
def readRounds (sequencer : Sequencer σ ε) (allGroups : Bool) : Except Fault UInt32 := do
  if allGroups then
    let total ← Word.mul32 (sequencer.config.geometry .readDqsWidth) sequencer.virtualGroups
    Word.sub32 total 1
  else pure 0

/-- What a test does before it reads. -/
def setupDeeds (sequencer : Sequencer σ ε) (allGroups : Bool) (rounds : UInt32) : List Deed :=
  sequencer.loadDeeds .one 0x10 .readBackToBackWait1 ++
    sequencer.loadDeeds .two 0x10 .readBackToBackWait2 ++
    sequencer.loadDeeds .zero (if allGroups then 0x06 else 0x32) .readBackToBack ++
    sequencer.loadDeeds .three rounds .readBackToBack

/-- What a test does after it has read. -/
def clearDeed (sequencer : Sequencer σ ε) (group : UInt32) : Deed :=
  .write (sequencer.config.layout.rwManager + (RwManager.runSingleGroup + (group <<< 2)))
    (sequencer.entry .clearDqsEnable)

/-- What a test does, given the error words. -/
def testDeeds (sequencer : Sequencer σ ε) (group : UInt32) (allGroups : Bool) (rounds : UInt32)
    (words : List UInt32) : List Deed :=
  sequencer.setupDeeds allGroups rounds ++ sequencer.groupDeeds (runBase allGroups) group words ++
    [sequencer.clearDeed group]

/-- A sequencer whose slots lie inside the windows in which they are run. -/
structure Slotted (sequencer : Sequencer σ ε) : Prop where
  fits : sequencer.config.layout.Fits
  divided : sequencer.virtualGroups ≠ 0
  few : sequencer.virtualGroups.toNat ≤ 64

/-- All slots of a group can be run behind a base: their registers have addresses. -/
def Runnable (sequencer : Sequencer σ ε) (base group : UInt32) : Prop :=
  ∀ index : UInt32, index.toNat < sequencer.virtualGroups.toNat →
    ∃ address, sequencer.runRegister? base group index = .ok address

/-- The group is one of the first three, and every slot of its virtual groups has an address. -/
structure Reaches (sequencer : Sequencer σ ε) (group : UInt32) : Prop where
  three : group ≤ 2
  fits : sequencer.config.layout.Fits
  slots : sequencer.Runnable (runBase false) group

/-- A sequencer that was created for a configuration keeps it, and its masks are those of the
geometry. -/
theorem create_eq_ok {bus : Bus σ ε} {log : Logger σ ε} {config : Config}
    (created : create bus log config = .ok sequencer) :
    sequencer.config = config ∧ Masks.ofGeometry config.geometry = .ok sequencer.masks := by
  unfold create at created
  cases masks : Masks.ofGeometry config.geometry with
  | error fault =>
    rw [masks] at created
    cases created
  | ok masks =>
    rw [masks] at created
    cases created
    exact ⟨rfl, rfl⟩

/-- A geometry that has masks has virtual groups, and the mask of a group covers its data lines. -/
theorem ofGeometry_eq_ok {geometry : Geometry} {masks : Masks}
    (computed : Masks.ofGeometry geometry = .ok masks) :
    geometry .virtualGroupsPerReadDqs ≠ 0 ∧ masks.read = lowBits (geometry .dqPerReadDqs) := by
  unfold Masks.ofGeometry at computed
  by_cases zero : geometry .virtualGroupsPerReadDqs = 0
  · rw [Word.div32, if_pos zero] at computed
    cases computed
  · rw [Word.div32, if_neg zero] at computed
    cases mask : Word.div32 (geometry .dataWidth) (geometry .dataMaskWidth) with
    | error fault =>
      rw [mask] at computed
      cases computed
    | ok perMask =>
      rw [mask] at computed
      cases computed
      exact ⟨zero, rfl⟩

/-- A sequencer that was created for a configuration keeps it and has virtual groups. -/
theorem of_create {bus : Bus σ ε} {log : Logger σ ε} {config : Config}
    (created : create bus log config = .ok sequencer) :
    sequencer.config = config ∧ sequencer.virtualGroups ≠ 0 := by
  obtain ⟨rfl, masks⟩ := create_eq_ok created
  exact ⟨rfl, (ofGeometry_eq_ok masks).1⟩

/-- The lowest bits are as many as are asked for, and no more than a word has. -/
theorem toNat_lowBits (count : UInt32) : (lowBits count).toNat = 2 ^ min count.toNat 32 - 1 := by
  have limit : 32 ≤ count ↔ 32 ≤ count.toNat := UInt32.le_iff_toNat_le
  rw [lowBits]
  by_cases all : 32 ≤ count
  · rw [if_pos all, Nat.min_eq_right (limit.1 all)]
    rfl
  · have small : count.toNat < 32 := Nat.lt_of_not_le fun large => all (limit.2 large)
    have power : ((1 : UInt32) <<< count).toNat = 2 ^ count.toNat := by
      rw [UInt32.toNat_shiftLeft]
      show 1 <<< (count.toNat % 32) % 2 ^ 32 = _
      rw [Nat.mod_eq_of_lt small, Nat.one_shiftLeft]
      exact Nat.mod_eq_of_lt (Nat.pow_lt_pow_right (by decide) small)
    have one : (1 : UInt32).toNat = 1 := rfl
    have least : 1 ≤ (1 : UInt32) <<< count := by
      rw [UInt32.le_iff_toNat_le, power]
      exact Nat.one_le_two_pow
    have width : min count.toNat 32 = count.toNat := Nat.min_eq_left (Nat.le_of_lt small)
    rw [if_neg all, width, UInt32.toNat_sub_of_le _ _ least, power, one]

/-- The offset at which a slot with an address is run. -/
theorem toNat_runOffset (allGroups : Bool) {slot : UInt32}
    (bound : 0x400 + 4 * slot.toNat < 0x100000000) :
    (runBase allGroups + (slot <<< 2)).toNat = (runBase allGroups).toNat + 4 * slot.toNat ∧
      (slot <<< 2).toNat = 4 * slot.toNat ∧ (runBase allGroups).toNat ≤ 0x400 := by
  have base : (runBase allGroups).toNat ≤ 0x400 := by cases allGroups <;> decide
  have scaled : (slot <<< 2).toNat = 4 * slot.toNat := toNat_fourfold (by omega)
  rw [UInt32.toNat_add]
  omega

section Slots

variable {base group index : UInt32}

/-- The number of a slot, where it can be computed. -/
theorem slot?_eq_ok {number : UInt32} (computed : sequencer.slot? group index = .ok number) :
    number = sequencer.slot group index := by
  rw [slot?] at computed
  cases product : Word.mul32 group sequencer.virtualGroups with
  | error fault =>
    rw [product] at computed
    cases computed
  | ok first =>
    rw [product] at computed
    rw [(add32_eq_ok computed).1, (mul32_eq_ok product).1, slot]

/-- Where a slot can be run, every step to its register can be computed. -/
theorem Runnable.computed (runnable : sequencer.Runnable base group)
    (inside : index.toNat < sequencer.virtualGroups.toNat) :
    sequencer.slot? group index = .ok (sequencer.slot group index) ∧
      Word.add32 base (sequencer.slot group index <<< 2) =
        .ok (base + (sequencer.slot group index <<< 2)) ∧
      Word.add32 sequencer.config.layout.rwManager (base + (sequencer.slot group index <<< 2)) =
        .ok (sequencer.runRegister base group index) := by
  obtain ⟨address, computed⟩ := runnable index inside
  rw [runRegister?] at computed
  cases number : sequencer.slot? group index with
  | error fault =>
    rw [number] at computed
    cases computed
  | ok slot =>
    obtain rfl := slot?_eq_ok number
    rw [number] at computed
    cases offset : Word.add32 base (sequencer.slot group index <<< 2) with
    | error fault =>
      simp only [bind, Except.bind, offset] at computed
      cases computed
    | ok place =>
      obtain ⟨rfl, _⟩ := add32_eq_ok offset
      simp only [bind, Except.bind, offset] at computed
      obtain ⟨rfl, _⟩ := add32_eq_ok computed
      exact ⟨rfl, rfl, computed⟩

/-- Slots inside their window can be run, and their registers follow one another. -/
theorem runRegister?_of_few (fits : sequencer.config.layout.Fits) (three : group ≤ 2)
    (few : sequencer.virtualGroups.toNat ≤ 64)
    (inside : index.toNat < sequencer.virtualGroups.toNat) (allGroups : Bool) :
    sequencer.runRegister? (runBase allGroups) group index =
        .ok (sequencer.runRegister (runBase allGroups) group index) ∧
      (sequencer.runRegister (runBase allGroups) group index).toNat =
        sequencer.config.layout.rwManager.toNat + (runBase allGroups).toNat +
          4 * (group.toNat * sequencer.virtualGroups.toNat + index.toNat) ∧
      group.toNat * sequencer.virtualGroups.toNat + index.toNat < 192 := by
  have groups : group.toNat ≤ 2 := UInt32.le_iff_toNat_le.1 three
  have product : group.toNat * sequencer.virtualGroups.toNat ≤ 2 * 64 :=
    Nat.mul_le_mul groups few
  have ends := fits.rw
  rw [RwManager.window] at ends
  have first : (group * sequencer.virtualGroups).toNat =
      group.toNat * sequencer.virtualGroups.toNat := by
    rw [UInt32.toNat_mul]
    omega
  have number : (sequencer.slot group index).toNat =
      group.toNat * sequencer.virtualGroups.toNat + index.toNat := by
    rw [slot, UInt32.toNat_add]
    omega
  have slotted : sequencer.slot? group index = .ok (sequencer.slot group index) := by
    rw [slot?, mul32_ok (by omega)]
    exact add32_ok (by omega)
  obtain ⟨offset, scaled, base⟩ := toNat_runOffset allGroups
    (show 0x400 + 4 * (sequencer.slot group index).toNat < _ by omega)
  have place : (sequencer.runRegister (runBase allGroups) group index).toNat =
      sequencer.config.layout.rwManager.toNat +
        (runBase allGroups + (sequencer.slot group index <<< 2)).toNat := by
    rw [runRegister, UInt32.toNat_add]
    omega
  refine ⟨?_, by omega, by omega⟩
  rw [runRegister?, slotted]
  simp only [bind, Except.bind]
  rw [add32_ok (by omega)]
  exact add32_ok (by omega)

/-- Slots inside their window can be run. -/
theorem runnable_of_few (fits : sequencer.config.layout.Fits) (three : group ≤ 2)
    (few : sequencer.virtualGroups.toNat ≤ 64) (allGroups : Bool) :
    sequencer.Runnable (runBase allGroups) group := fun _ inside =>
  ⟨_, (runRegister?_of_few fits three few inside allGroups).1⟩

/-- Slots inside their window have addresses. -/
theorem Reaches.of_few (fits : sequencer.config.layout.Fits) (three : group ≤ 2)
    (few : sequencer.virtualGroups.toNat ≤ 64) : sequencer.Reaches group :=
  ⟨three, fits, runnable_of_few fits three few false⟩

end Slots

/-- The clearing command for a group is a register of the read-write manager. -/
theorem clear_lt {group : UInt32} (three : group ≤ 2) :
    (RwManager.runSingleGroup + (group <<< 2)).toNat < RwManager.window := by
  have groups : group.toNat ≤ 2 := UInt32.le_iff_toNat_le.1 three
  obtain ⟨offset, _⟩ := toNat_runOffset false (show 0x400 + 4 * group.toNat < _ by omega)
  have base : (runBase false).toNat = 0 := by decide
  show (runBase false + (group <<< 2)).toNat < 0x2004
  omega

section Tests

variable (answers : sequencer.Answers) (fits : sequencer.config.layout.Fits) {group base : UInt32}

include answers fits

section Slots

variable (runnable : sequencer.Runnable base group)

include runnable

/-- Reading a virtual group resets the read path, runs its slot and reads the error word. -/
theorem readVirtualGroup_does (index : UInt32)
    (inside : index.toNat < sequencer.virtualGroups.toNat) (good : UInt32) (state : σ) :
    ∃ errors next, sequencer.Does
      (sequencer.readVirtualGroup base group sequencer.shift good index) state
      (sequencer.addGood good errors) (sequencer.slotDeeds base group index errors) next := by
  obtain ⟨number, offset, place⟩ := runnable.computed inside
  obtain ⟨afterFifo, fifo⟩ := writePhy_does answers fits PhyManager.fifoReset 0 (by decide) state
  obtain ⟨afterPath, path⟩ :=
    writeRw_does answers fits RwManager.resetReadDatapath 0 (by decide) afterFifo
  obtain ⟨ran, runs⟩ :=
    writeRw_does_of_ok answers place (sequencer.entry .readBackToBack) afterPath
  obtain ⟨errors, next, reads⟩ := sequencer.read_does answers sequencer.config.layout.rwManager ran
  refine ⟨errors, next, ?_⟩
  exact fifo.bind (path.bind (.compute number
    (.compute offset (runs.bind (reads.bind (.pure _ next))))))

/-- Reading virtual groups reads each once, from the last to the first. -/
theorem readVirtualGroups_does {count : Nat} (enough : count ≤ sequencer.virtualGroups.toNat)
    (good : UInt32) (state : σ) :
    ∃ (words : List UInt32) (next : σ), words.length = count ∧ sequencer.Does
      (sequencer.readVirtualGroups base group sequencer.shift count good) state
      (words.foldl sequencer.addGood good) (sequencer.groupDeeds base group words) next := by
  induction count generalizing good state with
  | zero => exact ⟨[], state, rfl, .pure good state⟩
  | succ count ih =>
    have most := sequencer.virtualGroups.toNat_lt
    have index : (UInt32.ofNat count).toNat = count :=
      UInt32.toNat_ofNat_of_lt' (by rw [UInt32.size]; omega)
    obtain ⟨errors, middle, first⟩ := readVirtualGroup_does answers fits runnable
      (UInt32.ofNat count) (by omega) good state
    obtain ⟨words, next, length, others⟩ := ih (by omega) (sequencer.addGood good errors) middle
    refine ⟨errors :: words, next, by rw [List.length_cons, length], ?_⟩
    rw [groupDeeds, length]
    exact first.bind others

end Slots

/-- A test does its deeds for as many error words as there are virtual groups, and its verdict and
the good bits are those of these words. -/
theorem readTest_does (three : group ≤ 2) (divided : sequencer.virtualGroups ≠ 0)
    (allCorrect : Bool) {allGroups : Bool}
    (runnable : sequencer.Runnable (runBase allGroups) group) {rounds : UInt32}
    (counted : sequencer.readRounds allGroups = .ok rounds) (state : σ) :
    ∃ (words : List UInt32) (next : σ), words.length = sequencer.virtualGroups.toNat ∧
      sequencer.Does (sequencer.readTest group allCorrect allGroups) state
        (sequencer.passes allCorrect words, sequencer.goodBits words)
        (sequencer.testDeeds group allGroups rounds words) next := by
  have shifted : Word.div32 (sequencer.config.geometry .dqPerReadDqs) sequencer.virtualGroups =
      .ok sequencer.shift := if_neg divided
  obtain ⟨first, wait1⟩ := load_does answers fits .one 0x10 .readBackToBackWait1 state
  obtain ⟨second, wait2⟩ := load_does answers fits .two 0x10 .readBackToBackWait2 first
  obtain ⟨third, burst⟩ :=
    load_does answers fits .zero (if allGroups then 0x06 else 0x32) .readBackToBack second
  obtain ⟨ready, repeats⟩ := load_does answers fits .three rounds .readBackToBack third
  obtain ⟨words, read, length, reads⟩ :=
    readVirtualGroups_does answers fits runnable (Nat.le_refl _) 0 ready
  obtain ⟨next, clears⟩ := writeRw_does answers fits _ (sequencer.entry .clearDqsEnable)
    (clear_lt three) read
  refine ⟨words, next, length, ?_⟩
  unfold testDeeds setupDeeds
  simp only [List.append_assoc]
  exact .compute shifted (wait1.bind (wait2.bind (burst.bind (.compute counted
    (repeats.bind (reads.bind (clears.bind (.pure _ next))))))))

end Tests

end Bringup.Calibration.Sequencer
