import Bringup.Calibration.Phy
import Bringup.Proofs.Calibration.Tuning
/-!
# The simulated PHY can be tuned

The simulated PHY keeps the position of each FIFO and the phase of each clock, and looks the errors
of a run up in its bands. So it stands at an operating point of a group, and the errors are those of
the bands there (`Phy.tunes`).
-/

namespace Bringup.Calibration.Phy

variable {config : Config} {group : UInt32} {bands : List Band} {default : UInt32} {phy : Phy}
  {position : Position} {phase : Int} {ε : Type}

/-- The phase registers that the simulated PHY has room for. -/
def pllRoom : Nat := 0x100

/-- The register of the clock that captures a group. -/
def captureRegister (config : Config) (group : UInt32) : Nat :=
  config.layout.pllManager.toNat + 4 * (captureClock group).toNat

/-- The simulated PHY of a memory stands at an operating point of a group. -/
structure Stands (config : Config) (group : UInt32) (bands : List Band) (default : UInt32)
    (phy : Phy) (position : Position) (phase : Int) : Prop where
  layout : phy.layout = config.layout
  readProgram : phy.readProgram = config.programs .readBackToBack
  virtualGroups : phy.virtualGroups = (config.geometry .virtualGroupsPerReadDqs).toNat
  bands : phy.bands = bands
  defaultErrors : phy.defaultErrors = default
  queued : phy.queued = []
  position : phy.positions.getD group.toNat 0 = position.val
  phase : phy.phases.getD (captureRegister config group) 0 = phase

/-- The registers of the simulated PHY are apart from each other. -/
structure Roomy (layout : Layout) : Prop extends layout.Separates where
  phyRoom : Apart layout.phyManager.toNat PhyManager.window layout.pllManager.toNat pllRoom
  rwRoom : Apart layout.rwManager.toNat RwManager.window layout.pllManager.toNat pllRoom

/-- No read of the simulated PHY fails. -/
theorem read_ok (address : UInt32) (phy : Phy) :
    ∃ value next, (bus : Bus Phy ε).read address phy = .ok value next := by
  simp only [bus]
  split
  · split <;> exact ⟨_, _, rfl⟩
  · split <;> exact ⟨_, _, rfl⟩

/-- A step of another clock leaves the operating point. -/
theorem Stands.stepClock (stood : Stands config group bands default phy position phase)
    {register : Nat} (other : register ≠ captureRegister config group) (command : UInt32) :
    Stands config group bands default (phy.stepClock register command) position phase := by
  refine { stood with phase := ?_ }
  rw [Phy.stepClock, Std.TreeMap.getD_insert, if_neg]
  · exact stood.phase
  · rw [Std.LawfulEqCmp.compare_eq_iff_eq]
    exact other

/-- A step of the clock that captures the group changes the phase. -/
theorem Stands.stepCapture (stood : Stands config group bands default phy position phase)
    (command : UInt32) :
    Stands config group bands default (phy.stepClock (captureRegister config group) command)
      position (if command = 1 then phase + 1 else phase - 1) := by
  refine { stood with phase := ?_ }
  rw [Phy.stepClock, Std.TreeMap.getD_insert_self, stood.phase]

/-- A step of the group's FIFO changes the position. -/
theorem Stands.nextPosition (stood : Stands config group bands default phy position phase) :
    Stands config group bands default (phy.nextPosition group.toNat) (position + 1) phase := by
  refine { stood with position := ?_ }
  rw [Phy.nextPosition, Std.TreeMap.getD_insert_self, stood.position, Fin.val_add]
  rfl

/-- A run finds the errors of its slot in the bands. -/
theorem Stands.errorsOf (stood : Stands config group bands default phy position phase)
    {index : Nat} (inside : index < (config.geometry .virtualGroupsPerReadDqs).toNat) :
    phy.errorsOf (group.toNat * (config.geometry .virtualGroupsPerReadDqs).toNat + index) =
      Band.errorsAt bands default
        (group.toNat * (config.geometry .virtualGroupsPerReadDqs).toNat + index) position.val
        phase := by
  have groups : max phy.virtualGroups 1 = (config.geometry .virtualGroupsPerReadDqs).toNat := by
    rw [stood.virtualGroups]
    omega
  have number : (group.toNat * (config.geometry .virtualGroupsPerReadDqs).toNat + index) /
      (config.geometry .virtualGroupsPerReadDqs).toNat = group.toNat := by
    rw [Nat.mul_comm, Nat.mul_add_div (by omega), Nat.div_eq_of_lt inside, Nat.add_zero]
  have clock : (if group.toNat = 2 then 1 else group.toNat) = (captureClock group).toNat := by
    rw [captureClock]
    by_cases last : group = 2
    · rw [if_pos last, if_pos (by rw [last]; rfl)]
      rfl
    · have other : group.toNat ≠ 2 := fun same => last (UInt32.toNat_inj.1 same)
      rw [if_neg last, if_neg other]
  have register : phy.clockRegister (captureClock group).toNat = captureRegister config group := by
    rw [Phy.clockRegister, stood.layout, captureRegister]
  simp only [Phy.errorsOf, groups, number, clock, register]
  rw [stood.bands, stood.defaultErrors, stood.position, stood.phase]

/-- A read gives what the last run left. -/
theorem Stands.read (stood : Stands config group bands default phy position phase) :
    (bus : Bus Phy ε).read config.layout.rwManager phy = .ok phy.errors phy := by
  have here : config.layout.rwManager = phy.layout.rwManager := by rw [stood.layout]
  simp only [bus]
  rw [if_pos here, stood.queued]

/-- A write to the register of the capture clock steps it. -/
theorem Stands.afterWrite_capture (stood : Stands config group bands default phy position phase)
    (three : group ≤ 2) {address : UInt32}
    (there : address.toNat = captureRegister config group) (command : UInt32) :
    Stands config group bands default (phy.afterWrite address command) position
      (if command = 1 then phase + 1 else phase - 1) := by
  have clock := Sequencer.captureClock_le three
  have inside : phy.layout.pllManager.toNat ≤ address.toNat ∧
      address.toNat < phy.layout.pllManager.toNat + 0x100 := by
    rw [stood.layout, there, captureRegister]
    omega
  simp only [Phy.afterWrite]
  rw [if_pos inside, there]
  exact stood.stepCapture command

/-- Where a slot inside the window is run. -/
theorem toNat_slotRegister {layout : Layout} (fits : layout.Fits) {slot : Nat}
    (small : slot < 192) :
    (layout.rwManager + (UInt32.ofNat slot <<< 2)).toNat = layout.rwManager.toNat + 4 * slot := by
  have ends := fits.rw
  rw [RwManager.window] at ends
  have number : (UInt32.ofNat slot).toNat = slot :=
    UInt32.toNat_ofNat_of_lt' (by rw [UInt32.size]; omega)
  have scaled := Sequencer.toNat_fourfold (show 4 * (UInt32.ofNat slot).toNat < _ by omega)
  rw [UInt32.toNat_add]
  omega

variable (roomy : Roomy config.layout)

include roomy

/-- A write to the FIFO register steps the FIFO of the group that is written. -/
theorem Stands.afterWrite_fifo (stood : Stands config group bands default phy position phase)
    {address : UInt32} (there : address.toNat =
      config.layout.phyManager.toNat + PhyManager.incrementVfifo.toNat) (value : UInt32) :
    phy.afterWrite address value = phy.nextPosition value.toNat := by
  have room := roomy.phyRoom
  simp only [Apart, PhyManager.window, pllRoom] at room
  have advance := PhyManager.toNat_incrementVfifo
  have outside : ¬ (phy.layout.pllManager.toNat ≤ address.toNat ∧
      address.toNat < phy.layout.pllManager.toNat + 0x100) := by
    rw [stood.layout, there]
    omega
  have fifo : address.toNat =
      phy.layout.phyManager.toNat + PhyManager.incrementVfifo.toNat := by
    rw [stood.layout, there]
  simp only [Phy.afterWrite, if_neg outside, if_pos fifo]

/-- A write of the read program to a slot runs it. -/
theorem Stands.afterWrite_run (stood : Stands config group bands default phy position phase)
    {address : UInt32} {slot : Nat} (small : slot < 192)
    (there : address.toNat = config.layout.rwManager.toNat + 4 * slot) :
    phy.afterWrite address (config.programs .readBackToBack) =
      { phy with errors := phy.errorsOf slot } := by
  have room := roomy.rwRoom
  have apart := roomy.phyRw
  simp only [Apart, PhyManager.window, RwManager.window, pllRoom] at room apart
  have advance := PhyManager.toNat_incrementVfifo
  have outside : ¬ (phy.layout.pllManager.toNat ≤ address.toNat ∧
      address.toNat < phy.layout.pllManager.toNat + 0x100) := by
    rw [stood.layout, there]
    omega
  have other : ¬ address.toNat =
      phy.layout.phyManager.toNat + PhyManager.incrementVfifo.toNat := by
    rw [stood.layout, there]
    omega
  have run : phy.layout.rwManager.toNat ≤ address.toNat ∧
      address.toNat < phy.layout.rwManager.toNat + 0x800 ∧
      config.programs .readBackToBack = phy.readProgram := by
    rw [stood.layout, stood.readProgram, there]
    refine ⟨?_, ?_, rfl⟩ <;> omega
  have number : (address.toNat - phy.layout.rwManager.toNat) % 0x400 / 4 = slot := by
    rw [stood.layout, there]
    omega
  simp only [Phy.afterWrite, if_neg outside, if_neg other, if_pos run, number]

omit roomy in
/-- A write to any other register leaves the operating point. -/
theorem Stands.afterWrite_other (stood : Stands config group bands default phy position phase)
    {address : UInt32} (other : address.toNat ≠ captureRegister config group)
    (fifo : address.toNat ≠ config.layout.phyManager.toNat + PhyManager.incrementVfifo.toNat)
    (value : UInt32) :
    Stands config group bands default (phy.afterWrite address value) position phase := by
  rw [← stood.layout] at fifo
  simp only [Phy.afterWrite]
  split
  · exact stood.stepClock other value
  · split
    · exact { stood with }
    · exact stood

/-- The simulated PHY can be tuned, and the errors are those of its bands. -/
theorem tunes (three : group ≤ 2)
    (few : (config.geometry .virtualGroupsPerReadDqs).toNat ≤ 64) :
    Tunes (bus : Bus Phy ε) config group
      (fun slot position phase => Band.errorsAt bands default slot position.val phase)
      (Stands config group bands default) where
  up := by
    intro phy next position phase stood address there write
    cases write
    exact stood.afterWrite_capture three there PllManager.increment
  down := by
    intro phy next position phase stood address there write
    cases write
    exact stood.afterWrite_capture three there PllManager.decrement
  advance := by
    intro phy next position phase stood address there write
    cases write
    show Stands config group bands default (phy.afterWrite address group) (position + 1) phase
    rw [stood.afterWrite_fifo roomy there]
    exact stood.nextPosition
  run := by
    intro phy ran next position phase stood slot index address word inside number there write read
    have groups : group.toNat ≤ 2 := UInt32.le_iff_toNat_le.1 three
    have product := Nat.mul_le_mul groups few
    have small : slot < 192 := by omega
    have there := there ▸ toNat_slotRegister roomy.toFits small
    have running : { phy with errors := phy.errorsOf slot } = ran := by
      rw [← stood.afterWrite_run roomy small there]
      exact (EStateM.Result.ok.inj write).2
    subst running
    have kept : Stands config group bands default { phy with errors := phy.errorsOf slot } position
      phase := { stood with }
    rw [kept.read] at read
    cases read
    subst number
    exact ⟨stood.errorsOf inside, kept⟩
  other := by
    intro phy next position phase stood address value other fifo write
    cases write
    exact stood.afterWrite_other other fifo value

end Bringup.Calibration.Phy
