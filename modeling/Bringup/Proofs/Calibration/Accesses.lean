import Bringup.Calibration.Sequencer
import Bringup.Proofs.Action
import Bringup.Proofs.Trace
/-!
# What a sequencer does

A sequencer acts on the outside by reading and writing registers and by logging. Over a bus and a
log that do not fail, a procedure that does not touch the status takes the device along a run of
such deeds (`Sequencer.Does`). The deeds of a procedure are those of its parts in order, so what
a procedure does is found along its text; which answers the bus gives stays open.
-/

namespace Bringup.Calibration

/-- One thing that a sequencer does. -/
inductive Deed where
  | read (address value : UInt32)
  | write (address value : UInt32)
  | log (record : LogRecord)
  deriving DecidableEq

/-- The bytes that the registers of the PHY manager take. -/
def PhyManager.window : Nat := 0x401c

/-- The bytes that the registers of the read-write manager take. -/
def RwManager.window : Nat := 0x2004

/-- The bytes that the registers of the two capture clocks take. -/
def PllManager.window : Nat := 8

/-- No register has an address past 32 bits. -/
structure Layout.Fits (layout : Layout) : Prop where
  phy : layout.phyManager.toNat + PhyManager.window ≤ 0x100000000
  rw : layout.rwManager.toNat + RwManager.window ≤ 0x100000000
  pll : layout.pllManager.toNat + PllManager.window ≤ 0x100000000

/-- The register that moves a FIFO on is the second of the PHY manager. -/
theorem PhyManager.toNat_incrementVfifo : PhyManager.incrementVfifo.toNat = 4 := by decide

/-- Of two windows one ends before the other begins. -/
def Apart (first firstSize second secondSize : Nat) : Prop :=
  first + firstSize ≤ second ∨ second + secondSize ≤ first

instance (first firstSize second secondSize : Nat) :
    Decidable (Apart first firstSize second secondSize) :=
  inferInstanceAs (Decidable (_ ∨ _))

/-- Every register has an address of its own. -/
structure Layout.Separates (layout : Layout) : Prop extends layout.Fits where
  phyRw : Apart layout.phyManager.toNat PhyManager.window layout.rwManager.toNat RwManager.window
  phyPll : Apart layout.phyManager.toNat PhyManager.window layout.pllManager.toNat PllManager.window
  rwPll : Apart layout.rwManager.toNat RwManager.window layout.pllManager.toNat PllManager.window

namespace Sequencer

open Procedure (checked device)

variable {σ ε α β : Type} {sequencer : Sequencer σ ε} {state middle last : σ}

/-- The device goes on to a next state when something is done to it. -/
def Step (sequencer : Sequencer σ ε) (state : σ) (deed : Deed) (next : σ) : Prop :=
  match deed with
  | .read address value => sequencer.bus.read address state = .ok value next
  | .write address value => sequencer.bus.write address value state = .ok () next
  | .log record => sequencer.log record state = .ok () next

/-- Whatever is done to the device succeeds. -/
structure Answers (sequencer : Sequencer σ ε) : Prop where
  read : ∀ address state, ∃ value next, sequencer.bus.read address state = .ok value next
  write : ∀ address value state, ∃ next, sequencer.bus.write address value state = .ok () next
  log : ∀ record state, ∃ next, sequencer.log record state = .ok () next

/-- In every status the procedure succeeds, leaves the status as it is, and does these deeds. -/
structure Does (sequencer : Sequencer σ ε) (procedure : Procedure σ ε α) (state : σ) (value : α)
    (deeds : List Deed) (next : σ) : Prop where
  runs : ∀ status, procedure ⟨status, state⟩ = .ok value ⟨status, next⟩
  trace : Trace sequencer.Step state deeds next

namespace Does

/-- A value alone does nothing. -/
theorem pure (value : α) (state : σ) :
    sequencer.Does (Pure.pure value) state value [] state where
  runs _ := rfl
  trace := .done state

/-- Procedures in sequence do what each does, in order. -/
theorem bind {procedure : Procedure σ ε α} {rest : α → Procedure σ ε β} {value : α} {other : β}
    {before after : List Deed} (first : sequencer.Does procedure state value before middle)
    (second : sequencer.Does (rest value) middle other after last) :
    sequencer.Does (procedure >>= rest) state other (before ++ after) last where
  runs status := (Action.bind_ok (first.runs status) rest).trans (second.runs status)
  trace := first.trace.append second.trace

/-- A computation that succeeds does nothing. -/
theorem compute {result : Except Fault α} {value : α} (computed : result = .ok value)
    {rest : α → Procedure σ ε β} {other : β} {deeds : List Deed}
    (does : sequencer.Does (rest value) state other deeds last) :
    sequencer.Does (checked result >>= rest) state other deeds last := by
  subst computed
  exact ⟨does.runs, does.trace⟩

/-- A function of the value changes nothing about what is done. -/
theorem map {procedure : Procedure σ ε α} {value : α} {deeds : List Deed}
    (does : sequencer.Does procedure state value deeds last) (change : α → β) :
    sequencer.Does (change <$> procedure) state (change value) deeds last where
  runs status := Action.map_ok (does.runs status) change
  trace := does.trace

/-- An action on the device that is one step of it. -/
theorem device {action : EStateM ε σ α} {value : α} {deed : Deed}
    (runs : action state = .ok value last) (step : sequencer.Step state deed last) :
    sequencer.Does (Procedure.device action) state value [deed] last where
  runs status := by rw [Procedure.device, runs]
  trace := .single step

end Does

/-- A sum of words that is one can be computed. -/
theorem add32_ok {a b : UInt32} (bound : a.toNat + b.toNat < 0x100000000) :
    Word.add32 a b = .ok (a + b) :=
  if_pos bound

/-- A product of words that is one can be computed. -/
theorem mul32_ok {a b : UInt32} (bound : a.toNat * b.toNat < 0x100000000) :
    Word.mul32 a b = .ok (a * b) :=
  if_pos bound

/-- A sum that can be computed is the sum of the words and of the numbers. -/
theorem add32_eq_ok {a b c : UInt32} (computed : Word.add32 a b = .ok c) :
    c = a + b ∧ (a + b).toNat = a.toNat + b.toNat := by
  have number := Word.toNat_of_add32 computed
  have bound := c.toNat_lt
  have same : (a + b).toNat = a.toNat + b.toNat := by
    rw [UInt32.toNat_add]
    omega
  exact ⟨UInt32.toNat_inj.1 (number.trans same.symm), same⟩

/-- A product that can be computed is the product of the words and of the numbers. -/
theorem mul32_eq_ok {a b c : UInt32} (computed : Word.mul32 a b = .ok c) :
    c = a * b ∧ (a * b).toNat = a.toNat * b.toNat := by
  have number := Word.toNat_of_mul32 computed
  have bound := c.toNat_lt
  have same : (a * b).toNat = a.toNat * b.toNat := by
    rw [UInt32.toNat_mul]
    omega
  exact ⟨UInt32.toNat_inj.1 (number.trans same.symm), same⟩

/-- A word that is moved up by two places is four times as large. -/
theorem toNat_fourfold {word : UInt32} (bound : 4 * word.toNat < 0x100000000) :
    (word <<< 2).toNat = 4 * word.toNat := by
  rw [UInt32.toNat_shiftLeft]
  show word.toNat <<< 2 % 2 ^ 32 = _
  rw [Nat.shiftLeft_eq]
  omega

/-- Writing a register is one deed. -/
theorem write_does (answers : sequencer.Answers) (address value : UInt32) (state : σ) :
    ∃ next, sequencer.Does (device (sequencer.bus.write address value)) state ()
      [.write address value] next := by
  obtain ⟨next, runs⟩ := answers.write address value state
  exact ⟨next, .device runs runs⟩

/-- Reading a register is one deed. -/
theorem read_does (answers : sequencer.Answers) (address : UInt32) (state : σ) :
    ∃ value next, sequencer.Does (device (sequencer.bus.read address)) state value
      [.read address value] next := by
  obtain ⟨value, next, runs⟩ := answers.read address state
  exact ⟨value, next, .device runs runs⟩

/-- The record of a line in the log. -/
def record (level : Level) (message : String) : LogRecord := ⟨level, logTarget, message⟩

/-- Writing a line to the log is one deed. -/
theorem note_does (answers : sequencer.Answers) (level : Level) (message : String) (state : σ) :
    ∃ next, sequencer.Does (sequencer.note level message) state () [.log (record level message)]
      next := by
  obtain ⟨next, runs⟩ := answers.log (record level message) state
  exact ⟨next, .device runs runs⟩

/-- Writing behind the base address of the read-write manager is one deed. -/
theorem writeRw_does_of_ok (answers : sequencer.Answers) {offset address : UInt32}
    (computed : Word.add32 sequencer.config.layout.rwManager offset = .ok address)
    (value : UInt32) (state : σ) :
    ∃ next, sequencer.Does (sequencer.writeRw offset value) state () [.write address value]
      next := by
  obtain ⟨next, does⟩ := sequencer.write_does answers address value state
  exact ⟨next, .compute computed does⟩

/-- Writing a register of the read-write manager is one deed. -/
theorem writeRw_does (answers : sequencer.Answers) (fits : sequencer.config.layout.Fits)
    (offset value : UInt32) (inside : offset.toNat < RwManager.window) (state : σ) :
    ∃ next, sequencer.Does (sequencer.writeRw offset value) state ()
      [.write (sequencer.config.layout.rwManager + offset) value] next := by
  have bound := fits.rw
  exact writeRw_does_of_ok answers (add32_ok (by omega)) value state

/-- Writing a register of the PHY manager is one deed. -/
theorem writePhy_does (answers : sequencer.Answers) (fits : sequencer.config.layout.Fits)
    (offset value : UInt32) (inside : offset.toNat < PhyManager.window) (state : σ) :
    ∃ next, sequencer.Does (sequencer.writePhy offset value) state ()
      [.write (sequencer.config.layout.phyManager + offset) value] next := by
  have bound := fits.phy
  obtain ⟨next, does⟩ := sequencer.write_does answers
    (sequencer.config.layout.phyManager + offset) value state
  exact ⟨next, .compute (add32_ok (by omega)) does⟩

/-- The loop counters are registers of the read-write manager. -/
theorem counter_lt (counter : LoopCounter) :
    (RwManager.loadCounter + counter.offset).toNat < RwManager.window := by
  cases counter <;> decide

/-- So are the jump targets. -/
theorem jump_lt (counter : LoopCounter) :
    (RwManager.loadJump + counter.offset).toNat < RwManager.window := by
  cases counter <;> decide

/-- What setting a loop counter and its jump target does. -/
def loadDeeds (sequencer : Sequencer σ ε) (counter : LoopCounter) (count : UInt32)
    (target : RomProgram) : List Deed :=
  [.write (sequencer.config.layout.rwManager +
      (RwManager.loadCounter + counter.offset)) count,
    .write (sequencer.config.layout.rwManager +
      (RwManager.loadJump + counter.offset)) (sequencer.entry target)]

/-- Setting a loop counter and its jump target is two deeds. -/
theorem load_does (answers : sequencer.Answers) (fits : sequencer.config.layout.Fits)
    (counter : LoopCounter) (count : UInt32) (target : RomProgram) (state : σ) :
    ∃ next, sequencer.Does (sequencer.load counter count target) state ()
      (sequencer.loadDeeds counter count target) next := by
  obtain ⟨middle, first⟩ := writeRw_does answers fits _ count (counter_lt counter) state
  obtain ⟨next, second⟩ :=
    writeRw_does answers fits _ (sequencer.entry target) (jump_lt counter) middle
  exact ⟨next, first.bind second⟩

end Sequencer

end Bringup.Calibration
