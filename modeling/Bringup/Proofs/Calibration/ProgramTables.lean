import Bringup.Proofs.Calibration.Handover
import Bringup.Proofs.Calibration.Retrace
/-!
# Procedures and the table of programs

A configuration says where the programs of the instruction memory begin. A sequencer looks an entry
up to run the program or to set it as a jump target. For a family of procedures, one for each table
of programs, two lists are kept (`Sequencer.Takes`): the programs that each procedure of the family
has taken when it ends, and those whose entries it may depend on at all. Sequences add their lists,
so what a procedure takes is found along its text.
-/

namespace Bringup.Calibration

/-- A register that runs a program, or holds a jump target. -/
def RwManager.TakesEntry (offset : UInt32) : Prop :=
  offset < loadCounter ∨ ∃ counter : LoopCounter, offset = loadJump + counter.offset

namespace Sequencer

open Procedure (checked device updateStatus)

variable {σ ε α β : Type} {sequencer : Sequencer σ ε}

/-- The sequencer with another table of programs. -/
def withPrograms (sequencer : Sequencer σ ε) (table : Programs) : Sequencer σ ε :=
  { sequencer with config := { sequencer.config with programs := table } }

/-- An entry is written to a register that runs programs or holds a jump target. -/
def Enters (sequencer : Sequencer σ ε) (entry : UInt32) (deeds : List Deed) : Prop :=
  ∃ offset, RwManager.TakesEntry offset ∧
    .write (sequencer.config.layout.rwManager + offset) entry ∈ deeds

/-- Of the tables of programs, a family of procedures depends on the entries of `most` alone. Where
a procedure of it ends, it has run each program of `least` or set it as a jump target. -/
structure Takes (sequencer : Sequencer σ ε) (least most : List RomProgram)
    (family : Programs → Procedure σ ε α) : Prop where
  only : ∀ table other, (∀ program ∈ most, table program = other program) →
    family table = family other
  each : ∀ table before value after, family table before = .ok value after →
    ∃ deeds, Trace sequencer.Step before.device deeds after.device ∧
      ∀ program ∈ least, sequencer.Enters (table program) deeds

namespace Takes

variable {least most others further : List RomProgram}

/-- A family may be said to run less and to depend on more. -/
theorem mono {family : Programs → Procedure σ ε α} (takes : sequencer.Takes least most family)
    (fewer : others ⊆ least) (more : most ⊆ further) : sequencer.Takes others further family where
  only table other agree := takes.only table other fun program among => agree program (more among)
  each table before value after ran := by
    obtain ⟨deeds, trace, enters⟩ := takes.each table before value after ran
    exact ⟨deeds, trace, fun program among => enters program (fewer among)⟩

/-- The order of the programs does not matter, nor how often they are listed. -/
theorem listed {family : Programs → Procedure σ ε α} (takes : sequencer.Takes most most family)
    (same : ∀ program, program ∈ others ↔ program ∈ most) :
    sequencer.Takes others others family :=
  takes.mono (fun program among => (same program).1 among) fun program among =>
    (same program).2 among

/-- A procedure without a program. -/
theorem fixed {procedure : Procedure σ ε α}
    (traced : ∀ before value after, procedure before = .ok value after →
      ∃ deeds, Trace sequencer.Step before.device deeds after.device) :
    sequencer.Takes [] [] fun _ => procedure where
  only _ _ _ := rfl
  each _ before value after ran := by
    obtain ⟨deeds, trace⟩ := traced before value after ran
    exact ⟨deeds, trace, fun _ member => absurd member List.not_mem_nil⟩

/-- A chore without a program. -/
theorem chore {procedure : Procedure σ ε α} (chore : sequencer.Chore procedure) :
    sequencer.Takes [] [] fun _ => procedure := by
  apply fixed
  intro before value after ran
  obtain ⟨_, deeds, trace, _⟩ := chore.plain ran
  exact ⟨deeds, trace⟩

/-- A change of the status takes no program. -/
theorem updateStatus (change : Status → Status) :
    sequencer.Takes [] [] fun _ => (Procedure.updateStatus change : Procedure σ ε Unit) := by
  apply fixed
  intro before value after ran
  cases ran
  exact ⟨[], .done _⟩

/-- Procedures in sequence take what each takes. -/
theorem bind {family : Programs → Procedure σ ε α} {rest : Programs → α → Procedure σ ε β}
    (first : sequencer.Takes least most family)
    (second : ∀ value, sequencer.Takes others further fun table => rest table value) :
    sequencer.Takes (least ++ others) (most ++ further) fun table =>
      family table >>= rest table where
  only table other agree := by
    have same := first.only table other fun program among =>
      agree program (List.mem_append_left _ among)
    have following : rest table = rest other := funext fun value =>
      (second value).only table other fun program among =>
        agree program (List.mem_append_right _ among)
    show family table >>= rest table = family other >>= rest other
    rw [same, following]
  each table before value after ran := by
    obtain ⟨between, middle, ran, followed⟩ := Action.bind_eq_ok ran
    obtain ⟨deeds, trace, enters⟩ := first.each table before between middle ran
    obtain ⟨more, later, entersMore⟩ := (second between).each table middle value after followed
    refine ⟨deeds ++ more, trace.append later, ?_⟩
    intro program among
    obtain here | there := List.mem_append.1 among
    · obtain ⟨offset, takes, member⟩ := enters program here
      exact ⟨offset, takes, List.mem_append_left _ member⟩
    · obtain ⟨offset, takes, member⟩ := entersMore program there
      exact ⟨offset, takes, List.mem_append_right _ member⟩

/-- What follows a procedure without a program takes its own programs. -/
theorem after {family : Programs → Procedure σ ε α} {rest : Programs → α → Procedure σ ε β}
    (first : sequencer.Takes [] [] family)
    (second : ∀ value, sequencer.Takes least most fun table => rest table value) :
    sequencer.Takes least most fun table => family table >>= rest table :=
  first.bind second

/-- What may take programs need not run them. -/
theorem maybe {family : Programs → Procedure σ ε α} (takes : sequencer.Takes least most family) :
    sequencer.Takes [] most family :=
  takes.mono (List.nil_subset _) (List.Subset.refl _)

/-- A procedure without a program may take some. -/
theorem idle {family : Programs → Procedure σ ε α} (takes : sequencer.Takes [] [] family) :
    sequencer.Takes [] most family :=
  takes.mono (List.Subset.refl _) (List.nil_subset _)

/-- Procedures in sequence that may take the same programs. -/
theorem later {family : Programs → Procedure σ ε α} {rest : Programs → α → Procedure σ ε β}
    (first : sequencer.Takes [] most family)
    (second : ∀ value, sequencer.Takes [] most fun table => rest table value) :
    sequencer.Takes [] most fun table => family table >>= rest table :=
  (first.bind second).mono (by simp) (by simp)

/-- What comes before something that takes no other programs than it. -/
theorem before {family : Programs → Procedure σ ε α} {rest : Programs → α → Procedure σ ε β}
    (first : sequencer.Takes most most family)
    (second : ∀ value, sequencer.Takes [] most fun table => rest table value) :
    sequencer.Takes most most fun table => family table >>= rest table :=
  (first.bind second).mono (by simp) (by simp)

/-- What follows a computation without a program takes its own programs. -/
theorem compute {result : Programs → Except Fault α} {rest : Programs → α → Procedure σ ε β}
    (same : ∀ table other, result table = result other)
    (follows : ∀ value, result sequencer.config.programs = .ok value →
      sequencer.Takes least most fun table => rest table value) :
    sequencer.Takes least most fun table => checked (result table) >>= rest table := by
  -- The computation is one for all tables, so that it fails for all of them or for none.
  have fixed : (fun table => checked (result table) >>= rest table) =
      fun table => checked (result sequencer.config.programs) >>= rest table := by
    funext table
    rw [same table sequencer.config.programs]
  rw [fixed]
  cases computed : result sequencer.config.programs with
  | ok value => exact follows value computed
  | error fault =>
    exact
      { only := fun _ _ _ => rfl
        each := fun _ _ _ _ ran => nomatch (compute_eq_ok ran).choose_spec.1 }

/-- A function of the value takes no further program. -/
theorem map {family : Programs → Procedure σ ε α} (takes : sequencer.Takes least most family)
    (change : α → β) : sequencer.Takes least most fun table => change <$> family table where
  only table other agree := by
    show change <$> family table = change <$> family other
    rw [takes.only table other agree]
  each table before value after ran := by
    cases step : family table before with
    | ok result next =>
      have mapped := Action.map_ok step change
      rw [ran] at mapped
      cases mapped
      exact takes.each table before result after step
    | error error next =>
      have mapped := Action.map_error step change
      rw [ran] at mapped
      cases mapped

end Takes

variable (sequencer)

/-- Writing an entry somewhere depends on that entry. -/
theorem writeEntry_depends (offset : UInt32) (program : RomProgram) :
    sequencer.Takes [] [program] fun table =>
      (sequencer.withPrograms table).writeRw offset (table program) where
  only table other agree := by
    show (sequencer.withPrograms table).writeRw offset (table program) =
      (sequencer.withPrograms other).writeRw offset (other program)
    rw [agree program List.mem_cons_self]
    rfl
  each table before value after ran := by
    have step : sequencer.Step before.device
        (.write (sequencer.config.layout.rwManager + offset) (table program)) after.device :=
      (write_eq_ok ran).2.1
    exact ⟨_, .single step, fun _ member => absurd member List.not_mem_nil⟩

/-- Writing it to a register that runs programs or holds a jump target takes it. -/
theorem writeEntry_takes {offset : UInt32} (program : RomProgram)
    (takes : RwManager.TakesEntry offset) :
    sequencer.Takes [program] [program] fun table =>
      (sequencer.withPrograms table).writeRw offset (table program) where
  only := (sequencer.writeEntry_depends offset program).only
  each table before value after ran := by
    have step : sequencer.Step before.device
        (.write (sequencer.config.layout.rwManager + offset) (table program)) after.device :=
      (write_eq_ok ran).2.1
    refine ⟨_, .single step, ?_⟩
    intro among here
    rw [List.mem_singleton.1 here]
    exact ⟨offset, takes, List.mem_singleton.2 rfl⟩

/-- Running a program takes it. -/
theorem run_takes (program : RomProgram) :
    sequencer.Takes [program] [program] fun table =>
      (sequencer.withPrograms table).run program :=
  sequencer.writeEntry_takes program (.inl (by decide))

/-- Setting a jump target takes it. -/
theorem setJump_takes (counter : LoopCounter) (target : RomProgram) :
    sequencer.Takes [target] [target] fun table =>
      (sequencer.withPrograms table).setJump counter target :=
  sequencer.writeEntry_takes target (.inr ⟨counter, rfl⟩)

/-- Setting a loop counter and its jump target takes the target. -/
theorem load_takes (counter : LoopCounter) (count : UInt32) (target : RomProgram) :
    sequencer.Takes [target] [target] fun table =>
      (sequencer.withPrograms table).load counter count target :=
  .bind (.chore (sequencer.setCounter_chore counter count)) fun _ =>
    sequencer.setJump_takes counter target

/-- Running programs in order takes them all. -/
theorem runAll_takes (programs : List RomProgram) :
    sequencer.Takes programs programs fun table =>
      (sequencer.withPrograms table).runAll programs := by
  induction programs with
  | nil => exact .chore (.pure ())
  | cons program rest ih => exact .bind (sequencer.run_takes program) fun _ => ih

/-- Running a program several times takes no other. -/
theorem runTimes_takes (program : RomProgram) (times : Nat) :
    sequencer.Takes [] [program] fun table =>
      (sequencer.withPrograms table).runTimes program times := by
  induction times with
  | zero => exact (Takes.chore (.pure ())).mono (List.Subset.refl _) (List.nil_subset _)
  | succ times ih =>
    exact (Takes.bind (sequencer.run_takes program) fun _ => ih).mono (by simp) (by simp)

end Sequencer

end Bringup.Calibration
