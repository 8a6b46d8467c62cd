import Bringup.Proofs.Calibration.Retrace
import Bringup.Proofs.Calibration.Rounds
/-!
# The turns of a calibration

A step of a group's clock writes the group's clock registers (`clockRegisters`). In a calibration
that came to its end every group had its turn (`Turns`), and the net phase of a register is how far
the turns moved it, up less down (`netPhase`). A turn moves no register but those of its group.
-/

namespace Bringup.Calibration

/-- A group's turn in a calibration. -/
structure Turn where
  group : UInt32
  moves : List Move

namespace Sequencer

variable {σ ε : Type} {sequencer : Sequencer σ ε} {group register : UInt32}

/-- The registers that a step of a group's clock writes. -/
def clockRegisters (sequencer : Sequencer σ ε) (group : UInt32) : List UInt32 :=
  sequencer.clockRegister group ::
    if sequencer.config.protocol = .lpddr2 then
      [sequencer.config.layout.pllManager + captureClock group + 4]
    else []

/-- A step writes its command to each of them. -/
theorem clockDeeds_eq (command : UInt32) :
    sequencer.clockDeeds group command =
      (sequencer.clockRegisters group).map fun register => .write register command := by
  rw [clockDeeds, clockRegisters]
  split <;> rfl

/-- How far a move of the search for a group steps a register. -/
def moveTravel (sequencer : Sequencer σ ε) (group register : UInt32) : Move → Int
  | .up => (sequencer.clockRegisters group).count register
  | .down => -(sequencer.clockRegisters group).count register
  | .tested _ | .advanced | .noted _ => 0

/-- How far moves of the search for a group step a register. -/
def travel (sequencer : Sequencer σ ε) (group register : UInt32) : List Move → Int
  | [] => 0
  | move :: rest =>
    sequencer.moveTravel group register move + travel sequencer group register rest

/-- How far some turns moved a register. -/
def netPhase (sequencer : Sequencer σ ε) (register : UInt32) : List Turn → Int
  | [] => 0
  | turn :: rest =>
    sequencer.travel turn.group register turn.moves + netPhase sequencer register rest

/-- The groups have their turns one after the other, each from where the turn before it ended. -/
inductive Turns (sequencer : Sequencer σ ε) :
    List UInt32 → Progress σ → List Turn → Progress σ → Prop where
  | done (progress : Progress σ) : Turns sequencer [] progress [] progress
  | next {group : UInt32} {rest : List UInt32} {before middle after : Progress σ}
      {moves : List Move} {failure : Option Substage} {turns : List Turn} :
    sequencer.findDqsEnablePhase group before = .ok failure.isNone middle →
    sequencer.Searches group moves failure → sequencer.Leads group before moves middle →
    Turns sequencer rest middle turns after →
    Turns sequencer (group :: rest) before (⟨group, moves⟩ :: turns) after

/-- A calibration of groups that ended gave each its turn. -/
theorem calibrateGroups_turns {groups : List UInt32} {before after : Progress σ} {pass : Bool}
    (ran : sequencer.calibrateGroups groups before = .ok pass after) :
    ∃ turns, sequencer.Turns groups before turns after := by
  induction groups generalizing before pass with
  | nil =>
    cases ran
    exact ⟨[], .done _⟩
  | cons group rest ih =>
    obtain ⟨_, middle, search, ran⟩ := Action.bind_eq_ok ran
    obtain ⟨_, _, others, ran⟩ := Action.bind_eq_ok ran
    cases ran
    obtain ⟨moves, failure, searches, rfl, leads⟩ := findDqsEnablePhase_trace search
    obtain ⟨turns, later⟩ := ih others
    exact ⟨_, .next search searches leads later⟩

/-- Searches of groups that ended searched the first group and then the others. -/
theorem mapM_eq_ok {rest : List UInt32} {before after : Progress σ} {results : List Bool}
    (ran : (group :: rest).mapM sequencer.findDqsEnablePhase before = .ok results after) :
    ∃ found others middle, results = found :: others ∧
      sequencer.findDqsEnablePhase group before = .ok found middle ∧
      rest.mapM sequencer.findDqsEnablePhase middle = .ok others after := by
  rw [List.mapM_cons] at ran
  obtain ⟨found, middle, first, ran⟩ := Action.bind_eq_ok ran
  obtain ⟨others, last, later, ran⟩ := Action.bind_eq_ok ran
  cases ran
  exact ⟨found, others, middle, rfl, first, later⟩

/-- All deeds of searches of groups that ended are deeds of a search for one of them. -/
theorem mapM_trace (fits : sequencer.config.layout.Fits) {groups : List UInt32}
    (three : ∀ group ∈ groups, group ≤ 2) {before after : Progress σ} {results : List Bool}
    (ran : groups.mapM sequencer.findDqsEnablePhase before = .ok results after) :
    ∃ deeds, Trace sequencer.Step before.device deeds after.device ∧
      ∀ deed ∈ deeds, ∃ group ∈ groups, sequencer.SearchDeed group deed := by
  induction groups generalizing before results with
  | nil =>
    cases ran
    exact ⟨[], .done _, fun deed member => absurd member List.not_mem_nil⟩
  | cons group rest ih =>
    obtain ⟨first, others⟩ := List.forall_mem_cons.1 three
    obtain ⟨_, _, middle, _, search, ran⟩ := mapM_eq_ok ran
    obtain ⟨moves, failure, searches, _, leads⟩ := findDqsEnablePhase_trace search
    obtain ⟨deeds, later, all⟩ := ih others ran
    refine ⟨_, leads.append later, List.forall_mem_append.2 ⟨?_, ?_⟩⟩
    · exact fun deed member => ⟨group, List.mem_cons_self, searches.deeds fits first deed member⟩
    · intro deed member
      obtain ⟨other, among, search⟩ := all deed member
      exact ⟨other, List.mem_cons_of_mem group among, search⟩

/-- Every group has one turn, in order. -/
theorem Turns.groups_eq {groups : List UInt32} {before after : Progress σ} {turns : List Turn}
    (had : sequencer.Turns groups before turns after) : turns.map Turn.group = groups := by
  induction had with
  | done => rfl
  | next _ _ _ _ ih => rw [List.map_cons, ih]

/-- The search for a group leaves every register alone that does not belong to the group. -/
theorem travel_eq_zero (other : register ∉ sequencer.clockRegisters group) (moves : List Move) :
    sequencer.travel group register moves = 0 := by
  have uncounted : (sequencer.clockRegisters group).count register = 0 := List.count_eq_zero.2 other
  induction moves with
  | nil => rfl
  | cons move rest ih =>
    have still : sequencer.moveTravel group register move = 0 := by
      cases move <;> simp [moveTravel, uncounted]
    rw [travel, still, ih, Int.add_zero]

/-- So do turns of other groups. -/
theorem netPhase_eq_zero {turns : List Turn}
    (others : ∀ turn ∈ turns, register ∉ sequencer.clockRegisters turn.group) :
    sequencer.netPhase register turns = 0 := by
  induction turns with
  | nil => rfl
  | cons turn rest ih =>
    obtain ⟨first, others⟩ := List.forall_mem_cons.1 others
    rw [netPhase, travel_eq_zero first, ih others, Int.add_zero]

/-- Turns and then turns. -/
theorem netPhase_append (earlier later : List Turn) :
    sequencer.netPhase register (earlier ++ later) =
      sequencer.netPhase register earlier + sequencer.netPhase register later := by
  induction earlier with
  | nil => exact (Int.zero_add _).symm
  | cons turn rest ih => rw [List.cons_append, netPhase, netPhase, ih, Int.add_assoc]

/-- What later turns leave alone is where its own turn left it. -/
theorem netPhase_kept {turns earlier later : List Turn} {turn : Turn}
    (split : turns = earlier ++ turn :: later)
    (others : ∀ next ∈ later, register ∉ sequencer.clockRegisters next.group) :
    sequencer.netPhase register turns = sequencer.netPhase register (earlier ++ [turn]) := by
  rw [split, List.append_cons, netPhase_append, netPhase_eq_zero others, Int.add_zero]

end Sequencer

end Bringup.Calibration
