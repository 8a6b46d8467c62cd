import Bringup.Calibration.Sample
import Bringup.Proofs.Calibration.CountedPhases
/-!
# Whether one group disturbs another

Of two groups of a layout one is captured by the first clock and the other by the second. They have
a clock register in common only where the memory has second clocks, and then it is that of the
capture clock of the later group (`shared_iff`).

Main statement: whatever the bus, a calibration that came to its end has left every other register
of a group where the search for the group left it (`calibrateVfifo_keeps`).
-/

namespace Bringup.Calibration

/-- Of two groups of a layout the first is captured by the first clock and the other by the
second. -/
theorem GroupLayout.groups_clocks (layout : GroupLayout) :
    layout.groups.Pairwise fun earlier later =>
      captureClock earlier = 0 ∧ captureClock later = 1 := by
  rcases layout with _ | (_ | _) | _
  · exact List.pairwise_singleton _ _
  · exact List.pairwise_singleton _ _
  · exact List.pairwise_pair.2 ⟨rfl, rfl⟩
  · exact List.pairwise_pair.2 ⟨rfl, rfl⟩

namespace Sequencer

variable {σ ε : Type} {sequencer : Sequencer σ ε}

section Pair

variable {earlier later : UInt32} (first : captureClock earlier = 0)
  (second : captureClock later = 1)

include first in
/-- The first clock has the first register. -/
theorem clockRegister_first :
    sequencer.clockRegister earlier = sequencer.config.layout.pllManager := by
  rw [clockRegister, first]
  exact UInt32.add_zero _

include second in
/-- The second clock has the register behind it. -/
theorem clockRegister_second :
    sequencer.clockRegister later = sequencer.config.layout.pllManager + 4 := by
  rw [clockRegister, second]
  rfl

include first second

/-- Each has a register of its own. -/
theorem clockRegister_ne : sequencer.clockRegister earlier ≠ sequencer.clockRegister later := by
  rw [clockRegister_first first, clockRegister_second second]
  grind

/-- A register belongs to both of two groups only where the memory has second clocks, and then it
is that of the capture clock of the later group. -/
theorem shared_iff (register : UInt32) :
    register ∈ sequencer.clockRegisters earlier ∧ register ∈ sequencer.clockRegisters later ↔
      sequencer.config.protocol = .lpddr2 ∧ register = sequencer.clockRegister later := by
  rw [clockRegisters, clockRegisters, clockRegister_first first, clockRegister_second second,
    first, second]
  by_cases double : sequencer.config.protocol = .lpddr2
  · simp only [if_pos double, List.mem_cons, List.not_mem_nil, or_false]
    constructor
    · rintro ⟨mine, theirs⟩
      exact ⟨double, by grind⟩
    · rintro ⟨_, rfl⟩
      exact ⟨.inr (by rw [UInt32.add_zero]), .inl rfl⟩
  · simp only [if_neg double, List.mem_cons, List.not_mem_nil, or_false]
    grind

end Pair

/-- A calibration that ended gave every group its turn. Two groups have a register in common only
where the memory has second clocks, and then it is that of the capture clock of the later group. So
at the end a register of a group is where the search for the group left it, unless it is that
register; and without second clocks nothing else has moved it. -/
theorem calibrateVfifo_keeps {before after : Progress σ} {pass : Bool}
    (ran : sequencer.calibrateVfifo before = .ok pass after) :
    (sequencer.config.groups.groups.Pairwise fun earlier later => ∀ register,
      register ∈ sequencer.clockRegisters earlier ∧ register ∈ sequencer.clockRegisters later ↔
        sequencer.config.protocol = .lpddr2 ∧ register = sequencer.clockRegister later) ∧
    ∃ loaded turns, sequencer.PlainRun before loaded ∧
      sequencer.Turns sequencer.config.groups.groups loaded turns after ∧
      ∀ earlier turn later, turns = earlier ++ turn :: later →
        ∀ register ∈ sequencer.clockRegisters turn.group,
          ((sequencer.config.protocol = .lpddr2 →
              register = sequencer.clockRegister turn.group ∨ later = []) →
            sequencer.netPhase register turns =
              sequencer.netPhase register (earlier ++ [turn])) ∧
          (sequencer.config.protocol ≠ .lpddr2 →
            sequencer.netPhase register turns =
              sequencer.travel turn.group register turn.moves) := by
  have clocks := sequencer.config.groups.groups_clocks
  refine ⟨clocks.imp fun pair => shared_iff pair.1 pair.2, ?_⟩
  obtain ⟨_, loaded, loads, calibrates⟩ := Action.bind_eq_ok ran
  obtain ⟨turns, had⟩ := calibrateGroups_turns calibrates
  refine ⟨loaded, turns, sequencer.loadReadPatterns_chore.plain loads, had, ?_⟩
  rintro earlier turn later rfl register mine
  rw [← had.groups_eq, List.pairwise_map, List.pairwise_append] at clocks
  obtain ⟨_, behind, ahead⟩ := clocks
  constructor
  · intro own
    refine netPhase_kept rfl fun next among theirs => ?_
    obtain ⟨first, second⟩ := (List.pairwise_cons.1 behind).1 next among
    obtain ⟨double, same⟩ := (shared_iff first second register).1 ⟨mine, theirs⟩
    rcases own double with here | rfl
    · exact clockRegister_ne first second (here.symm.trans same)
    · exact List.not_mem_nil among
  · intro single
    have later : ∀ next ∈ later, register ∉ sequencer.clockRegisters next.group := by
      intro next among theirs
      obtain ⟨first, second⟩ := (List.pairwise_cons.1 behind).1 next among
      exact single ((shared_iff first second register).1 ⟨mine, theirs⟩).1
    have earlier : ∀ previous ∈ earlier, register ∉ sequencer.clockRegisters previous.group := by
      intro previous among theirs
      obtain ⟨first, second⟩ := ahead previous among turn List.mem_cons_self
      exact single ((shared_iff first second register).1 ⟨theirs, mine⟩).1
    rw [netPhase_kept rfl later, netPhase_append, netPhase_eq_zero earlier, Int.zero_add]
    exact Int.add_zero _

/-- The first group reads well in phase 0 alone, the second in phase 1 alone. -/
def pairBands : List Band :=
  [⟨some 0, none, some 0, some 0, 0⟩, ⟨some 1, none, some 1, some 1, 0⟩]

/-- A PHY with these errors. -/
def pairPhy : Phy := { Phy.fresh Config.sample.layout 0x60 1 with bands := pairBands }

/-- A sequencer for two groups that are captured by two clocks. -/
def pairSequencer (protocol : Protocol) : Sequencer Phy Empty :=
  ⟨Phy.bus, { Config.sample with protocol, groups := .x16 true },
    ⟨0xff, 0xff, 0xff, 0xff, 0xff⟩, Logger.silent⟩

/-- On a DDR3 memory the register of each of the two groups is at the end where its own turn moved
it. -/
theorem pairSequencer_keeps :
    ∃ pass after loaded first second,
      (pairSequencer .ddr3).calibrateVfifo ⟨.initial, pairPhy⟩ = .ok pass after ∧
      (pairSequencer .ddr3).Turns [0, 1] loaded [first, second] after ∧
      (pairSequencer .ddr3).netPhase 0x58000 [first, second] =
        (pairSequencer .ddr3).travel first.group 0x58000 first.moves ∧
      (pairSequencer .ddr3).netPhase 0x58004 [first, second] =
        (pairSequencer .ddr3).travel second.group 0x58004 second.moves := by
  have phase : Phy.phaseAfter (pairSequencer .ddr3).calibrateVfifo pairPhy 0x58004 = some 1 := by
    decide +kernel
  obtain ⟨pass, after, ran, _⟩ := Phy.ended_of_phaseAfter phase
  obtain ⟨_, loaded, turns, _, had, kept⟩ := calibrateVfifo_keeps ran
  obtain ⟨first, second, rfl⟩ : ∃ first second, turns = [first, second] := by
    have two := congrArg List.length had.groups_eq
    rw [List.length_map] at two
    exact List.length_eq_two.1 two
  obtain ⟨here, there⟩ := List.cons.inj had.groups_eq
  obtain there := (List.cons.inj there).1
  refine ⟨pass, after, loaded, first, second, ran, had, ?_, ?_⟩
  · exact (kept [] first [second] rfl 0x58000 (by rw [here]; decide)).2 (by decide)
  · exact (kept [first] second [] rfl 0x58004 (by rw [there]; decide)).2 (by decide)

/-- On an LPDDR2 memory the second register of the first group is the first of the second group.
The search for the first group leaves it in phase 0, and the turn of the second group moves it on
to phase 1. -/
theorem pairSequencer_disturbs :
    ∃ pass after loaded first second,
      (pairSequencer .lpddr2).calibrateVfifo ⟨.initial, pairPhy⟩ = .ok pass after ∧
      (pairSequencer .lpddr2).Turns [0, 1] loaded [first, second] after ∧
      0x58004 ∈ (pairSequencer .lpddr2).clockRegisters 0 ∧
      0x58004 ∈ (pairSequencer .lpddr2).clockRegisters 1 ∧
      (pairSequencer .lpddr2).netPhase 0x58004 [first] = 0 ∧
      (pairSequencer .lpddr2).netPhase 0x58004 [first, second] = 1 := by
  have clocks : (pairSequencer .lpddr2).config.layout.Clocks 0x58004 := ⟨by decide, by decide⟩
  have inside : ∀ group ∈ [(0 : UInt32), 1],
      group ≤ 2 ∧ (pairSequencer .lpddr2).Houses group := by
    intro group among
    have three : group ≤ 2 := GroupLayout.groups_le (.x16 true) group among
    exact ⟨three, houses_of_few sample_separates three (by decide)⟩
  have single : Phy.phaseAfter (do
      (pairSequencer .lpddr2).loadReadPatterns
      (pairSequencer .lpddr2).findDqsEnablePhase 0) pairPhy 0x58004 = some 0 := by decide +kernel
  have both : Phy.phaseAfter (pairSequencer .lpddr2).calibrateVfifo pairPhy 0x58004 = some 1 := by
    decide +kernel
  obtain ⟨pass, after, ran, last⟩ := Phy.ended_of_phaseAfter both
  obtain ⟨_, loaded, loads, calibrates⟩ := Action.bind_eq_ok ran
  obtain ⟨turns, had⟩ : ∃ turns, (pairSequencer .lpddr2).Turns [0, 1] loaded turns after :=
    calibrateGroups_turns calibrates
  have begins : pairPhy.phase 0x58004 = 0 := rfl
  have whole := Phy.calibration_counted rfl rfl clocks sample_separates inside rfl loads had
  rw [last, begins, Int.zero_add] at whole
  cases had with
  | @next _ _ _ middle _ first _ _ search searches leads others =>
    have part := Phy.calibration_counted rfl rfl clocks sample_separates
      (fun group among => inside group (List.mem_cons.2 (.inl (List.mem_singleton.1 among)))) rfl
      loads (.next search searches leads (.done middle))
    rw [Phy.phaseAfter_search loads search] at single
    rw [Option.some.inj single, begins, Int.zero_add] at part
    cases others with
    | @next _ _ _ _ _ second _ _ search' searches' leads' ended =>
      cases ended
      exact ⟨pass, after, loaded, ⟨0, first⟩, ⟨1, second⟩, ran,
        .next search searches leads (.next search' searches' leads' (.done after)),
        by decide, by decide, part.symm, whole.symm⟩

end Sequencer

end Bringup.Calibration
