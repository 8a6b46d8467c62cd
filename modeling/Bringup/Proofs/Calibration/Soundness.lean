import Bringup.Proofs.Calibration.Neighbors
/-!
# What a calibration that succeeds promises

A calibration that succeeds leaves each group of the layout in the middle of the phases at which
some bit reads, around one at which every bit does (`Settles`). So a test for any bit passes there,
while one for all bits may fail: the edges of the window are found by the test for any bit, and
where the bits have windows of their own the middle of all may lie outside some
(`unevenSequencer_unsound`). Main statement: `Sequencer.calibrate_sound`.
-/

namespace Bringup.Calibration

variable {σ ε : Type}

/-- Around a phase that was found, where all reads pass, the phases that read reach from one edge to
another, and this phase is the middle of them. -/
structure Settles (all any : Int → Prop) (found lower upper phase : Int) : Prop where
  works : all found
  window : Window any found lower upper
  middle : phase = center lower upper
  above : lower < phase
  below : phase < upper

/-- The middle reads. -/
theorem Settles.reads {all any : Int → Prop} {found lower upper phase : Int}
    (settles : Settles all any found lower upper phase) : any phase :=
  settles.window.inside settles.above settles.below

/-- A search that succeeds settles at its first pass. -/
theorem Centers.settles {all any : Position → Int → Prop} {start position : Position}
    {low phase : Int} {rounds : Nat} (implies : ∀ {phase}, all position phase → any position phase)
    (ends : Centers all any start low rounds none position phase) :
    ∃ found lower upper, Settles (all position) (any position) found lower upper phase := by
  cases ends with
  | centered pass window =>
    obtain ⟨above, below⟩ := window.center_inside (implies pass.works)
    exact ⟨_, _, _, pass.works, window, rfl, above, below⟩

namespace Sequencer

variable {sequencer : Sequencer σ ε} {group : UInt32} {errors : Nat → Position → Int → UInt32}
  {stands : UInt32 → σ → Position → Int → Prop}

/-- A test of a group, for all bits or for any, has this result wherever the PHY stands at some
point, and leaves it there. -/
def Tests (sequencer : Sequencer σ ε) (group : UInt32) (allCorrect pass : Bool)
    (there : σ → Prop) : Prop :=
  ∀ status state, there state → ∃ bits next,
    sequencer.readTest group allCorrect false ⟨status, state⟩ = .ok (pass, bits) ⟨status, next⟩ ∧
    there next

/-- A test passes where the errors of the operating point let it. -/
theorem Steerable.tests {stands : σ → Position → Int → Prop}
    (steerable : sequencer.Steerable group errors stands) (answers : sequencer.Answers)
    (divided : sequencer.virtualGroups ≠ 0) (runnable : sequencer.Runnable (runBase false) group)
    (allCorrect : Bool) (position : Position) (phase : Int) :
    sequencer.Tests group allCorrect
      (sequencer.passes allCorrect (sequencer.wordsAt group errors position phase))
      (stands · position phase) := by
  intro status state stood
  have counted : sequencer.readRounds false = .ok 0 := rfl
  obtain ⟨words, next, length, does⟩ :=
    readTest_does answers steerable.separates.toFits steerable.three divided allCorrect runnable
      counted state
  obtain ⟨same, kept⟩ := steerable.tested_stands length stood does.trace
  rw [← same]
  exact ⟨_, next, does.runs status, kept⟩

/-- Once the groups were searched, each with success, all of them are settled. -/
theorem Orderly.settles (orderly : sequencer.Orderly errors stands)
    (readable : sequencer.masks.read ≠ 0) {groups : List UInt32} {results : List Bool}
    {before after : Progress σ}
    (searched : groups.mapM sequencer.findDqsEnablePhase before = .ok results after)
    (among : ∀ group ∈ groups, group ∈ sequencer.config.groups.groups)
    (trail : groups.Pairwise Trails) (success : results.all id = true)
    (begins : ∀ group ∈ groups, ∃ position phase, stands group before.device position phase) :
    ∀ group ∈ groups, ∃ position phase, stands group after.device position phase ∧
      ∃ found lower upper, Settles (sequencer.AllRead group errors position)
        (sequencer.AnyReads group errors position) found lower upper phase := by
  have three {group : UInt32} (known : group ∈ sequencer.config.groups.groups) : group ≤ 2 :=
    GroupLayout.groups_le _ group known
  have fits := orderly.separates.toFits
  induction groups generalizing before results with
  | nil => exact fun group member => absurd member List.not_mem_nil
  | cons group rest ih =>
    obtain ⟨known, others⟩ := List.forall_mem_cons.1 among
    obtain ⟨behind, trail⟩ := List.pairwise_cons.1 trail
    obtain ⟨⟨start, low, stood⟩, starts⟩ := List.forall_mem_cons.1 begins
    obtain ⟨found, verdicts, middle, rfl, search, ran⟩ := mapM_eq_ok searched
    obtain ⟨moves, failure, searches, rfl, leads⟩ := findDqsEnablePhase_trace search
    rw [List.all_cons, Bool.and_eq_true, id, Option.isNone_iff_eq_none] at success
    obtain ⟨rfl, successes⟩ := success
    obtain ⟨position, phase, ends, kept⟩ :=
      (orderly.steerable known).searches_center searches stood leads
    obtain ⟨deeds, later, searching⟩ :=
      mapM_trace fits (fun other member => three (others other member)) ran
    refine List.forall_mem_cons.2 ⟨⟨position, phase,
      orderly.later_stands known others behind searching kept later,
      ends.settles (AllRead.any readable)⟩, ?_⟩
    refine ih ran others trail successes fun other member => ?_
    obtain ⟨place, moved, waits⟩ := starts other member
    obtain ⟨drifted, stays⟩ := orderly.earlier_stands (others other member) known
      (behind other member).groups.symm (searches.deeds fits (three known)) waits leads
    exact ⟨place, drifted, stays⟩

end Sequencer

end Bringup.Calibration
