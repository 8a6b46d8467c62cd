import Bringup.Header.Standard
import Bringup.Proofs.Calibration.Divisions
/-!
# What accepted headers say about divisors

Settings hold for every dimension the constant that the headers bind for it, and a constant that is
checked as a divisor is not zero (`Settings.geometry_eq`). The checks protect everything that is
done with a sequencer, and all but one of the divisions that make it: the width of the data mask is
divided by and not checked (`Settings.accepted_safe_iff`).
-/

namespace Bringup

open Calibration

/-- A sequence of computations that succeeds computed its first value and then the rest. -/
theorem computed_of_bind {δ α β : Type} {first : Except δ α} {rest : α → Except δ β} {result : β}
    (computed : (first >>= rest) = .ok result) :
    ∃ value, first = .ok value ∧ rest value = .ok result := by
  cases first with
  | ok value => exact ⟨value, rfl, computed⟩
  | error error => cases computed

/-- What is needed and there is what was read. -/
theorem Settings.computed_of_needing {α : Type} {read : Except DefineError α} {value : α}
    (computed : needing read = .ok value) : read = .ok value := by
  cases read with
  | ok other =>
    cases computed
    rfl
  | error error => cases computed

/-- A constant that has to be bound is what the headers bind. -/
theorem Defines.get?_of_require {defines : Defines} {name : String} {value : UInt32}
    (required : defines.require name = .ok value) : defines.get? name = some value := by
  rw [require] at required
  cases bound : defines.get? name with
  | some other =>
    rw [bound] at required
    cases required
    rfl
  | none =>
    rw [bound] at required
    cases required

/-- A constant that must not be zero is what the headers bind, and not zero. -/
theorem Defines.get?_of_requireNonzero {defines : Defines} {name : String} {value : UInt32}
    (required : defines.requireNonzero name = .ok value) :
    defines.get? name = some value ∧ value ≠ 0 := by
  obtain ⟨bound, read, checked⟩ := computed_of_bind required
  split at checked
  · cases checked
  · next nonzero =>
    cases checked
    exact ⟨get?_of_require read, nonzero⟩

/-- The value of a dimension is what the headers bind, and not zero if it is checked as a
divisor. -/
theorem Calibration.Dimension.get?_of_read {defines : Defines} {dimension : Dimension}
    {value : UInt32} (found : dimension.read defines = .ok value) :
    defines.get? dimension.constant = some value ∧ (dimension.isDivisor → value ≠ 0) := by
  rw [read] at found
  cases divisor : dimension.isDivisor with
  | true =>
    rw [divisor] at found
    obtain ⟨bound, nonzero⟩ := Defines.get?_of_requireNonzero found
    exact ⟨bound, fun _ => nonzero⟩
  | false =>
    rw [divisor] at found
    exact ⟨Defines.get?_of_require found, nofun⟩

namespace Settings

variable {defines : Defines} {settings : Settings}

/-- Where all dimensions can be read, the table holds what was read of each. -/
theorem read_of_readDimensions {dimensions : List Dimension} {table : List (Dimension × UInt32)}
    (read : readDimensions defines dimensions = .ok table) {dimension : Dimension}
    (among : dimension ∈ dimensions) :
    dimension.read defines = .ok (geometryOf table dimension) := by
  induction dimensions generalizing table with
  | nil => exact absurd among List.not_mem_nil
  | cons first rest ih =>
    obtain ⟨value, found, others⟩ := computed_of_bind read
    obtain ⟨later, following, ends⟩ := computed_of_bind others
    cases ends
    rw [geometryOf, List.lookup_cons]
    by_cases same : dimension = first
    · subst same
      simpa using found
    · rw [beq_false_of_ne same]
      exact ih following ((List.mem_cons.1 among).resolve_left same)

/-- What was read where headers give settings. -/
structure ReadFrom (defines : Defines) (settings : Settings) : Prop where
  frequency : ∃ frequency,
    defines.requireNonzero Dimension.afiClockFrequency.constant = .ok frequency ∧
    ¬maxFrequency < frequency
  phyManager : defines.require "SEQUENCER_PHY_MGR_INST_BASE" = .ok settings.phyManager
  rwManager : defines.require "SEQUENCER_RW_MGR_INST_BASE" = .ok settings.rwManager
  pllManager : settings.pllManager = defines.get? "BASE_PLL_MGR"
  geometry : ∃ table, readDimensions defines Dimension.all = .ok table ∧
    settings.geometry = geometryOf table
  protocol : protocolOf defines = .ok settings.protocol
  groups : groupsOf defines = .ok settings.groups
  programs : ∀ program, settings.programs program = (defines.get? program.constant).getD 0

/-- Headers that passed inspection bind a clock that is slow enough. -/
theorem clock_of_inspected (inspected : inspect defines = .ok ()) :
    ∃ frequency, defines.requireNonzero Dimension.afiClockFrequency.constant = .ok frequency ∧
      ¬maxFrequency < frequency := by
  rw [inspect] at inspected
  split at inspected
  · cases inspected
  · obtain ⟨frequency, needed, slow⟩ := computed_of_bind inspected
    split at slow
    · cases slow
    · next bound => exact ⟨frequency, computed_of_needing needed, bound⟩

/-- Settings that headers give were read from them. -/
theorem readFrom (accepted : ofDefines defines = .ok settings) : ReadFrom defines settings := by
  obtain ⟨_, inspected, generated⟩ := computed_of_bind accepted
  obtain ⟨_, phy, afterPhy⟩ := computed_of_bind generated
  obtain ⟨_, rw, afterRw⟩ := computed_of_bind afterPhy
  obtain ⟨table, read, afterTable⟩ := computed_of_bind afterRw
  obtain ⟨_, protocol, afterProtocol⟩ := computed_of_bind afterTable
  obtain ⟨_, groups, made⟩ := computed_of_bind afterProtocol
  cases made
  exact
    { frequency := clock_of_inspected inspected
      phyManager := computed_of_needing phy
      rwManager := computed_of_needing rw
      pllManager := rfl
      geometry := ⟨table, computed_of_needing read, rfl⟩
      protocol := protocol
      groups := groups
      programs := fun _ => rfl }

/-- Headers that give settings bind a constant for each dimension, which is not zero if it is
checked as a divisor, and a clock that is slow enough. -/
theorem geometry_eq (accepted : ofDefines defines = .ok settings) :
    (∀ dimension, defines.get? dimension.constant = some (settings.geometry dimension) ∧
      (dimension.isDivisor → settings.geometry dimension ≠ 0)) ∧
    (settings.geometry .afiClockFrequency).toNat ≤ 1000000 := by
  have given := readFrom accepted
  obtain ⟨table, read, geometry⟩ := given.geometry
  obtain ⟨frequency, needed, bound⟩ := given.frequency
  have found (dimension : Dimension) : defines.get? dimension.constant =
      some (settings.geometry dimension) ∧
        (dimension.isDivisor → settings.geometry dimension ≠ 0) := by
    rw [geometry]
    exact Dimension.get?_of_read (read_of_readDimensions read dimension.mem_all)
  have checked := (Defines.get?_of_requireNonzero needed).1
  have same : frequency = settings.geometry .afiClockFrequency :=
    Option.some.inj (checked.symm.trans (found .afiClockFrequency).1)
  rw [same] at bound
  exact ⟨found, Nat.le_of_not_lt bound⟩

/-- The checks of the calibrator's headers protect the sequencer but for one. For every table of
constants that gives settings, what is done with a sequencer of these settings never divides by
zero. Making it divides by the width of the data mask, too, which is not among the constants that
are checked as divisors: nothing at all divides by zero exactly where the headers bind that width to
something else than zero. -/
theorem accepted_safe_iff (accepted : ofDefines defines = .ok settings) :
    settings.config.RunsSafely ∧
    (settings.config.NeverDividesByZero ↔
      defines.get? "RW_MGR_MEM_DATA_MASK_WIDTH" ≠ some 0) := by
  obtain ⟨bound, slow⟩ := geometry_eq accepted
  have measures : settings.config.Measures :=
    ⟨(bound .virtualGroupsPerReadDqs).2 rfl, (bound .afiRateRatio).2 rfl,
      (bound .afiClockFrequency).2 rfl, slow⟩
  have width : defines.get? "RW_MGR_MEM_DATA_MASK_WIDTH" =
      some (settings.geometry .dataMaskWidth) := (bound .dataMaskWidth).1
  refine ⟨(runsSafely_iff _).2 measures, ?_⟩
  rw [neverDividesByZero_iff, width]
  constructor
  · exact fun divides zero => divides.dataMask (Option.some.inj zero)
  · exact fun nonzero => ⟨measures.virtualGroups, fun zero => nonzero (congrArg some zero),
      measures.ratio, measures.frequency, measures.period⟩

/-- The constants of the standard header give settings that never divide by zero. -/
theorem standard_safe : ∃ settings, ofDefines .standard = .ok settings ∧
    settings.config.NeverDividesByZero := by
  have width : Defines.standard.get? "RW_MGR_MEM_DATA_MASK_WIDTH" ≠ some 0 := by decide
  cases accepted : ofDefines .standard with
  | ok settings => exact ⟨settings, rfl, (accepted_safe_iff accepted).2.2 width⟩
  | error error =>
    have succeeds : (ofDefines .standard).toOption.isSome := by decide
    rw [accepted] at succeeds
    cases succeeds

/-- Headers that say that the data mask has no line are accepted all the same, and then no sequencer
can be made: its masks divide by that width. -/
theorem maskless_divides : ∃ settings,
    ofDefines (.variant [("RW_MGR_MEM_DATA_MASK_WIDTH", 0)]) = .ok settings ∧
    ∀ {σ ε : Type} (bus : Bus σ ε) (log : Logger σ ε),
      Sequencer.create bus log settings.config = .error .divideByZero := by
  cases accepted : ofDefines (.variant [("RW_MGR_MEM_DATA_MASK_WIDTH", 0)]) with
  | ok settings =>
    have bound : Defines.get? (.variant [("RW_MGR_MEM_DATA_MASK_WIDTH", 0)])
        "RW_MGR_MEM_DATA_MASK_WIDTH" = some 0 := by decide
    have zero : settings.geometry .dataMaskWidth = 0 :=
      Option.some.inj (((geometry_eq accepted).1 .dataMaskWidth).1.symm.trans bound)
    refine ⟨settings, rfl, fun bus log => Classical.not_not.1 fun divides => ?_⟩
    exact ((masks_divide _).1 ((create_divides bus log _).1 divides)).2 zero
  | error error =>
    have succeeds : (ofDefines (.variant [("RW_MGR_MEM_DATA_MASK_WIDTH", 0)])).toOption.isSome := by
      decide
    rw [accepted] at succeeds
    cases succeeds

end Settings

end Bringup
