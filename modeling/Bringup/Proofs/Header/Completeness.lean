import Bringup.Proofs.Header.Divisors
import Bringup.Proofs.Header.ReadBack
/-!
# Complete tables and what is written of them

Headers give settings exactly if their table of constants is complete: nothing that is needed is
missing or zero, the clock is slow enough, and one protocol and one width are chosen
(`Settings.accepted_iff_complete`). The text of these settings, read back, says of every field the
value of its own constant (`Settings.emitted_render`), whose name follows from that of the field.
-/

namespace Bringup

open Calibration

/-- The constants that hold the shape of the memory. -/
def Defines.shapeNames : List String :=
  ["RW_MGR_MEM_DQ_PER_READ_DQS", "RW_MGR_MEM_DQ_PER_WRITE_DQS",
    "RW_MGR_MEM_VIRTUAL_GROUPS_PER_READ_DQS", "RW_MGR_MEM_DATA_WIDTH", "RW_MGR_MEM_DATA_MASK_WIDTH",
    "RW_MGR_MEM_IF_READ_DQS_WIDTH", "AFI_RATE_RATIO", "AFI_CLK_FREQ"]

/-- The constants that must not be zero. -/
def Defines.divisorNames : List String :=
  ["RW_MGR_MEM_VIRTUAL_GROUPS_PER_READ_DQS", "AFI_RATE_RATIO", "AFI_CLK_FREQ"]

/-- A table holds all constants that settings need, with values that can be used. -/
structure Defines.Complete (defines : Defines) : Prop where
  nonempty : defines.bindings ≠ []
  /-- The clock has a whole number of megahertz and a period of at least one picosecond. -/
  frequency : ∃ frequency, defines.get? "AFI_CLK_FREQ" = some frequency ∧
    1 ≤ frequency.toNat ∧ frequency.toNat ≤ 1000000
  bases : ∀ name ∈ ["SEQUENCER_PHY_MGR_INST_BASE", "SEQUENCER_RW_MGR_INST_BASE"],
    ∃ base, defines.get? name = some base
  shape : ∀ name ∈ Defines.shapeNames, ∃ value, defines.get? name = some value
  divisors : ∀ name ∈ Defines.divisorNames, defines.get? name ≠ some 0
  protocol : ["DDR2", "DDR3", "LPDDR2"].countP defines.flag = 1
  width : ["M10_DQ_WIDTH_8", "M10_DQ_WIDTH_16", "M10_DQ_WIDTH_24"].countP defines.flag = 1

/-- A constant that is bound can be required. -/
theorem Defines.require_of_get? {defines : Defines} {name : String} {value : UInt32}
    (bound : defines.get? name = some value) : defines.require name = .ok value := by
  rw [require, bound]

/-- A constant that is bound to something other than zero can be required as a divisor. -/
theorem Defines.requireNonzero_of_get? {defines : Defines} {name : String} {value : UInt32}
    (bound : defines.get? name = some value) (nonzero : value ≠ 0) :
    defines.requireNonzero name = .ok value := by
  rw [requireNonzero, require_of_get? bound]
  exact if_neg nonzero

namespace Settings

variable {defines : Defines} {settings : Settings}

/-- One protocol is chosen exactly if one of the three constants is not zero. -/
theorem protocolOf_eq_ok_iff (defines : Defines) :
    (∃ protocol, protocolOf defines = .ok protocol) ↔
      ["DDR2", "DDR3", "LPDDR2"].countP defines.flag = 1 := by
  unfold protocolOf
  cases second : defines.flag "DDR2" <;> cases third : defines.flag "DDR3" <;>
    cases low : defines.flag "LPDDR2" <;> simp [second, third, low]

/-- One width is chosen exactly if one of the three constants is not zero. -/
theorem groupsOf_eq_ok_iff (defines : Defines) :
    (∃ groups, groupsOf defines = .ok groups) ↔
      ["M10_DQ_WIDTH_8", "M10_DQ_WIDTH_16", "M10_DQ_WIDTH_24"].countP defines.flag = 1 := by
  unfold groupsOf
  cases narrow : defines.flag "M10_DQ_WIDTH_8" <;> cases middle : defines.flag "M10_DQ_WIDTH_16" <;>
    cases wide : defines.flag "M10_DQ_WIDTH_24" <;> simp [narrow, middle, wide]

/-- The shape of the memory is what the constants of all dimensions hold. -/
theorem shapeNames_eq : Defines.shapeNames = Dimension.all.map Dimension.constant := rfl

/-- The divisors are the dimensions that are checked as such. -/
theorem divisorNames_eq :
    Defines.divisorNames = (Dimension.all.filter Dimension.isDivisor).map Dimension.constant := rfl

/-- Of a complete table, every dimension can be read. -/
theorem read_of_complete (complete : defines.Complete) (dimension : Dimension) :
    ∃ value, dimension.read defines = .ok value := by
  have shaped : dimension.constant ∈ Defines.shapeNames := by
    rw [shapeNames_eq]
    exact List.mem_map_of_mem dimension.mem_all
  obtain ⟨value, bound⟩ := complete.shape _ shaped
  refine ⟨value, ?_⟩
  rw [Dimension.read]
  split
  · next divisor =>
    have divides : dimension.constant ∈ Defines.divisorNames := by
      rw [divisorNames_eq]
      exact List.mem_map_of_mem (List.mem_filter.2 ⟨dimension.mem_all, divisor⟩)
    have nonzero : value ≠ 0 := by
      rintro rfl
      exact complete.divisors _ divides bound
    exact Defines.requireNonzero_of_get? bound nonzero
  · exact Defines.require_of_get? bound

/-- Where every dimension can be read, all can be read in order. -/
theorem readDimensions_of_read (readable : ∀ dimension : Dimension,
    ∃ value, dimension.read defines = .ok value) (dimensions : List Dimension) :
    ∃ table, readDimensions defines dimensions = .ok table := by
  induction dimensions with
  | nil => exact ⟨[], rfl⟩
  | cons dimension rest ih =>
    obtain ⟨value, read⟩ := readable dimension
    obtain ⟨table, others⟩ := ih
    refine ⟨(dimension, value) :: table, ?_⟩
    rw [readDimensions, read, others]
    rfl

/-- A complete table passes inspection. -/
theorem inspected_of_complete (complete : defines.Complete) : inspect defines = .ok () := by
  obtain ⟨frequency, bound, positive, slow⟩ := complete.frequency
  have filled : defines.isEmpty ≠ true := by
    simpa [Defines.isEmpty] using complete.nonempty
  have nonzero : frequency ≠ 0 := by
    rintro rfl
    exact absurd positive (by decide)
  have needed : defines.requireNonzero Dimension.afiClockFrequency.constant = .ok frequency :=
    Defines.requireNonzero_of_get? bound nonzero
  have bounded : ¬maxFrequency < frequency := Nat.not_lt.2 slow
  rw [inspect, if_neg filled, needed]
  dsimp only [needing, Except.mapError, bind, Except.bind]
  rw [if_neg bounded]
  rfl

/-- From a complete table, settings are made. -/
theorem generated_of_complete (complete : defines.Complete) :
    ∃ settings, generate defines = .ok settings := by
  obtain ⟨phyManager, phy⟩ := complete.bases "SEQUENCER_PHY_MGR_INST_BASE" (by simp)
  obtain ⟨rwManager, rw⟩ := complete.bases "SEQUENCER_RW_MGR_INST_BASE" (by simp)
  obtain ⟨table, read⟩ := readDimensions_of_read (read_of_complete complete) Dimension.all
  obtain ⟨protocol, spoken⟩ := (protocolOf_eq_ok_iff defines).2 complete.protocol
  obtain ⟨groups, formed⟩ := (groupsOf_eq_ok_iff defines).2 complete.width
  rw [generate, Defines.require_of_get? phy, Defines.require_of_get? rw, read, spoken, formed]
  exact ⟨_, rfl⟩

/-- A complete table gives settings. -/
theorem accepted_of_complete (complete : defines.Complete) :
    ∃ settings, ofDefines defines = .ok settings := by
  obtain ⟨settings, generated⟩ := generated_of_complete complete
  refine ⟨settings, ?_⟩
  rw [ofDefines, inspected_of_complete complete]
  exact generated

/-- A table that gives settings is complete. -/
theorem complete_of_accepted (accepted : ofDefines defines = .ok settings) : defines.Complete := by
  have given := readFrom accepted
  obtain ⟨bound, slow⟩ := geometry_eq accepted
  obtain ⟨clock, unstopped⟩ := bound .afiClockFrequency
  have positive : 1 ≤ (settings.geometry .afiClockFrequency).toNat := by
    have nonzero : settings.geometry .afiClockFrequency ≠ 0 := unstopped rfl
    have number : (settings.geometry .afiClockFrequency).toNat ≠ 0 := fun zero =>
      nonzero (UInt32.toNat_inj.1 zero)
    omega
  refine ⟨?_, ⟨_, clock, positive, slow⟩, ?_, ?_, ?_, ?_, ?_⟩
  · intro empty
    rw [Defines.get?, empty] at clock
    cases clock
  · intro name among
    simp only [List.mem_cons, List.not_mem_nil, or_false] at among
    rcases among with rfl | rfl
    · exact ⟨_, Defines.get?_of_require given.phyManager⟩
    · exact ⟨_, Defines.get?_of_require given.rwManager⟩
  · intro name among
    rw [shapeNames_eq] at among
    obtain ⟨dimension, -, rfl⟩ := List.mem_map.1 among
    exact ⟨_, (bound dimension).1⟩
  · intro name among zero
    rw [divisorNames_eq] at among
    obtain ⟨dimension, checked, rfl⟩ := List.mem_map.1 among
    obtain ⟨-, divisor⟩ := List.mem_filter.1 checked
    obtain ⟨value, nonzero⟩ := bound dimension
    exact nonzero divisor (Option.some.inj (value.symm.trans zero))
  · exact (protocolOf_eq_ok_iff defines).1 ⟨_, given.protocol⟩
  · exact (groupsOf_eq_ok_iff defines).1 ⟨_, given.groups⟩

/-- Headers give settings exactly if their table is complete. -/
theorem accepted_iff_complete (defines : Defines) :
    (∃ settings, ofDefines defines = .ok settings) ↔ defines.Complete :=
  ⟨fun ⟨_, accepted⟩ => complete_of_accepted accepted, accepted_of_complete⟩

instance (defines : Defines) : Decidable defines.Complete :=
  decidable_of_iff ((ofDefines defines).toOption.isSome = true) <| by
    rw [← accepted_iff_complete]
    cases ofDefines defines with
    | ok settings => exact ⟨fun _ => ⟨settings, rfl⟩, fun _ => rfl⟩
    | error error => exact ⟨nofun, nofun⟩

/-- A text in capital letters. -/
def inCapitals (text : List Char) : List Char := text.map Char.toUpper

/-- The constant of a field that holds a program: the name of the field in capital letters behind a
mark. The part that says that the entry lies in a loop keeps its letters. -/
def programName (field : String) : String :=
  let parts := (field.toList.splitOn '_').map fun part =>
    if part = "inloop".toList then part else inCapitals part
  "__RW_MGR_" ++ String.ofList (['_'].intercalate parts)

/-- The constant of a field that holds a dimension: the name of the field in capital letters, behind
a mark unless the controller's clock is meant. The strobes of the interface have a mark of their
own. -/
def dimensionName (field : String) : String :=
  let capitals := String.ofList (inCapitals field.toList)
  if "afi_".toList.isPrefixOf field.toList then capitals
  else if field = "read_dqs_width" then "RW_MGR_MEM_IF_" ++ capitals
  else "RW_MGR_MEM_" ++ capitals

/-- The constant of every program is named for its field. -/
theorem constant_program (program : RomProgram) : program.constant = programName program.field := by
  cases program <;> decide +kernel

/-- The constant of every dimension is named for its field. -/
theorem constant_dimension (dimension : Dimension) :
    dimension.constant = dimensionName dimension.field := by
  cases dimension <;> decide +kernel

/-- The fields of a configuration, in order. -/
def paths : List (List String) :=
  (["phy_mgr", "rw_mgr", "pll_mgr"].map (["layout", ·])) ++
    ((RomProgram.all.filter (· ∉ waitPrograms)).map (["rom", ·.field])) ++
    [["rom", "guaranteed_write_wait"]] ++ Dimension.all.map (["geometry", ·.field]) ++
    [["protocol"], ["groups"]]

/-- A text, read back, says of every field of a configuration what the table of constants binds for
it. -/
structure Emitted (defines : Defines) (text : String) : Prop where
  /-- Every field is there once, and no others. -/
  paths : (fields text).map Prod.fst = paths.map (constantName :: ·)
  phyManager : wordAt text ["layout", "phy_mgr"] = defines.get? "SEQUENCER_PHY_MGR_INST_BASE"
  rwManager : wordAt text ["layout", "rw_mgr"] = defines.get? "SEQUENCER_RW_MGR_INST_BASE"
  pllManager : wordAt text ["layout", "pll_mgr"] =
    some ((defines.get? "BASE_PLL_MGR").getD 0x58000)
  programs : ∀ program ∉ waitPrograms, wordAt text ["rom", program.field] =
    some ((defines.get? (programName program.field)).getD 0)
  waits : wordsAt text ["rom", "guaranteed_write_wait"] =
    some (["0", "1", "2", "3"].map fun number =>
      (defines.get? ("__RW_MGR_GUARANTEED_WRITE_WAIT" ++ number)).getD 0)
  geometry : ∀ dimension : Dimension, wordAt text ["geometry", dimension.field] =
    defines.get? (dimensionName dimension.field)
  protocol : ∀ name ∈ ["Ddr2", "Ddr3", "Lpddr2"],
    (fieldAt text ["protocol"] = some ("Protocol::" ++ name) ↔
      defines.flag (String.ofList (inCapitals name.toList)) = true)
  narrow : fieldAt text ["groups"] = some "GroupLayout::X8" ↔ defines.flag "M10_DQ_WIDTH_8" = true
  middle : ∀ two : Bool,
    (fieldAt text ["groups"] =
        some ("GroupLayout::X16 \x7b two_capture_clocks: " ++ toString two ++ " \x7d") ↔
      defines.flag "M10_DQ_WIDTH_16" = true ∧ defines.flag "TW0_CAPTURE_CLOCKS" = two)
  wide : fieldAt text ["groups"] = some "GroupLayout::X24" ↔ defines.flag "M10_DQ_WIDTH_24" = true

/-- In a table without repeated keys, an entry is found by its key. -/
theorem lookup_of_mem {α β : Type} [BEq α] [LawfulBEq α] {table : List (α × β)} {key : α}
    {value : β} (distinct : (table.map Prod.fst).Nodup) (among : (key, value) ∈ table) :
    table.lookup key = some value := by
  induction table with
  | nil => cases among
  | cons entry table ih =>
    rw [List.map_cons, List.nodup_cons] at distinct
    rcases List.mem_cons.1 among with rfl | later
    · exact List.lookup_cons_self
    · have other : (key == entry.1) = false :=
        beq_false_of_ne fun same => distinct.1 (same ▸ List.mem_map_of_mem later)
      rw [List.lookup_cons, other]
      exact ih distinct.2 later

/-- The fields of the text are those of a configuration. -/
theorem paths_written (settings : Settings) :
    settings.written.map Prod.fst = paths.map (constantName :: ·) := rfl

/-- A field of the text is found by its path. -/
theorem fieldAt_render {path : List String} {value : String}
    (among : (constantName :: path, value) ∈ settings.written) :
    fieldAt settings.render path = some value := by
  have distinct : (settings.written.map Prod.fst).Nodup := by
    rw [paths_written]
    decide +kernel
  rw [fieldAt, fields_render]
  exact lookup_of_mem distinct among

/-- The protocol that is chosen is the one whose constant is not zero. -/
theorem flag_protocol {protocol : Protocol} (chosen : protocolOf defines = .ok protocol)
    (other : Protocol) : defines.flag other.name = true ↔ other = protocol := by
  unfold protocolOf at chosen
  split at chosen
  · next second third low =>
    cases chosen
    cases other <;> simp [Protocol.name, second, third, low]
  · next second third low =>
    cases chosen
    cases other <;> simp [Protocol.name, second, third, low]
  · next second third low =>
    cases chosen
    cases other <;> simp [Protocol.name, second, third, low]
  · cases chosen

/-- Different protocols have different names in the text. -/
theorem protocolText_inj {left right : Protocol} :
    protocolText left = protocolText right ↔ left = right := by
  refine ⟨fun same => ?_, congrArg protocolText⟩
  cases left <;> cases right <;> first | rfl | exact absurd same (by decide)

/-- The names of the protocols in the text are those of their constants, but for capital letters. -/
theorem protocol_named : ∀ name ∈ ["Ddr2", "Ddr3", "Lpddr2"], ∃ protocol : Protocol,
    "Protocol::" ++ name = protocolText protocol ∧
      String.ofList (inCapitals name.toList) = protocol.name := by
  simp only [List.mem_cons, List.not_mem_nil, or_false]
  rintro name (rfl | rfl | rfl)
  · exact ⟨.ddr2, by decide +kernel, by decide +kernel⟩
  · exact ⟨.ddr3, by decide +kernel, by decide +kernel⟩
  · exact ⟨.lpddr2, by decide +kernel, by decide +kernel⟩

/-- Different group layouts have different texts. -/
theorem groupsText_inj {left right : GroupLayout} :
    groupsText left = groupsText right ↔ left = right := by
  refine ⟨fun same => ?_, congrArg groupsText⟩
  rcases left with _ | (_ | _) | _ <;> rcases right with _ | (_ | _) | _ <;>
    first | rfl | exact absurd same (by decide)

/-- The width that is chosen is the one whose constant is not zero. -/
theorem flag_groups {groups : GroupLayout} (chosen : groupsOf defines = .ok groups) :
    (groups = .x8 ↔ defines.flag "M10_DQ_WIDTH_8" = true) ∧
    (∀ two, groups = .x16 two ↔
      defines.flag "M10_DQ_WIDTH_16" = true ∧ defines.flag "TW0_CAPTURE_CLOCKS" = two) ∧
    (groups = .x24 ↔ defines.flag "M10_DQ_WIDTH_24" = true) := by
  unfold groupsOf at chosen
  split at chosen
  · next narrow middle wide =>
    cases chosen
    simp [narrow, middle, wide]
  · next narrow middle wide =>
    cases chosen
    simp [narrow, middle, wide]
  · next narrow middle wide =>
    cases chosen
    simp [narrow, middle, wide]
  · cases chosen

/-- A program is among the fields of the text. -/
theorem program_written (settings : Settings) {program : RomProgram}
    (named : program ∉ waitPrograms) :
    ([constantName, "rom", program.field], wordText (settings.programs program)) ∈
      settings.written := by
  have kept : program ∈ RomProgram.all.filter (· ∉ waitPrograms) :=
    List.mem_filter.2 ⟨program.mem_all, decide_eq_true named⟩
  have held : (program.field, wordText (settings.programs program)) ∈ settings.romFields :=
    List.mem_append_left _ (List.mem_map.2 ⟨program, kept, rfl⟩)
  simp only [written, List.mem_append]
  exact .inl (.inl (.inr (List.mem_map.2 ⟨_, held, rfl⟩)))

/-- A dimension is among the fields of the text. -/
theorem dimension_written (settings : Settings) (dimension : Dimension) :
    ([constantName, "geometry", dimension.field],
      Text.decimal (settings.geometry dimension).toNat) ∈ settings.written := by
  have held : (dimension.field, Text.decimal (settings.geometry dimension).toNat) ∈
      settings.geometryFields := List.mem_map.2 ⟨dimension, dimension.mem_all, rfl⟩
  simp only [written, List.mem_append]
  exact .inl (.inr (List.mem_map.2 ⟨_, held, rfl⟩))

/-- A word that is among the fields of the text is read back. -/
theorem wordAt_render {path : List String} {value : String} {word : UInt32}
    (among : (constantName :: path, value) ∈ settings.written) (read : wordOf? value = some word) :
    wordAt settings.render path = some word := by
  rw [wordAt, fieldAt_render among]
  exact read

/-- The text of the settings that a table gives says what the table binds. -/
theorem emitted_render (accepted : ofDefines defines = .ok settings) :
    Emitted defines settings.render := by
  have given := readFrom accepted
  obtain ⟨bound, -⟩ := geometry_eq accepted
  have spoken : fieldAt settings.render ["protocol"] = some (protocolText settings.protocol) :=
    fieldAt_render (by simp [written, choiceFields])
  have formed : fieldAt settings.render ["groups"] = some (groupsText settings.groups) :=
    fieldAt_render (by simp [written, choiceFields])
  obtain ⟨narrow, middle, wide⟩ := flag_groups given.groups
  constructor
  case paths =>
    rw [fields_render]
    exact paths_written settings
  case phyManager =>
    rw [Defines.get?_of_require given.phyManager]
    exact wordAt_render (by simp [written, layoutFields]) (wordOf?_wordText _)
  case rwManager =>
    rw [Defines.get?_of_require given.rwManager]
    exact wordAt_render (by simp [written, layoutFields]) (wordOf?_wordText _)
  case pllManager =>
    rw [← given.pllManager]
    exact wordAt_render (by simp [written, layoutFields]) (wordOf?_pllText _)
  case programs =>
    intro program named
    rw [← constant_program, ← given.programs]
    exact wordAt_render (program_written settings named) (wordOf?_wordText _)
  case waits =>
    have held : fieldAt settings.render ["rom", "guaranteed_write_wait"] =
        some ("[" ++ ", ".intercalate ((waitPrograms.map settings.programs).map wordText) ++ "]") :=
      fieldAt_render (by simp [written, romFields])
    have entries : waitPrograms.map settings.programs = ["0", "1", "2", "3"].map fun number =>
        (defines.get? ("__RW_MGR_GUARANTEED_WRITE_WAIT" ++ number)).getD 0 := by
      simp only [waitPrograms, List.map_cons, List.map_nil, given.programs]
      rfl
    rw [wordsAt, held, Option.bind_some, wordsOf?_wordTexts (by simp [waitPrograms]), entries]
  case geometry =>
    intro dimension
    rw [← constant_dimension, (bound dimension).1]
    exact wordAt_render (dimension_written settings dimension) (wordOf?_decimal _)
  case protocol =>
    intro name among
    obtain ⟨protocol, text, constant⟩ := protocol_named name among
    rw [spoken, text, constant, flag_protocol given.protocol, Option.some_inj, protocolText_inj,
      eq_comm]
  case narrow =>
    have text : "GroupLayout::X8" = groupsText .x8 := rfl
    rw [formed, ← narrow, Option.some_inj, text, groupsText_inj]
  case middle =>
    intro two
    have text : "GroupLayout::X16 \x7b two_capture_clocks: " ++ toString two ++ " \x7d" =
        groupsText (.x16 two) := by
      cases two <;> decide
    rw [formed, ← middle two, Option.some_inj, text, groupsText_inj]
  case wide =>
    have text : "GroupLayout::X24" = groupsText .x24 := rfl
    rw [formed, ← wide, Option.some_inj, text, groupsText_inj]

end Settings

end Bringup
