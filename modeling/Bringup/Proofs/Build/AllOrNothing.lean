import Bringup.Build.Script
import Bringup.Proofs.Action
import Bringup.Proofs.Files.Written
import Bringup.Proofs.Header.Completeness
import Bringup.Proofs.Header.Merging
/-!
# The calibrator's script writes whole settings or none

Where its variables are set, its headers can be read and its directory can be written to, the script
of the calibrator depends on nothing but the table of constants that the headers bind
(`run_calibrator`). It writes the settings if the table is complete; otherwise it gives up and
leaves the tree of files as it was. What it has written says of every field what the table binds
(`calibrator_all_or_nothing`).
-/

namespace Bringup.Build

/-- The paths of the headers: those named in the environment, or the one in the directory of the
script. -/
def headerPaths (environment : Environment) (directory : String) : List String :=
  match environment.lookup "SEQUENCER_DEFINES" with
  | some paths => paths.splitOn ":"
  | none => [Path.join directory "sequencer_defines.h"]

/-- The constants that headers bind, the later ones in front. -/
def tableOf (texts : List String) : Defines :=
  texts.foldl (fun table text => table.merge (Defines.parse text)) .empty

/-- Where the settings are written. -/
def settingsPath (out : String) : String := Path.join out settingsFile

/-- Nothing but the headers' texts can keep the script of the calibrator from its end. -/
structure Ready (environment : Environment) (files : FileTree) (directory out : String)
    (texts : List String) : Prop where
  manifest : environment.lookup "CARGO_MANIFEST_DIR" = some directory
  output : environment.lookup "OUT_DIR" = some out
  readable : (headerPaths environment directory).map files.readText = texts.map .ok
  writable : ∀ content, ∃ after, files.write (settingsPath out) content = .ok after

variable {environment : Environment} {files : FileTree} {directory out : String}
  {texts : List String} {α : Type}

/-- A directive is printed, and the script goes on. -/
theorem directive_printed (name value : String) (printed : Array String) :
    ∃ lines, directive name value printed = .ok () lines := ⟨_, rfl⟩

/-- A variable that is set has its value. -/
theorem variableOf_of_lookup {name value : String} (set : environment.lookup name = some value)
    (printed : Array String) : variableOf environment name printed = .ok value printed := by
  rw [variableOf, set]
  rfl

/-- Headers that can be read are merged in order. -/
theorem readHeaders_of_readable {paths : List String}
    (readable : paths.map files.readText = texts.map .ok) (table : Defines)
    (printed : Array String) :
    ∃ lines, readHeaders files table paths printed =
      .ok (texts.foldl (fun table text => table.merge (Defines.parse text)) table) lines := by
  induction paths generalizing texts table printed with
  | nil =>
    obtain rfl : texts = [] := List.map_eq_nil_iff.1 readable.symm
    exact ⟨printed, rfl⟩
  | cons path paths ih =>
    cases texts with
    | nil => cases readable
    | cons text texts =>
      rw [List.map_cons, List.map_cons, List.cons.injEq] at readable
      obtain ⟨read, others⟩ := readable
      obtain ⟨middle, watched⟩ := directive_printed "rerun-if-changed" path printed
      obtain ⟨lines, ran⟩ := ih others (table.merge (Defines.parse text)) middle
      refine ⟨lines, ?_⟩
      rw [readHeaders, watchFile, Action.bind_ok watched, read]
      exact ran

/-- A single header is merged into an empty table. -/
theorem tableOf_single (text : String) : tableOf [text] = Defines.parse text :=
  Defines.empty_merge (Defines.parse text)

/-- The script gets the table of its headers. -/
theorem headers_of_readable
    (readable : (headerPaths environment directory).map files.readText = texts.map .ok)
    (printed : Array String) :
    ∃ lines, headers environment files directory printed = .ok (tableOf texts) lines := by
  obtain ⟨middle, watched⟩ := directive_printed "rerun-if-env-changed" "SEQUENCER_DEFINES" printed
  rw [headers, watchVariable, Action.bind_ok watched]
  rw [headerPaths] at readable
  cases named : environment.lookup "SEQUENCER_DEFINES" with
  | some paths =>
    rw [named] at readable
    exact readHeaders_of_readable readable .empty middle
  | none =>
    rw [named] at readable
    obtain ⟨text, rfl⟩ : ∃ text, texts = [text] := by
      cases texts with
      | nil => cases readable
      | cons text texts =>
        rw [List.map_singleton, List.map_cons, List.cons.injEq] at readable
        rw [List.map_eq_nil_iff.1 readable.2.symm]
        exact ⟨text, rfl⟩
    have read : files.readText (Path.join directory "sequencer_defines.h") = .ok text :=
      (List.cons.inj readable).1
    obtain ⟨lines, listed⟩ := directive_printed "rerun-if-changed"
      (Path.join directory "sequencer_defines.h") middle
    dsimp only
    rw [watchFile, Action.bind_ok listed, read, tableOf_single]
    exact ⟨lines, rfl⟩

/-- The directives for the board support are printed. -/
theorem linkBoard_printed (directory : String) (printed : Array String) :
    ∃ lines, linkBoard directory printed = .ok () lines := ⟨_, rfl⟩

/-- A part that only prints leaves the files alone. -/
theorem printing_ok {part : Run α} {printed lines : Array String} {value : α}
    (ran : part printed = .ok value lines) (files : FileTree) :
    printing part ⟨files, printed⟩ = .ok value ⟨files, lines⟩ := by
  rw [printing, Part.run_ok]
  · rfl
  · exact ran

/-- Before it writes, the script leaves the files alone, and what it does depends on the table of
constants alone. -/
theorem run_calibrator (ready : Ready environment files directory out texts)
    (printed : Array String) : ∃ lines, run environment .calibrator ⟨files, printed⟩ =
      match Settings.ofDefines (tableOf texts) with
      | .ok settings =>
        writeFile (settingsPath out) (Text.utf8Bytes settings.render) ⟨files, lines⟩
      | .error error => .error (.settings error) ⟨files, lines⟩ := by
  obtain ⟨linked, links⟩ := linkBoard_printed directory printed
  obtain ⟨lines, read⟩ := headers_of_readable ready.readable linked
  have manifest := printing_ok (variableOf_of_lookup ready.manifest printed) files
  have output := printing_ok (variableOf_of_lookup ready.output lines) files
  have looked : (get : Work Workspace) ⟨files, linked⟩ = .ok ⟨files, linked⟩ ⟨files, linked⟩ := rfl
  refine ⟨lines, ?_⟩
  rw [run, Action.bind_ok manifest, Action.bind_ok (printing_ok links files),
    Action.bind_ok looked, Action.bind_ok (printing_ok read files), Settings.ofDefines]
  cases Settings.inspect (tableOf texts) with
  | error error => rfl
  | ok _ =>
    have passed : (settled (.ok ()) : Work Unit) ⟨files, lines⟩ = .ok () ⟨files, lines⟩ := rfl
    rw [Action.bind_ok passed, Action.bind_ok output]
    cases Settings.generate (tableOf texts) with
    | error error => rfl
    | ok settings => rfl

/-- The file of the settings has a name that leads on. -/
theorem settingsFile_names : Path.Names settingsFile where
  single := by
    rw [Path.components_eq]
    decide +kernel
  relative := by decide
  forward := by decide

/-- The script of the calibrator writes all settings or none. Where nothing but the texts of the
headers can keep it from its end, it comes to its end exactly if their table is complete. Otherwise
it gives up, and no file has changed. Where it comes to its end, it has written one text to the file
of the settings and nothing else. What is in this file, read back field by field, is for every field
what the table binds for the constant of this field: the usual base of the PLL manager where none is
bound, and zero for a program without a constant. -/
theorem calibrator_all_or_nothing (ready : Ready environment files directory out texts)
    (printed : Array String) :
    ((∃ after lines, run environment .calibrator ⟨files, printed⟩ = .ok () ⟨after, lines⟩) ↔
      (tableOf texts).Complete) ∧
    (¬(tableOf texts).Complete → ∃ error lines,
      run environment .calibrator ⟨files, printed⟩ = .error (.settings error) ⟨files, lines⟩) ∧
    ∀ after lines, run environment .calibrator ⟨files, printed⟩ = .ok () ⟨after, lines⟩ →
      ∃ text, files.write (settingsPath out) (Text.utf8Bytes text) = .ok after ∧
        after.readText (settingsPath out) = .ok text ∧
        Settings.Emitted (tableOf texts) text := by
  obtain ⟨lines, ran⟩ := run_calibrator ready printed
  rw [← Settings.accepted_iff_complete, ran]
  cases accepted : Settings.ofDefines (tableOf texts) with
  | error error =>
    refine ⟨⟨fun ended => ?_, fun given => ?_⟩, fun _ => ⟨error, lines, rfl⟩,
      fun after later ended => ?_⟩
    · obtain ⟨after, later, ended⟩ := ended
      cases ended
    · obtain ⟨settings, given⟩ := given
      cases given
    · cases ended
  | ok settings =>
    obtain ⟨written, stored⟩ := ready.writable (Text.utf8Bytes settings.render)
    have ends : writeFile (settingsPath out) (Text.utf8Bytes settings.render) ⟨files, lines⟩ =
        .ok () ⟨written, lines⟩ := by
      rw [writeFile, stored]
    dsimp only
    rw [ends]
    refine ⟨⟨fun _ => ⟨settings, rfl⟩, fun _ => ⟨written, lines, rfl⟩⟩,
      fun refused => absurd ⟨settings, rfl⟩ refused, fun after later ended => ?_⟩
    cases ended
    have read := FileTree.readText_of_write settingsFile_names stored
    exact ⟨settings.render, stored, read, Settings.emitted_render accepted⟩

/-- A header that binds constants. -/
def headerOf (constants : List (String × String)) : String :=
  String.join (constants.map fun constant => "#define " ++ constant.1 ++ " " ++ constant.2 ++ "\n")

/-- The constants that a header binds, from the characters of its lines. -/
theorem parse_headerOf (constants : List (String × String)) : Defines.parse (headerOf constants) =
    ⟨((Text.lines (constants.flatMap fun constant => "#define ".toList ++
      constant.1.toList ++ ' ' :: constant.2.toList ++ ['\n'])).filterMap
        Defines.binding?).reverse⟩ := by
  rw [Defines.parse, headerOf, String.toList_join, List.flatMap_map]
  simp

/-- The constants of a system with a DDR3 memory of sixteen bits, whose clock stands still. -/
def systemConstants : List (String × String) :=
  [("SEQUENCER_PHY_MGR_INST_BASE", "0x88000"), ("SEQUENCER_RW_MGR_INST_BASE", "(0x90000)"),
    ("DDR2", "0"), ("DDR3", "1"), ("M10_DQ_WIDTH_16", "1"), ("TW0_CAPTURE_CLOCKS", "1"),
    ("RW_MGR_MEM_DQ_PER_READ_DQS", "8"), ("RW_MGR_MEM_DQ_PER_WRITE_DQS", "8"),
    ("RW_MGR_MEM_VIRTUAL_GROUPS_PER_READ_DQS", "1"), ("RW_MGR_MEM_DATA_WIDTH", "16"),
    ("RW_MGR_MEM_DATA_MASK_WIDTH", "2"), ("RW_MGR_MEM_IF_READ_DQS_WIDTH", "2"),
    ("AFI_RATE_RATIO", "2U"), ("AFI_CLK_FREQ", "0")]

/-- The constants of a clock and of one program. -/
def clockConstants : List (String × String) := [("AFI_CLK_FREQ", "150"), ("__RW_MGR_MRS2", "0x04")]

/-- The headers of the system. -/
def sampleTexts : List String := [headerOf systemConstants, headerOf clockConstants]

/-- The variables that the script finds. -/
def sampleEnvironment : Environment :=
  [("CARGO_MANIFEST_DIR", "calibrator"), ("SEQUENCER_DEFINES", "system.h:clock.h"),
    ("OUT_DIR", "out")]

/-- The files that the script finds. The last makes a directory known. -/
def sampleFiles : FileTree where
  workingDirectory := []
  files :=
    [(["system.h"], Text.utf8Bytes (headerOf systemConstants)),
      (["clock.h"], Text.utf8Bytes (headerOf clockConstants)), (["out", ""], [])]

/-- The script can read the headers of the system and write its settings. -/
theorem sample_ready : Ready sampleEnvironment sampleFiles "calibrator" "out" sampleTexts where
  manifest := by decide
  output := by decide
  readable := by
    have listed : headerPaths sampleEnvironment "calibrator" = ["system.h", "clock.h"] := by
      have cut := Path.splitOnAux_mark ':' [] [] "system.h:clock.h".toList []
      simp only [List.nil_append, String.ofList_toList] at cut
      exact cut.trans (by decide +kernel)
    have system : sampleFiles.readText "system.h" = .ok (headerOf systemConstants) := by
      have parts : Path.components "system.h" = ["system.h"] := by
        rw [Path.components_eq]
        decide +kernel
      apply FileTree.readText_of_find
      rw [FileTree.find, parts]
      rfl
    have clock : sampleFiles.readText "clock.h" = .ok (headerOf clockConstants) := by
      have parts : Path.components "clock.h" = ["clock.h"] := by
        rw [Path.components_eq]
        decide +kernel
      apply FileTree.readText_of_find
      rw [FileTree.find, parts]
      rfl
    rw [listed, List.map_cons, List.map_singleton, system, clock]
    rfl
  writable := by
    intro content
    have parts : Path.components (settingsPath "out") = ["out", settingsFile] := by
      rw [Path.components_eq]
      decide +kernel
    rw [FileTree.write, parts]
    exact ⟨_, rfl⟩

/-- The script writes the settings of the system: the later header decides about the clock, the PLL
manager has its usual base, and a program that no header knows begins at zero. -/
theorem sample_written : Ready sampleEnvironment sampleFiles "calibrator" "out" sampleTexts ∧
    ∃ after lines text,
      run sampleEnvironment .calibrator ⟨sampleFiles, #[]⟩ = .ok () ⟨after, lines⟩ ∧
      after.readText (settingsPath "out") = .ok text ∧
      Settings.wordAt text ["geometry", "afi_clk_freq"] = some 150 ∧
      Settings.wordAt text ["layout", "pll_mgr"] = some 0x58000 ∧
      Settings.wordAt text ["rom", "mrs2"] = some 4 ∧
      Settings.wordAt text ["rom", "zqcl"] = some 0 := by
  have facts : (tableOf sampleTexts).Complete ∧
      (tableOf sampleTexts).get? (Settings.dimensionName "afi_clk_freq") = some 150 ∧
      (tableOf sampleTexts).get? "BASE_PLL_MGR" = none ∧
      (tableOf sampleTexts).get? (Settings.programName "mrs2") = some 4 ∧
      (tableOf sampleTexts).get? (Settings.programName "zqcl") = none := by
    simp only [tableOf, sampleTexts, List.foldl_cons, List.foldl_nil, parse_headerOf]
    decide +kernel
  obtain ⟨complete, clock, pll, known, unknown⟩ := facts
  obtain ⟨writes, -, holds⟩ := calibrator_all_or_nothing sample_ready #[]
  obtain ⟨after, lines, ran⟩ := writes.2 complete
  obtain ⟨text, -, read, emitted⟩ := holds after lines ran
  refine ⟨sample_ready, after, lines, text, ran, read, ?_, ?_, ?_, ?_⟩
  · have held := emitted.geometry .afiClockFrequency
    rwa [Calibration.Dimension.field, clock] at held
  · have held := emitted.pllManager
    rwa [pll] at held
  · have held := emitted.programs .mrs2 (by decide)
    rwa [Calibration.RomProgram.field, known] at held
  · have held := emitted.programs .zqcl (by decide)
    rwa [Calibration.RomProgram.field, unknown] at held

end Bringup.Build
