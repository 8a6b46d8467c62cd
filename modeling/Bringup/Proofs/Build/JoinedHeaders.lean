import Bringup.Proofs.Build.AllOrNothing
/-!
# Headers may be split over files

A script that is given several headers merges their tables one by one, in the order in which the
headers are named. What it gets is the table of a single header that holds their texts one behind
the other (`splitting_unseen`).
-/

namespace Bringup.Build

open Defines

/-- The table of some headers is that of their texts with a line feed between any two of them. -/
theorem tableOf_eq_parse (texts : List String) :
    tableOf texts = parse ("\n".intercalate texts) := by
  rw [parse_intercalate, List.foldl_map, tableOf]

/-- Splitting headers over files changes nothing. A text with a line feed between two parts binds
what the parts bind, merged. Merging is associative, an empty table is its identity, and a table
that is merged into itself agrees with what it was. Of some merged tables, the last that binds a
name decides about it. So the headers of a script, where all of them can be read, give the table of
their texts with a line feed between any two of them. -/
theorem splitting_unseen :
    (∀ front back : String, parse (front ++ "\n" ++ back) = (parse front).merge (parse back)) ∧
    (∀ first second third : Defines,
      (first.merge second).merge third = first.merge (second.merge third)) ∧
    (∀ table : Defines, empty.merge table = table ∧ table.merge empty = table ∧
      (table.merge table).agrees table = true) ∧
    (∀ (tables : List Defines) (name : String) (value : UInt32),
      (tables.foldl merge empty).get? name = some value ↔ ∃ front table back,
        tables = front ++ table :: back ∧ table.get? name = some value ∧
        ∀ later ∈ back, later.get? name = none) ∧
    ∀ (environment : Environment) (files : FileTree) (directory : String) (texts : List String)
      (printed : Array String),
      (headerPaths environment directory).map files.readText = texts.map .ok →
        ∃ lines, headers environment files directory printed =
          .ok (parse ("\n".intercalate texts)) lines := by
  refine ⟨parse_joined, merge_assoc,
    fun table => ⟨empty_merge table, merge_empty table, merge_self_agrees table⟩,
    get?_foldl_merge, fun environment files directory texts printed readable => ?_⟩
  rw [← tableOf_eq_parse]
  exact headers_of_readable readable printed

/-- The two headers of the system give the table of their texts in one. The later of them decides
about the clock. -/
theorem sampleHeaders_joined :
    (headerPaths sampleEnvironment "calibrator").map sampleFiles.readText = sampleTexts.map .ok ∧
      ∃ lines, headers sampleEnvironment sampleFiles "calibrator" #[] =
        .ok (parse ("\n".intercalate sampleTexts)) lines ∧
      (parse ("\n".intercalate sampleTexts)).get? "AFI_CLK_FREQ" = some 150 := by
  have readable := sample_ready.readable
  obtain ⟨lines, read⟩ := splitting_unseen.2.2.2.2 sampleEnvironment sampleFiles "calibrator"
    sampleTexts #[] readable
  refine ⟨readable, lines, read, ?_⟩
  rw [← tableOf_eq_parse]
  simp only [tableOf, sampleTexts, List.foldl_cons, List.foldl_nil, parse_headerOf]
  decide +kernel

end Bringup.Build
