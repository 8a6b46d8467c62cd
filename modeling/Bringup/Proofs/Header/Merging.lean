import Bringup.Header.Defines
/-!
# Merged headers

Tables of constants are merged in the order in which they were read. How the merges are bracketed
does not matter, and of each name the last table that binds it decides (`get?_foldl_merge`). Reading
a text is no different: a text that is cut at a line feed binds what its parts bind, merged
(`parse_joined`). A carriage return before the cut stays with the first part, but it is a blank and
changes no word (`binding?_dropReturn`).
-/

namespace Bringup

namespace Text

/-- A blank at the end of a text makes no word and changes none. -/
theorem wordsFrom_append_blank {c : Char} (blank : isBlank c = true) (word text : List Char) :
    wordsFrom word (text ++ [c]) = wordsFrom word text := by
  induction text generalizing word with
  | nil => simp [wordsFrom, blank]
  | cons first text ih =>
    rw [List.cons_append, wordsFrom, wordsFrom]
    simp only [ih]

end Text

namespace Defines

open Text

/-- Two tables agree exactly if every name has the same value in both. -/
theorem agrees_iff (left right : Defines) :
    left.agrees right = true ↔ ∀ name, left.get? name = right.get? name := by
  have unbound {table : Defines} {name : String} (absent : name ∉ table.names) :
      table.get? name = none := by
    rw [names, List.mem_eraseDups, List.mem_map] at absent
    refine List.lookup_eq_none_iff.2 fun binding among => ?_
    rw [bne_iff_ne]
    rintro rfl
    exact absent ⟨binding, among, rfl⟩
  rw [agrees, List.all_eq_true]
  constructor
  · intro same name
    by_cases bound : name ∈ left.names ++ right.names
    · exact beq_iff_eq.1 (same name bound)
    · rw [List.mem_append, not_or] at bound
      rw [unbound bound.1, unbound bound.2]
  · intro same name _
    exact beq_iff_eq.2 (same name)

/-- How merges are bracketed does not matter. -/
theorem merge_assoc (first second third : Defines) :
    (first.merge second).merge third = first.merge (second.merge third) := by
  rw [merge, merge, merge, merge, List.append_assoc]

/-- Nothing is added by an empty table. -/
@[simp] theorem merge_empty (table : Defines) : table.merge empty = table := rfl

/-- Nothing is added to an empty table but what is merged into it. -/
@[simp] theorem empty_merge (table : Defines) : empty.merge table = table := by
  rw [merge, empty, List.append_nil]

/-- A table that is merged into itself binds what it did. -/
theorem merge_self_agrees (table : Defines) : (table.merge table).agrees table = true := by
  rw [agrees_iff]
  intro name
  rw [get?_merge, Option.or_self]

/-- Tables that are merged one after the other are merged at once. -/
theorem foldl_merge (start : Defines) (tables : List Defines) :
    tables.foldl merge start = start.merge (tables.foldl merge empty) := by
  induction tables generalizing start with
  | nil => rfl
  | cons table tables ih =>
    rw [List.foldl_cons, List.foldl_cons, ih, ih (empty.merge table), empty_merge, merge_assoc]

/-- The last of some tables that binds a name decides about it. -/
theorem get?_foldl_merge (tables : List Defines) (name : String) (value : UInt32) :
    (tables.foldl merge empty).get? name = some value ↔ ∃ front table back,
      tables = front ++ table :: back ∧ table.get? name = some value ∧
      ∀ later ∈ back, later.get? name = none := by
  have searched : (tables.foldl merge empty).get? name =
      tables.reverse.findSome? fun table => table.get? name := by
    induction tables with
    | nil => rfl
    | cons table tables ih =>
      rw [List.foldl_cons, empty_merge, foldl_merge, get?_merge, ih, List.reverse_cons,
        List.findSome?_append, List.findSome?_singleton]
  rw [searched, List.findSome?_eq_some_iff]
  constructor
  · rintro ⟨back, table, front, reversed, bound, last⟩
    refine ⟨front.reverse, table, back.reverse, ?_, bound, fun later among => ?_⟩
    · rw [← List.reverse_reverse tables, reversed, List.reverse_append, List.reverse_cons,
        List.append_assoc, List.singleton_append]
    · exact last later (List.mem_reverse.1 among)
  · rintro ⟨front, table, back, rfl, bound, last⟩
    refine ⟨back.reverse, table, front.reverse, ?_, bound, fun later among => ?_⟩
    · rw [List.reverse_append, List.reverse_cons, List.append_assoc, List.singleton_append]
    · exact last later (List.mem_reverse.1 among)

/-- What a line binds depends on its words alone. -/
theorem binding?_congr {line other : List Char} (same : words line = words other) :
    binding? line = binding? other := by
  rw [binding?, binding?, same]

/-- A line binds the same with and without a carriage return at its end. -/
theorem binding?_dropReturn (line : List Char) :
    binding? (dropReturn line).reverse = binding? line.reverse := by
  unfold dropReturn
  split
  · next front =>
    apply binding?_congr
    rw [List.reverse_cons, words, words, wordsFrom_append_blank (by decide)]
  · rfl

/-- A line without an end, as the last of a text, binds what it does with a line feed behind it. -/
theorem bindings_last (begun : List Char) :
    (linesFrom begun []).filterMap binding? =
      [(dropReturn begun).reverse].filterMap binding? := by
  cases begun with
  | nil => rfl
  | cons c begun =>
    rw [List.filterMap_cons, binding?_dropReturn, ← List.filterMap_cons]
    rfl

/-- The lines before and behind a line feed bind what the lines of the whole text bind. -/
theorem bindings_joined (begun front back : List Char) :
    (linesFrom begun (front ++ '\n' :: back)).filterMap binding? =
      (linesFrom begun front).filterMap binding? ++ (lines back).filterMap binding? := by
  induction front generalizing begun with
  | nil =>
    have cut : linesFrom begun ('\n' :: back) = [(dropReturn begun).reverse] ++ lines back := rfl
    rw [List.nil_append, cut, List.filterMap_append, bindings_last]
  | cons c front ih =>
    rw [List.cons_append, linesFrom, linesFrom]
    split
    · rw [List.filterMap_cons, List.filterMap_cons, ih]
      split <;> rfl
    · exact ih (c :: begun)

/-- A text that is cut at a line feed binds what its parts bind, merged. -/
theorem parse_joined (front back : String) :
    parse (front ++ "\n" ++ back) = (parse front).merge (parse back) := by
  have text : (front ++ "\n" ++ back).toList = front.toList ++ '\n' :: back.toList := by
    rw [String.toList_append, String.toList_append, List.append_assoc]
    rfl
  rw [parse, parse, parse, merge, text, lines, bindings_joined, List.reverse_append]
  rfl

/-- Texts with a line feed between any two of them bind what they bind one by one, merged in order.
-/
theorem parse_intercalate (texts : List String) :
    parse ("\n".intercalate texts) = (texts.map parse).foldl merge empty := by
  induction texts with
  | nil => rfl
  | cons text texts ih =>
    rw [List.map_cons, List.foldl_cons, empty_merge, foldl_merge, ← ih]
    cases texts with
    | nil => rfl
    | cons next texts => rw [String.intercalate_cons_cons, parse_joined]

end Defines

end Bringup
