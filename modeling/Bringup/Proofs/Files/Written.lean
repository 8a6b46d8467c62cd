import Bringup.Proofs.Files.Paths
import Bringup.Proofs.Text.Utf8
/-!
# What was written is read

Writing a file leaves all directories in place on the way to it, because no place on this way can be
the file itself (`FileTree.walked_put`). So a text that was written under a name in a directory is
there afterwards (`FileTree.readText_of_write`).
-/

namespace Bringup

namespace Path

/-- A path that the system looks at: it holds no zero, is not empty and not too long. -/
structure Usable (path : String) : Prop where
  nonzero : path.toList.contains '\x00' ≠ true
  nonempty : path.isEmpty ≠ true
  short : ¬maxPath < (Text.utf8Bytes path).length

/-- The name of a file: one component that leads on. -/
structure Names (name : String) : Prop where
  single : components name = [name]
  relative : isAbsolute name = false
  forward : isStep name = true ∧ name ≠ ".."

/-- The last component of a name in a directory is the name. -/
theorem components_join (directory : String) {name : String} (names : Names name) :
    ∃ front, components (join directory name) = front ++ [name] := by
  rw [join, names.relative, Bool.false_or]
  by_cases empty : directory.isEmpty = true
  · rw [if_pos empty, names.single]
    exact ⟨[], rfl⟩
  rw [if_neg empty]
  by_cases ends : directory.toList.getLast? = some '/'
  · obtain ⟨front, same, -⟩ := exists_of_slash_end ends
    rw [if_pos (beq_iff_eq.2 ends), same, components_slash, names.single]
    exact ⟨components front, rfl⟩
  · rw [if_neg (by simpa using ends), components_slash, names.single]
    exact ⟨components directory, rfl⟩

end Path

namespace FileTree

open Bringup.Path

variable {tree after : FileTree} {base names other target : List String} {name path : String}
  {content : List UInt8} {place : Place}

/-- A walk that succeeds goes along a usable path. -/
theorem walk_eq_ok_iff : tree.walk path names = .ok place ↔
    Usable path ∧ names.foldlM tree.step (.directory (tree.start path)) = .ok place := by
  rw [walk]
  constructor
  · intro walked
    by_cases zero : path.toList.contains '\x00' = true
    · rw [if_pos zero] at walked
      cases walked
    by_cases empty : path.isEmpty = true
    · rw [if_neg zero, if_pos empty] at walked
      cases walked
    by_cases long : maxPath < (Text.utf8Bytes path).length
    · rw [if_neg zero, if_neg empty, if_pos long] at walked
      cases walked
    rw [if_neg zero, if_neg empty, if_neg long] at walked
    exact ⟨⟨zero, empty, long⟩, walked⟩
  · rintro ⟨usable, walked⟩
    rw [if_neg usable.nonzero, if_neg usable.nonempty, if_neg usable.short]
    exact walked

/-- A file that was put is there. -/
theorem lookup_put (tree : FileTree) (target : List String) (content : List UInt8) :
    (tree.put target content).files.lookup target = some content := by
  rw [put, List.lookup_cons_self]

/-- At other paths, the files are the same. -/
theorem lookup_put_of_ne (elsewhere : other ≠ target) :
    (tree.put target content).files.lookup other = tree.files.lookup other := by
  rw [put, List.lookup_cons, beq_false_of_ne elsewhere]
  dsimp only
  induction tree.files with
  | nil => rfl
  | cons file files ih =>
    by_cases replaced : file.1 = target
    · have skipped : (other == file.1) = false := beq_false_of_ne (replaced ▸ elsewhere)
      rw [List.filter_cons_of_neg (by simpa using replaced), ih, List.lookup_cons, skipped]
    · rw [List.filter_cons_of_pos (by simpa using replaced), List.lookup_cons, List.lookup_cons, ih]

/-- The directories that are there stay. -/
theorem hasDirectory_put (there : tree.hasDirectory other = true) :
    (tree.put target content).hasDirectory other = true := by
  rw [hasDirectory, Bool.or_eq_true] at there ⊢
  rcases there with working | leads
  · exact .inl working
  · right
    obtain ⟨file, among, below⟩ := List.any_eq_true.1 leads
    by_cases replaced : file.1 = target
    · -- The new file leads to the directory in place of the replaced one.
      exact List.any_eq_true.2 ⟨(target, content), List.mem_cons_self, replaced ▸ below⟩
    · have kept : file ∈ (tree.put target content).files :=
        List.mem_cons_of_mem _ (List.mem_filter.2 ⟨among, by simpa using replaced⟩)
      exact List.any_eq_true.2 ⟨file, kept, below⟩

/-- A step to a directory is the same behind a file that is put where no directory is. -/
theorem step_put (free : ∀ place, tree.step (.directory base) name ≠ .ok (.directory place))
    {here next : List String} {taken : String}
    (stepped : tree.step (.directory here) taken = .ok (.directory next)) :
    (tree.put (base ++ [name]) content).step (.directory here) taken = .ok (.directory next) := by
  have elsewhere : here ++ [taken] ≠ base ++ [name] := by
    intro same
    obtain ⟨rfl, last⟩ := List.append_inj' same rfl
    obtain rfl : taken = name := List.singleton_inj.1 last
    exact free next stepped
  rw [step] at stepped ⊢
  split
  · rwa [if_pos ‹_›] at stepped
  rw [if_neg ‹_›] at stepped
  split
  · rwa [if_pos ‹_›] at stepped
  rw [if_neg ‹_›] at stepped
  split
  · rwa [if_pos ‹_›] at stepped
  rw [if_neg ‹_›] at stepped
  dsimp only at stepped ⊢
  rw [lookup_put_of_ne elsewhere]
  split
  · next found =>
    rw [found] at stepped
    cases stepped
  · next missing =>
    rw [missing] at stepped
    dsimp only at stepped
    split at stepped
    · next there =>
      rw [if_pos (hasDirectory_put there)]
      exact stepped
    · cases stepped

/-- A walk to a directory is the same behind a file that is put where no directory is. -/
theorem walked_put (free : ∀ place, tree.step (.directory base) name ≠ .ok (.directory place))
    {here next : List String}
    (walked : names.foldlM tree.step (.directory here) = .ok (.directory next)) :
    names.foldlM (tree.put (base ++ [name]) content).step (.directory here) =
      .ok (.directory next) := by
  induction names generalizing here with
  | nil => exact walked
  | cons taken names ih =>
    obtain ⟨middle, stepped, others⟩ := walked_cons walked
    cases middle with
    | file file content => cases walked_file others
    | directory middle =>
      rw [List.foldlM_cons, step_put free stepped]
      exact ih others

/-- The step to a file that was put leads to it, if it has the name of a file that is not too
long. -/
theorem step_to_put (names : Names name) (short : ¬maxName < (Text.utf8Bytes name).length) :
    (tree.put (base ++ [name]) content).step (.directory base) name =
      .ok (.file (base ++ [name]) content) := by
  obtain ⟨proper, forward⟩ := names.forward
  rw [step, if_neg (by simpa [isStep] using proper), if_neg forward, if_neg short]
  dsimp only
  rw [lookup_put]

/-- Where a file was written, its directory was reached along the path, no directory has its name,
and the tree holds its content in the end. -/
theorem parts_of_write {front : List String} (names : Names name)
    (split : components path = front ++ [name]) (written : tree.write path content = .ok after) :
    ∃ base, tree.walk path front = .ok (.directory base) ∧
      (∀ place, tree.step (.directory base) name ≠ .ok (.directory place)) ∧
      ¬maxName < (Text.utf8Bytes name).length ∧ after = tree.put (base ++ [name]) content := by
  obtain ⟨proper, forward⟩ := names.forward
  have nonempty : (name == "") = false := by
    rw [isStep, Bool.and_eq_true, bne_iff_ne] at proper
    exact beq_false_of_ne proper.1
  have whole : ((components path).reverse.dropWhile (· == "")).reverse = front ++ [name] := by
    rw [split, List.reverse_append, List.reverse_singleton, List.singleton_append,
      List.dropWhile_cons_of_neg (by simpa using nonempty), List.reverse_cons, List.reverse_reverse]
  rw [write] at written
  dsimp only at written
  rw [whole, List.dropLast_concat, List.getLast?_concat] at written
  cases walked : tree.walk path front with
  | error error =>
    rw [walked] at written
    cases written
  | ok place =>
    rw [walked] at written
    cases place with
    | file file content => cases written
    | directory base =>
      have short : maxName < (Text.utf8Bytes name).length →
          tree.step (.directory base) name = .error .nameTooLong := by
        intro long
        rw [step, if_neg (by simpa [isStep] using proper), if_neg forward, if_pos long]
      refine ⟨base, rfl, ?_⟩
      dsimp only [bind, Except.bind, Option.getD_some] at written
      by_cases slash : path.toList.getLast? = some '/'
      · rw [if_pos slash] at written
        cases written
      rw [if_neg slash] at written
      split at written
      · cases written
      · next reached =>
        cases written
        refine ⟨fun place => ?_, fun long => ?_, rfl⟩
        · rw [reached]
          simp
        · rw [short long] at reached
          cases reached
      · next reached =>
        cases written
        refine ⟨fun place => ?_, fun long => ?_, rfl⟩
        · rw [reached]
          simp
        · rw [short long] at reached
          cases reached
      · cases written

/-- What was written under a name in a directory is found there. -/
theorem find_of_write {directory : String} (names : Names name)
    (written : tree.write (join directory name) content = .ok after) :
    ∃ file, after.find (join directory name) = .ok (.file file content) := by
  obtain ⟨front, split⟩ := components_join directory names
  obtain ⟨base, walked, free, short, rfl⟩ := parts_of_write names split written
  obtain ⟨usable, walked⟩ := walk_eq_ok_iff.1 walked
  have there : front.foldlM (tree.put (base ++ [name]) content).step
      (.directory ((tree.put (base ++ [name]) content).start (join directory name))) =
        .ok (.directory base) := walked_put free walked
  refine ⟨base ++ [name], ?_⟩
  rw [find, walk_eq_ok_iff, split, List.foldlM_append, there]
  refine ⟨usable, ?_⟩
  show [name].foldlM (tree.put (base ++ [name]) content).step (.directory base) = _
  rw [List.foldlM_cons, step_to_put names short]
  rfl

/-- A file that holds the bytes of a text is read as this text. -/
theorem readText_of_find {file : List String} {text : String}
    (found : tree.find path = .ok (.file file (Text.utf8Bytes text))) :
    tree.readText path = .ok text := by
  rw [readText, read, found]
  dsimp only [bind, Except.bind, pure, Except.pure]
  rw [Text.decodeStrict?_utf8Bytes]

/-- A text that was written under a name in a directory is read there. -/
theorem readText_of_write {directory text : String} (names : Names name)
    (written : tree.write (join directory name) (Text.utf8Bytes text) = .ok after) :
    after.readText (join directory name) = .ok text := by
  obtain ⟨file, found⟩ := find_of_write names written
  exact readText_of_find found

end FileTree

end Bringup
