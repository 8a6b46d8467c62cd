import Bringup.Files.Tree
import Mathlib.Data.List.Infix
import Mathlib.Data.String.Basic
/-!
# Paths below a directory

A name is looked up in a directory by putting its path behind that of the directory. A name that
does not start at the top is then walked from the directory on (`Path.steps_join`), and it leads out
of the directory only by steps back. Where no beginning of it has more steps back than steps into a
directory (`Path.Stays`), its path stays below that of the directory (`Path.inside_join_iff`).
-/

namespace Bringup

namespace Path

/-- Cutting a text at a mark goes on at a place behind which no cut was found yet. -/
theorem splitOnAux_mark (mark : Char) (done part rest : List Char) (parts : List String) :
    (String.ofList (done ++ part ++ rest)).splitOnAux (String.ofList [mark])
        ⟨String.utf8Len done⟩ ⟨String.utf8Len done + String.utf8Len part⟩ 0 parts =
      parts.reverse ++
        (List.splitOnPPrepend (· == mark) rest part.reverse).map String.ofList := by
  have markHere : String.Pos.Raw.get (String.ofList [mark]) 0 = mark :=
    String.get_of_valid [] [mark]
  have markNext : String.Pos.Raw.next (String.ofList [mark]) 0 = ⟨mark.utf8Size⟩ := by
    simpa using String.next_of_valid [] mark []
  have markEnd : String.Pos.Raw.atEnd (String.ofList [mark]) ⟨mark.utf8Size⟩ = true := by
    simpa using (String.atEnd_of_valid [mark] []).2 rfl
  induction rest generalizing done part parts with
  | nil =>
    have ended : String.Pos.Raw.atEnd (String.ofList (done ++ part ++ []))
        ⟨String.utf8Len done + String.utf8Len part⟩ = true := by
      simpa using (String.atEnd_of_valid (done ++ part) []).2 rfl
    rw [String.splitOnAux, if_pos ended, String.extract_of_valid]
    simp
  | cons first rest ih =>
    have more : ¬String.Pos.Raw.atEnd (String.ofList (done ++ part ++ first :: rest))
        ⟨String.utf8Len done + String.utf8Len part⟩ = true := by
      simpa using (String.atEnd_of_valid (done ++ part) (first :: rest)).not.2
        (List.cons_ne_nil first rest)
    have here : String.Pos.Raw.get (String.ofList (done ++ part ++ first :: rest))
        ⟨String.utf8Len done + String.utf8Len part⟩ = first := by
      simpa using String.get_of_valid (done ++ part) (first :: rest)
    have after : String.Pos.Raw.next (String.ofList (done ++ part ++ first :: rest))
        ⟨String.utf8Len done + String.utf8Len part⟩ =
          ⟨String.utf8Len done + String.utf8Len part + first.utf8Size⟩ := by
      simpa using String.next_of_valid (done ++ part) first rest
    rw [String.splitOnAux, if_neg more, here, markHere, after, markNext,
      List.splitOnPPrepend_cons_eq_if]
    by_cases marked : first = mark
    · subst marked
      have others := ih (done ++ part ++ [first]) [] (String.ofList part :: parts)
      have back : String.Pos.Raw.unoffsetBy
          ⟨String.utf8Len done + String.utf8Len part + first.utf8Size⟩ ⟨first.utf8Size⟩ =
            ⟨String.utf8Len done + String.utf8Len part⟩ := by
        simp [String.Pos.Raw.unoffsetBy]
      rw [if_pos (beq_self_eq_true first), if_pos (beq_self_eq_true first)]
      simp only [markEnd, if_true, back, String.extract_of_valid]
      simpa [Nat.add_assoc] using others
    · have others := ih done (part ++ [first]) parts
      have back : String.Pos.Raw.unoffsetBy ⟨String.utf8Len done + String.utf8Len part⟩ 0 =
          ⟨String.utf8Len done + String.utf8Len part⟩ := by
        simp [String.Pos.Raw.unoffsetBy]
      rw [if_neg (by simpa using marked), if_neg (by simpa using marked), back, after]
      simpa [Nat.add_assoc] using others

/-- The components of a path are the characters between its slashes. -/
theorem components_eq (path : String) :
    components path = (path.toList.splitOnP (· == '/')).map String.ofList := by
  have cut := splitOnAux_mark '/' [] [] path.toList []
  simp only [List.nil_append, String.ofList_toList] at cut
  exact cut

/-- The components of two paths with a slash between them are those of each. -/
theorem components_slash (front back : String) :
    components (front ++ "/" ++ back) = components front ++ components back := by
  have slash : (front ++ "/" ++ back).toList = front.toList ++ '/' :: back.toList := by
    simp
  rw [components_eq, components_eq, components_eq, slash,
    List.splitOnP_append_cons front.toList back.toList (by decide), List.map_append]

/-- Whether a component leads away from where the walk has come to. -/
def isStep (name : String) : Bool := name != "" && name != "."

/-- The components that a walk along a path takes. -/
def steps (path : String) : List String := (components path).filter isStep

/-- The steps of two paths with a slash between them are those of each. -/
theorem steps_slash (front back : String) :
    steps (front ++ "/" ++ back) = steps front ++ steps back := by
  rw [steps, components_slash, List.filter_append, ← steps, ← steps]

/-- An empty path takes no step. -/
theorem steps_empty : steps "" = [] := by
  rw [steps, components_eq]
  rfl

/-- A path that ends in a slash takes the steps before it. -/
theorem exists_of_slash_end {path : String} (ends : path.toList.getLast? = some '/') :
    ∃ front, path = front ++ "/" ∧ steps path = steps front := by
  obtain ⟨front, split⟩ := List.getLast?_eq_some_iff.1 ends
  have same : path = String.ofList front ++ "/" := by
    rw [← String.toList_inj, split]
    simp
  refine ⟨String.ofList front, same, ?_⟩
  have empty := steps_slash (String.ofList front) ""
  rwa [String.append_empty, ← same, steps_empty, List.append_nil] at empty

/-- A relative name in a directory is walked from the directory on. -/
theorem steps_join (directory : String) {name : String} (relative : isAbsolute name = false) :
    steps (join directory name) = steps directory ++ steps name := by
  rw [join, relative, Bool.false_or]
  by_cases empty : directory.isEmpty = true
  · rw [if_pos empty, String.isEmpty_iff.1 empty, steps_empty, List.nil_append]
  rw [if_neg empty]
  by_cases ends : directory.toList.getLast? = some '/'
  · obtain ⟨front, same, taken⟩ := exists_of_slash_end ends
    rw [if_pos (beq_iff_eq.2 ends), taken, same, steps_slash]
  · rw [if_neg (by simpa using ends), steps_slash]

/-- A relative name in a directory starts where the directory does. -/
theorem isAbsolute_join (directory : String) {name : String} (relative : isAbsolute name = false) :
    isAbsolute (join directory name) = isAbsolute directory := by
  rw [join, relative, Bool.false_or]
  by_cases empty : directory.isEmpty = true
  · rw [if_pos empty, relative, String.isEmpty_iff.1 empty]
    rfl
  have nonempty : directory.toList ≠ [] := by
    intro nothing
    exact empty (String.isEmpty_iff.2 (String.toList_eq_nil_iff.1 nothing))
  obtain ⟨first, rest, split⟩ := List.exists_cons_of_ne_nil nonempty
  rw [if_neg empty]
  split <;> simp [isAbsolute, split]

/-- No beginning of the steps has more steps back than steps into a directory. -/
def Stays (names : List String) : Prop :=
  ∀ front, front <+: names → 2 * front.count ".." ≤ front.length

instance (names : List String) : Decidable (Stays names) :=
  decidable_of_iff (∀ front ∈ names.inits, 2 * front.count ".." ≤ front.length) <| by
    simp only [List.mem_inits, Stays]

/-- The path is that of the root and steps behind it that stay. -/
def Inside (root path : String) : Prop :=
  isAbsolute path = isAbsolute root ∧ ∃ below, steps path = steps root ++ below ∧ Stays below

/-- A relative name in a directory stands for a path inside the directory just if its steps stay. -/
theorem inside_join_iff (directory : String) {name : String} (relative : isAbsolute name = false) :
    Inside directory (join directory name) ↔ Stays (steps name) := by
  constructor
  · rintro ⟨_, below, split, stays⟩
    rw [steps_join directory relative, List.append_cancel_left_eq] at split
    rwa [split]
  · intro stays
    exact ⟨isAbsolute_join directory relative, steps name, steps_join directory relative, stays⟩

end Path

namespace FileTree

open Bringup.Path

variable {tree : FileTree} {place last : Place} {names : List String} {name : String}

/-- A walk that succeeds takes its first step and goes on. -/
theorem walked_cons (walked : (name :: names).foldlM tree.step place = .ok last) :
    ∃ middle, tree.step place name = .ok middle ∧ names.foldlM tree.step middle = .ok last := by
  rw [List.foldlM_cons] at walked
  cases stepped : tree.step place name with
  | error error =>
    rw [stepped] at walked
    cases walked
  | ok middle =>
    rw [stepped] at walked
    exact ⟨middle, rfl, walked⟩

/-- No step leads on from a file. -/
theorem walked_file {content : List UInt8} {file : List String}
    (walked : names.foldlM tree.step (.file file content) = .ok last) :
    last = .file file content := by
  cases names with
  | nil =>
    cases walked
    rfl
  | cons name names =>
    obtain ⟨middle, stepped, _⟩ := walked_cons walked
    cases stepped

end FileTree

end Bringup
