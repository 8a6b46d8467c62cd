import Bringup.Log
import Bringup.Pattern.Accepted
/-!
# Which records are shown

A filter lists directives between commas. A directive is a level for everything, the name of
a part of the system, or both with an equals sign between them; a name without a level shows
everything from that part. Of the directives whose name begins the part that speaks, the one
with the longest name decides. Behind a slash stands a text that shown records contain.
-/

namespace Bringup.CommandLine

/-- How much to show: nothing, or everything down to a level. -/
abbrev Verbosity : Type := Option Level

/-- Part of a filter. -/
structure Directive where
  /-- The part of the system that is meant, or all of it. -/
  name : Option String
  verbosity : Verbosity
  deriving DecidableEq, Repr

/-- A filter. -/
structure LogFilter where
  directives : List Directive
  /-- What shown records match. -/
  pattern : Option Pattern := none

namespace LogFilter

/-- The verbosities by name. -/
def verbosities : List (String × Verbosity) :=
  ("off", none) :: Level.all.map fun level =>
    (level.name.toLower, some level)

/-- The verbosity of a name, in capitals or not. -/
def verbosity? (text : String) : Option Verbosity := verbosities.lookup text.toLower

/-- The text without blanks at its ends. -/
def trimmed (text : String) : String :=
  String.ofList ((text.toList.dropWhile Text.isBlank).reverse.dropWhile Text.isBlank).reverse

/-- Reads a directive, or says what is wrong with it. -/
def directive (text : String) : Except String Directive :=
  match text.splitOn "=" with
  | [only] =>
    match verbosity? only with
    | some verbosity => .ok ⟨none, verbosity⟩
    | none => .ok ⟨some only, some .trace⟩
  | [name, spelled] =>
    let level := trimmed spelled
    if level.isEmpty then .ok ⟨some name, some .trace⟩
    else match verbosity? level with
      | some verbosity => .ok ⟨some name, verbosity⟩
      | none => .error ("invalid logging spec '" ++ level ++ "'")
  | _ => .error ("invalid logging spec '" ++ text ++ "'")

/-- Adds a directive, in the place of an earlier one of the same name if there is one. -/
def replacing (directives : List Directive) (directive : Directive) : List Directive :=
  match directives with
  | [] => [directive]
  | first :: rest =>
    if first.name = directive.name then directive :: rest else first :: replacing rest directive

/-- Reads directives; also answers what is wrong with some of them. -/
def readDirectives (texts : List String) : List Directive × List String :=
  texts.foldl (fun (directives, faults) text =>
    match directive text with
    | .ok directive => (replacing directives directive, faults)
    | .error fault => (directives, faults ++ [fault])) ([], [])

/-- Reads the pattern that shown records match; also answers what is wrong with it. -/
def readPattern : Option String → Option Pattern × List String
  | none => (none, [])
  | some text =>
    match Pattern.ofText text with
    | .ok pattern => (some pattern, [])
    | .error error => (none, ["invalid regex filter - " ++ error.message])

/-- Reads a filter; also answers what is wrong with it. Without a directive only errors are
shown. -/
def read (text : String) : LogFilter × List String :=
  let onlyErrors : List Directive := [⟨none, some .error⟩]
  match text.splitOn "/" with
  | list :: rest =>
    if 1 < rest.length then
      (⟨onlyErrors, none⟩, ["invalid logging spec '" ++ text ++ "' (too many '/'s)"])
    else
      let (directives, faults) :=
        readDirectives (((list.splitOn ",").map trimmed).filter (!·.isEmpty))
      let (pattern, more) := readPattern rest.head?
      (⟨if directives.isEmpty then onlyErrors else directives, pattern⟩, faults ++ more)
  | [] => (⟨onlyErrors, none⟩, [])

/-- How long the name of a directive is; none is as long as an empty one. -/
def Directive.rank (directive : Directive) : Nat :=
  (directive.name.map String.utf8ByteSize).getD 0

/-- The directive that decides about a part of the system. -/
def deciding? (filter : LogFilter) (target : String) : Option Directive :=
  (filter.directives.filter fun directive =>
    directive.name.all fun name => name.toList.isPrefixOf target.toList).foldl
    (fun best directive =>
      match best with
      | some other => if Directive.rank other ≤ Directive.rank directive then some directive
        else some other
      | none => some directive) none

/-- Whether a record is shown. -/
def shows (filter : LogFilter) (record : LogRecord) : Bool :=
  (match filter.deciding? record.target with
    | some directive => directive.verbosity.any (record.level.rank ≤ ·.rank)
    | none => false)
  && filter.pattern.all (·.isFoundIn record.message)

end LogFilter

end Bringup.CommandLine
