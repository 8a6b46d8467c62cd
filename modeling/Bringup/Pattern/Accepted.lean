import Bringup.Pattern.Meaning
import Bringup.Pattern.Reader
import Bringup.Pattern.Size
/-!
# Patterns that are accepted

A text is accepted as a pattern if it is well-formed, if all that it asks is known, and if the
automata that recognise it are small enough.
-/

namespace Bringup

/-- A pattern that texts can be searched for. -/
structure Pattern where
  expr : Pattern.Expr

/-- Why a text is no pattern. -/
inductive PatternError where
  | malformed (text : String) (complaint : Pattern.Complaint)
  /-- It asks for words of letters beyond ASCII, of which nothing is known. -/
  | unknownBoundary
  | tooBig

/-- The wording of an error. -/
def PatternError.message : PatternError → String
  | .malformed text complaint => complaint.report text.toList
  | .unknownBoundary => "error building NFA"
  | .tooBig =>
    "Compiled regex exceeds size limit of " ++ Text.decimal Pattern.sizeLimit ++ " bytes."

namespace Pattern

/-- The pattern that a text describes. -/
def ofText (text : String) : Except PatternError Pattern := do
  let node ← (Node.read text.toList).mapError (.malformed text)
  match node.meaning {} with
  | .error complaint _ => throw (.malformed text complaint)
  | .ok expr _ =>
    if !expr.fits false then throw .tooBig
    if expr.asksUnknown then throw .unknownBoundary
    if !expr.fits true then throw .tooBig
    pure ⟨expr⟩

/-- Whether the pattern matches somewhere in a text. -/
def isFoundIn (pattern : Pattern) (text : String) : Bool := pattern.expr.isFoundIn text.toList

end Pattern

end Bringup
