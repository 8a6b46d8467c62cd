import Bringup.Pattern.Span
import Bringup.Text.Radix
/-!
# What is wrong with a pattern

A complaint has a reason, the span that it is about and, where something was said twice, the
span of the first time. It is shown below the pattern, with carets under the spans. A pattern
of several lines is shown between two rules with numbers before its lines.
-/

namespace Bringup.Pattern

/-- The reasons for turning down a pattern. -/
inductive Reason where
  | classEscapeInvalid
  | classRangeInvalid
  | classRangeLiteral
  | classUnclosed
  | decimalInvalid
  | escapeHexEmpty
  | escapeHexInvalid
  | escapeHexInvalidDigit
  | escapeUnexpectedEnd
  | escapeUnrecognized
  | flagDanglingNegation
  | flagDuplicate
  | flagRepeatedNegation
  | flagUnexpectedEnd
  | flagUnrecognized
  | groupNameDuplicate
  | groupNameEmpty
  | groupNameInvalid
  | groupNameUnexpectedEnd
  | groupUnclosed
  | groupUnopened
  | nestLimitExceeded (limit : Nat)
  | repetitionCountInvalid
  | repetitionCountDecimalEmpty
  | repetitionCountUnclosed
  | repetitionMissing
  | specialBoundaryUnclosed
  | specialBoundaryUnrecognized
  | specialBoundaryUnexpectedEnd
  | propertyInvalid
  | backreference
  | lookAround
  | unicodeNotAllowed
  | invalidUtf8
  | propertyNotFound
  | propertyValueNotFound
  | shortClassNotFound
  | caseFoldingUnavailable
  deriving DecidableEq, Repr

/-- The wording of a reason. -/
def Reason.text : Reason → String
  | .classEscapeInvalid => "invalid escape sequence found in character class"
  | .classRangeInvalid => "invalid character class range, the start must be <= the end"
  | .classRangeLiteral => "invalid range boundary, must be a literal"
  | .classUnclosed => "unclosed character class"
  | .decimalInvalid => "decimal literal invalid"
  | .escapeHexEmpty => "hexadecimal literal empty"
  | .escapeHexInvalid => "hexadecimal literal is not a Unicode scalar value"
  | .escapeHexInvalidDigit => "invalid hexadecimal digit"
  | .escapeUnexpectedEnd => "incomplete escape sequence, reached end of pattern prematurely"
  | .escapeUnrecognized => "unrecognized escape sequence"
  | .flagDanglingNegation => "dangling flag negation operator"
  | .flagDuplicate => "duplicate flag"
  | .flagRepeatedNegation => "flag negation operator repeated"
  | .flagUnexpectedEnd => "expected flag but got end of regex"
  | .flagUnrecognized => "unrecognized flag"
  | .groupNameDuplicate => "duplicate capture group name"
  | .groupNameEmpty => "empty capture group name"
  | .groupNameInvalid => "invalid capture group character"
  | .groupNameUnexpectedEnd => "unclosed capture group name"
  | .groupUnclosed => "unclosed group"
  | .groupUnopened => "unopened group"
  | .nestLimitExceeded limit =>
    "exceed the maximum number of nested parentheses/brackets (" ++ Text.decimal limit ++ ")"
  | .repetitionCountInvalid =>
    "invalid repetition count range, the start must be <= the end"
  | .repetitionCountDecimalEmpty => "repetition quantifier expects a valid decimal"
  | .repetitionCountUnclosed => "unclosed counted repetition"
  | .repetitionMissing => "repetition operator missing expression"
  | .specialBoundaryUnclosed =>
    "special word boundary assertion is either unclosed or contains an invalid character"
  | .specialBoundaryUnrecognized =>
    "unrecognized special word boundary assertion, "
      ++ "valid choices are: start, end, start-half or end-half"
  | .specialBoundaryUnexpectedEnd =>
    "found either the beginning of a special word boundary or a bounded repetition on a \\b "
      ++ "with an opening brace, but no closing brace"
  | .propertyInvalid => "invalid Unicode character class"
  | .backreference => "backreferences are not supported"
  | .lookAround => "look-around, including look-ahead and look-behind, is not supported"
  | .unicodeNotAllowed => "Unicode not allowed here"
  | .invalidUtf8 => "pattern can match invalid UTF-8"
  | .propertyNotFound => "Unicode property not found"
  | .propertyValueNotFound => "Unicode property value not found"
  | .shortClassNotFound =>
    "Unicode-aware Perl class not found (make sure the unicode-perl feature is enabled)"
  | .caseFoldingUnavailable =>
    "Unicode-aware case insensitivity matching is not available "
      ++ "(make sure the unicode-case feature is enabled)"

/-- What is wrong with a pattern, and where. -/
structure Complaint where
  reason : Reason
  span : Span
  /-- Where the same was said before. -/
  earlier : Option Span := none
  deriving DecidableEq, Repr

namespace Complaint

/-- The spans of a complaint that stay on one line, in order, and those that do not. -/
def spans (complaint : Complaint) : List Span × List Span :=
  ((complaint.span :: complaint.earlier.toList).mergeSort Span.precedes).partition
    Span.isOnOneLine

/-- The width of line numbers; a pattern of one line has none. -/
def numberWidth (pattern : List Char) : Nat :=
  let lines := (Text.lines pattern).length + (if pattern.getLast? = some '\n' then 1 else 0)
  if lines ≤ 1 then 0 else (Text.decimal lines).length

/-- What stands before a line of the pattern. -/
def margin (width number : Nat) : String :=
  if width = 0 then "    "
  else Text.padLeft width ' ' (Text.decimal number) ++ ": "

/-- The lines of the pattern, each with the carets below it. -/
def marked (complaint : Complaint) (pattern : List Char) : List String :=
  let width := numberWidth pattern
  (Text.lines pattern).zipIdx.flatMap fun (line, index) =>
    let margin := margin width (index + 1)
    let below := complaint.spans.1.filter (·.start.line == index + 1)
    let carets := margin.map (fun _ => ' ') ++ String.ofList (Span.carets 0 below)
    (margin ++ String.ofList line) :: if below.isEmpty then [] else [carets]

/-- Says where a span of several lines is. -/
def extent (span : Span) : String :=
  "on line " ++ Text.decimal span.start.line ++ " (column " ++ Text.decimal span.start.column
    ++ ") through line " ++ Text.decimal span.stop.line ++ " (column "
    ++ Text.decimal (span.stop.column - 1) ++ ")"

/-- The rule above and below a pattern of several lines. -/
def rule : String := String.ofList (List.replicate 79 '~')

/-- The wording of a complaint about a pattern. -/
def report (complaint : Complaint) (pattern : List Char) : String :=
  let framed := if pattern.contains '\n'
    then [rule] ++ complaint.marked pattern ++ [rule] ++ complaint.spans.2.map extent
    else complaint.marked pattern
  "\n".intercalate
    (["regex parse error:"] ++ framed ++ ["error: " ++ complaint.reason.text])

end Complaint

end Bringup.Pattern
