import Bringup.Text.Blank
import Bringup.Text.Unsigned
/-!
# Integer constants of header files

A header binds a name where a line reads `#define NAME VALUE` and the value is one integer,
possibly in parentheses and with a suffix. Everything else in a header is passed over. A later
binding of a name wins, within a header and from header to header.
-/

namespace Bringup

/-- The bindings of some headers, the latest first. -/
structure Defines where
  bindings : List (String × UInt32)

/-- Why a constant cannot be used. -/
inductive DefineError where
  | missing (name : String)
  /-- The constant is a divisor. -/
  | zero (name : String)
  deriving DecidableEq, Repr

/-- The wording of a define error. -/
def DefineError.message : DefineError → String
  | .missing name => "missing #define " ++ name
  | .zero name => "#define " ++ name ++ " must not be zero"

namespace Defines

/-- No binding at all. -/
def empty : Defines := ⟨[]⟩

/-- Whether a character belongs to the suffix of an integer. -/
def isSuffix (c : Char) : Bool := c == 'u' || c == 'U' || c == 'l' || c == 'L'

/-- Removes the characters that satisfy a test from the end of a word. -/
def dropEndWhile (test : Char → Bool) (word : List Char) : List Char :=
  (word.reverse.dropWhile test).reverse

/-- Removes parentheses around an integer, then its suffix. -/
def bareInteger (word : List Char) : List Char :=
  dropEndWhile isSuffix (dropEndWhile (· == ')') (word.dropWhile (· == '(')))

/-- The integer a word stands for. -/
def integer? (word : List Char) : Option UInt32 :=
  match bareInteger word with
  | '0' :: 'x' :: digits => (Text.readWord32 16 digits).toOption
  | '0' :: 'X' :: digits => (Text.readWord32 16 digits).toOption
  | digits => (Text.readWord32 10 digits).toOption

/-- The binding that a line makes. A name with an opening parenthesis belongs to a macro with
parameters, which is never a plain constant. -/
def binding? (line : List Char) : Option (String × UInt32) :=
  match Text.words line with
  | keyword :: name :: value :: _ =>
    if keyword = "#define".toList ∧ '(' ∉ name then
      (integer? value).map fun value => (String.ofList name, value)
    else none
  | _ => none

/-- The bindings of a header. -/
def parse (text : String) : Defines :=
  ⟨((Text.lines text.toList).filterMap binding?).reverse⟩

/-- The bindings of two headers, of which the second was read later. -/
def merge (earlier later : Defines) : Defines := ⟨later.bindings ++ earlier.bindings⟩

/-- The value of a name. -/
def get? (defines : Defines) (name : String) : Option UInt32 := defines.bindings.lookup name

/-- The value of a name that has to be bound. -/
def require (defines : Defines) (name : String) : Except DefineError UInt32 :=
  match defines.get? name with
  | some value => .ok value
  | none => .error (.missing name)

/-- The value of a name that has to be bound to something other than zero. -/
def requireNonzero (defines : Defines) (name : String) : Except DefineError UInt32 := do
  let value ← defines.require name
  if value = 0 then throw (.zero name) else pure value

/-- Whether a name is bound to something other than zero. -/
def flag (defines : Defines) (name : String) : Bool :=
  match defines.get? name with
  | some value => value != 0
  | none => false

/-- The names that are bound, each once. -/
def names (defines : Defines) : List String := (defines.bindings.map Prod.fst).eraseDups

/-- How many names are bound. -/
def size (defines : Defines) : Nat := defines.names.length

/-- Whether no name is bound. -/
def isEmpty (defines : Defines) : Bool := defines.bindings.isEmpty

/-- Whether two tables bind the same names to the same values. -/
def agrees (left right : Defines) : Bool :=
  (left.names ++ right.names).all fun name => left.get? name == right.get? name

/-- What later headers bind comes first. -/
@[simp] theorem get?_merge (earlier later : Defines) (name : String) :
    (earlier.merge later).get? name = (later.get? name).or (earlier.get? name) := by
  simp [merge, get?, List.lookup_append]

end Defines

end Bringup
