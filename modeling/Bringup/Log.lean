/-!
# Log records

A record carries its level, the part of the system it comes from and its text. A logger
is any action that takes a record; where records go is decided by who runs the code.
-/

namespace Bringup

/-- How important a record is, from the most important on. -/
inductive Level where
  | error
  | warn
  | info
  | debug
  | trace
  deriving DecidableEq, Repr

/-- The name of a level. -/
def Level.name : Level → String
  | .error => "ERROR"
  | .warn => "WARN"
  | .info => "INFO"
  | .debug => "DEBUG"
  | .trace => "TRACE"

/-- All levels. -/
def Level.all : List Level := [.error, .warn, .info, .debug, .trace]

/-- The level of a name, in capitals or not. -/
def Level.named? (name : String) : Option Level := all.find? (·.name == name.toUpper)

/-- How many levels are shown when everything down to this one is. -/
def Level.rank : Level → Nat
  | .error => 1
  | .warn => 2
  | .info => 3
  | .debug => 4
  | .trace => 5

/-- One line for the log. -/
structure LogRecord where
  level : Level
  /-- The part of the system that speaks. -/
  target : String
  message : String
  deriving DecidableEq, Repr

/-- An action that takes a record, over a state `σ` and with errors of type `ε`. -/
abbrev Logger (σ ε : Type) : Type := LogRecord → EStateM ε σ Unit

/-- Drops every record. -/
def Logger.silent {σ ε : Type} : Logger σ ε := fun _ => pure ()

/-- Keeps every record, in order. -/
def Logger.keeping {ε : Type} : Logger (Array LogRecord) ε := fun record => modify (·.push record)

/-- Gives a record to a logger that does not fail, from an action that may. -/
def Logger.note {σ ε : Type} (log : Logger σ Empty) (record : LogRecord) : EStateM ε σ Unit :=
  EStateM.adaptExcept (fun error => nomatch error) (log record)

/-- The record as a list of records shows it. -/
def LogRecord.line (record : LogRecord) : String := record.level.name ++ " " ++ record.message

end Bringup
