import Bringup.Text.Radix
/-!
# What calibration reports

The status holds the last failure, if there was one, and the write latency that was set.
-/

namespace Bringup.Calibration

/-- The part of the calibration that failed. -/
inductive Stage where
  | nil
  | vfifo
  deriving DecidableEq, Repr

/-- The step of a stage that failed. -/
inductive Substage where
  | nil
  | guaranteedRead
  | dqsEnablePhase
  | vfifoCenter
  deriving DecidableEq, Repr

/-- The name of a stage. -/
def Stage.name : Stage → String
  | .nil => "Nil"
  | .vfifo => "Vfifo"

/-- The name of a substage. -/
def Substage.name : Substage → String
  | .nil => "Nil"
  | .guaranteedRead => "GuaranteedRead"
  | .dqsEnablePhase => "DqsEnPhase"
  | .vfifoCenter => "VfifoCenter"

/-- The number of a stage. -/
def Stage.code : Stage → Nat
  | .nil => 0
  | .vfifo => 1

/-- The number of a substage. -/
def Substage.code : Substage → Nat
  | .nil => 0
  | .guaranteedRead => 1
  | .dqsEnablePhase => 2
  | .vfifoCenter => 3

/-- The substage of a number. -/
def Substage.ofCode : Nat → Substage
  | 1 => .guaranteedRead
  | 2 => .dqsEnablePhase
  | 3 => .vfifoCenter
  | _ => .nil

/-- Stands for no group. -/
def noGroup : UInt32 := 0xff

/-- The state of a calibration. -/
structure Status where
  stage : Stage := .nil
  substage : Substage := .nil
  group : UInt32 := noGroup
  writeLatency : UInt32 := 0
  deriving DecidableEq, Repr

/-- The status of a calibration in which nothing happened. -/
def Status.initial : Status := {}

/-- The wording of a failure. -/
def Status.failureText (status : Status) : String :=
  "calibration failed at stage " ++ status.stage.name ++ ", substage " ++ status.substage.name
    ++ (if status.group = noGroup then "" else ", group " ++ Text.decimal status.group.toNat)

end Bringup.Calibration
