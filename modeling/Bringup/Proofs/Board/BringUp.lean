import Bringup.Board.Transmitter
import Bringup.Proofs.Board.Framing
import Bringup.Proofs.Board.TransfersInStep
/-!
# The bring-up of the transmitter

While the transmitter is brought up there are waits, looks for a monitor and writes of registers
(`Happening`). Which of them follow each other, and how that ends, is said by relations that go
along the program (`Looks`, `Fills`, `Story`); they leave open what the transfers give. A record of
the waits and of all calls of the pins shows what was done (`Brings`). Main statement: on pins that
cannot fail the bring-up ends in one of three ways, each with the happenings that lead to it and no
others, and leaves the lines released (`bringUp_ordered`).
-/

namespace Bringup

/-- Something that is done on a board while a device is brought up: a call of the pins or a wait. -/
inductive Activity where
  | call (call : PinCall)
  | waited (cycles : UInt64)
  deriving DecidableEq

namespace Activity

variable {σ ε α : Type}

/-- An action with a record of it. -/
def noting (action : EStateM ε σ α) (activity : α → Activity) :
    EStateM ε (σ × List Activity) α := do
  let value ← Part.first.run action
  Part.second.update (· ++ [activity value])
  pure value

/-- The pins with a record of their calls among other activities. -/
def notingPins (pins : Pins σ ε) : Pins (σ × List Activity) ε where
  write clock data := noting (pins.write clock data) fun _ => .call (.write clock data)
  read := noting pins.read fun levels => .call (.read levels.1 levels.2)
  delay := noting pins.delay fun _ => .call .delay

/-- The waits with a record of them. -/
def notingWaits (delay : UInt64 → EStateM ε σ Unit) (cycles : UInt64) :
    EStateM ε (σ × List Activity) Unit :=
  noting (delay cycles) fun _ => .waited cycles

/-- An action that succeeds is noted. -/
theorem noting_ok {action : EStateM ε σ α} {state next : σ} {value : α}
    (step : action state = .ok value next) (activity : α → Activity) (past : List Activity) :
    noting action activity (state, past) = .ok value (next, past ++ [activity value]) := by
  rw [noting, Action.bind_ok (Part.run_ok step)]
  rfl

/-- The two records of a run: of the calls alone, and of all activities since some past. -/
def Follows (past : List Activity) (left : σ × List PinCall) (right : σ × List Activity) : Prop :=
  right = (left.1, past ++ left.2.map .call)

/-- Calls are noted in both records. -/
theorem noting_inStep {past : List Activity} (action : EStateM Empty σ α) (call : α → PinCall) :
    Action.InStep (Follows past) (Pins.recorded action call)
      (noting action fun value => .call (call value)) := by
  rintro ⟨state, record⟩ right rfl
  cases step : action state with
  | ok value next =>
    apply Action.Agree.of_ok
    · exact Pins.recorded_ok step call record
    · exact noting_ok step _ _
    · simp [Follows]
  | error error => cases error

/-- The pins are in step with either record. -/
theorem notingPins_inStep (past : List Activity) (pins : Pins σ Empty) :
    pins.recording.InStep (Follows past) (notingPins pins) where
  write clock data := noting_inStep (pins.write clock data) fun _ => .write clock data
  read := noting_inStep pins.read fun levels => .read levels.1 levels.2
  delay := noting_inStep pins.delay fun _ => .delay

end Activity

namespace Transmitter

open I2c (Lines Framed Acknowledged frame samples bitsOf)

variable {σ α β : Type}

/-- How an action ends, as a result on pins that cannot fail. -/
def ending (exit : Except TransmitterError α) (state : σ) :
    EStateM.Result (TransmitterTrap Empty) σ α :=
  match exit with
  | .ok value => .ok value state
  | .error error => .error (.failed error) state

/-- From a state the action ends in this way and does these things, which are appended to a record
where one is kept. -/
structure Brings (noted : EStateM (TransmitterTrap Empty) (σ × List Activity) α)
    (plain : EStateM (TransmitterTrap Empty) σ α) (state : σ) (exit : Except TransmitterError α)
    (activities : List Activity) (next : σ) : Prop where
  plain : plain state = ending exit next
  noted : ∀ past, noted (state, past) = ending exit (next, past ++ activities)

namespace Brings

variable {noted : EStateM (TransmitterTrap Empty) (σ × List Activity) α}
  {plain : EStateM (TransmitterTrap Empty) σ α}
  {later : α → EStateM (TransmitterTrap Empty) (σ × List Activity) β}
  {rest : α → EStateM (TransmitterTrap Empty) σ β}
  {state middle next : σ} {activities others : List Activity}

/-- A value alone does nothing. -/
theorem pure (value : α) (state : σ) :
    Brings (pure value) (pure value : EStateM (TransmitterTrap Empty) σ α) state (.ok value) []
      state where
  plain := rfl
  noted past := by
    rw [List.append_nil]
    rfl

/-- An error alone does nothing. -/
theorem throw (error : TransmitterError) (state : σ) :
    Brings (throw (.failed error))
      (throw (.failed error) : EStateM (TransmitterTrap Empty) σ α) state (.error error) []
      state where
  plain := rfl
  noted past := by
    rw [List.append_nil]
    rfl

/-- Actions in sequence do what both do. -/
theorem bind {value : α} {exit : Except TransmitterError β}
    (first : Brings noted plain state (.ok value) activities middle)
    (second : Brings (later value) (rest value) middle exit others next) :
    Brings (noted >>= later) (plain >>= rest) state exit (activities ++ others) next where
  plain := (Action.bind_ok first.plain rest).trans second.plain
  noted past := by
    rw [Action.bind_ok (first.noted past), second.noted, List.append_assoc]

/-- After an action that fails nothing is done. -/
theorem bind_error {error : TransmitterError}
    (first : Brings noted plain state (.error error) activities next) :
    Brings (noted >>= later) (plain >>= rest) state (.error error) activities next where
  plain := Action.bind_error first.plain rest
  noted past := Action.bind_error (first.noted past) later

end Brings

/-- A wait that cannot fail is one activity. -/
theorem wait_brings (delay : UInt64 → EStateM Empty σ Unit) (cycles : UInt64) (state : σ) :
    ∃ next, Brings
      (EStateM.adaptExcept TransmitterTrap.device (Activity.notingWaits delay cycles))
      (EStateM.adaptExcept TransmitterTrap.device (delay cycles)) state (.ok ())
      [.waited cycles] next := by
  cases step : delay cycles state with
  | ok value next =>
    refine ⟨next, Action.adapt_ok step _, fun past => ?_⟩
    exact Action.adapt_ok (Activity.noting_ok step _ past) _
  | error error => cases error

/-- How a transfer ends for the transmitter. -/
def transferExit (exit : Except I2cError α) : Except TransmitterError α :=
  exit.mapError .i2c

/-- Lifting a transfer keeps how it ends. -/
theorem transferring_ending {transfer : I2c.Transfer σ Empty α} {state next : σ}
    {exit : Except I2cError α} (ran : transfer state = I2c.ending exit next) :
    transferring transfer state = ending (transferExit exit) next := by
  cases exit with
  | ok value => exact Action.adapt_ok ran _
  | error error =>
    have failed : transfer state = .error (.bus error) next := ran
    exact Action.adapt_error failed _

/-- A transfer whose calls are recorded ends as it does where they are noted among activities. -/
theorem noted_ending {calling : I2c.Transfer (σ × List PinCall) Empty α}
    {noted : I2c.Transfer (σ × List Activity) Empty α} {state next : σ}
    {exit : Except I2cError α} {calls : List PinCall} {past : List Activity}
    (inStep : Action.InStep (Activity.Follows past) calling noted)
    (ran : calling (state, []) = I2c.ending exit (next, [] ++ calls)) :
    noted (state, past) = I2c.ending exit (next, past ++ calls.map .call) := by
  have follows : Activity.Follows past (state, []) (state, past) := by simp [Activity.Follows]
  obtain ⟨value, left, _, ok, noted, rfl⟩ | ⟨error, left, _, fails, noted, rfl⟩ :=
    (inStep _ _ follows).ends
  · rw [ok] at ran
    cases exit with
    | ok => cases ran; exact noted
    | error => cases ran
  · rw [fails] at ran
    cases exit with
    | ok => cases ran
    | error => cases ran; exact noted

/-- A transfer does what its calls are. -/
theorem transfer_brings {calling : I2c.Transfer (σ × List PinCall) Empty α}
    {noted : I2c.Transfer (σ × List Activity) Empty α} {plain : I2c.Transfer σ Empty α}
    {state next : σ} {exit : Except I2cError α} {calls : List PinCall}
    (inStep : ∀ past, Action.InStep (Activity.Follows past) calling noted)
    (runs : I2c.Runs calling plain state exit calls next) :
    Brings (transferring noted) (transferring plain) state (transferExit exit)
      (calls.map .call) next where
  plain := transferring_ending runs.plain
  noted past := transferring_ending (noted_ending (inStep past) (runs.noted []))

/-- What happens while the transmitter is brought up. -/
inductive Happening where
  | waited (cycles : UInt64)
  /-- A look for a monitor, with what it gave and its calls. -/
  | sensed (result : Except I2cError UInt8) (calls : List PinCall)
  /-- A register was written, or tried to be. -/
  | set (register value : UInt8) (result : Except I2cError Unit) (calls : List PinCall)

namespace Happening

/-- The calls of the pins in it. -/
def calls : Happening → List PinCall
  | .waited _ => []
  | .sensed _ calls | .set _ _ _ calls => calls

/-- What is done in it. -/
def activities : Happening → List Activity
  | .waited cycles => [.waited cycles]
  | .sensed _ calls | .set _ _ _ calls => calls.map .call

/-- How its transfer failed, if it did. -/
def failure? : Happening → Option I2cError
  | .sensed (.error error) _ | .set _ _ (.error error) _ => some error
  | .sensed (.ok _) _ | .set _ _ (.ok _) _ | .waited _ => none

/-- Its transfer is framed on the lines, and its result is what was found there: it failed exactly
if a byte was refused or the clock was held low, and a value that was read is what was sampled. -/
def Framed : Happening → Prop
  | .waited _ => True
  | .sensed result calls =>
    I2c.Framed calls
      (frame [address &&& 0xfe, monitorSense, address ||| 1] ++ List.replicate 9 true)
      (if Acknowledged (Lines.released.events calls) 0 ∧
        Acknowledged (Lines.released.events calls) 1 then 2 else 1) ∧
    I2c.Told calls (I2c.failure? result) ∧
    ∀ value, result = .ok value →
      samples (Lines.released.events calls) = [false, false, false] ++ bitsOf value
  | .set register value result calls =>
    I2c.Framed calls (frame [address &&& 0xfe, register, value]) 1 ∧
    I2c.Told calls (I2c.failure? result) ∧
    (result = .ok () → samples (Lines.released.events calls) = [false, false, false])

end Happening

/-- So many looks that find no monitor, with a wait behind each. -/
inductive Waits : Nat → List Happening → Prop where
  | none : Waits 0 []
  | more {looks : Nat} {rest : List Happening} {value : UInt8} {calls : List PinCall} :
    value &&& hotPlug = 0 → Waits looks rest →
    Waits (looks + 1) (.sensed (.ok value) calls :: .waited pollCycles :: rest)

/-- What happens while a monitor is awaited with so many polls, and how that ends: it is seen, a
look fails, or the last look does not find it either. -/
inductive Looks : Nat → List Happening → Except TransmitterError Unit → Prop where
  | sees {polls looks : Nat} {before : List Happening} {value : UInt8} {calls : List PinCall} :
    Waits looks before → looks < polls → value &&& hotPlug ≠ 0 →
    Looks polls (before ++ [.sensed (.ok value) calls]) (.ok ())
  | fails {polls looks : Nat} {before : List Happening} {error : I2cError} {calls : List PinCall} :
    Waits looks before → looks < polls →
    Looks polls (before ++ [.sensed (.error error) calls]) (.error (.i2c error))
  | givesUp {polls looks : Nat} {before : List Happening} {value : UInt8} {calls : List PinCall} :
    Waits looks before → looks + 1 = polls → value &&& hotPlug = 0 →
    Looks polls (before ++ [.sensed (.ok value) calls]) (.error .noMonitor)

/-- A look that finds no monitor, and what happens after it. -/
theorem Looks.later {polls : Nat} {happened : List Happening} {exit : Except TransmitterError Unit}
    {value : UInt8} {calls : List PinCall} (looks : Looks polls happened exit)
    (clear : value &&& hotPlug = 0) :
    Looks (polls + 1) (.sensed (.ok value) calls :: .waited pollCycles :: happened) exit := by
  cases looks with
  | sees waits few plugged => exact .sees (.more clear waits) (by omega) plugged
  | fails waits few => exact .fails (.more clear waits) (by omega)
  | givesUp waits last absent => exact .givesUp (.more clear waits) (by omega) absent

/-- What happens while registers are written, and how that ends: all are, or a transfer fails. -/
inductive Fills : List (UInt8 × UInt8) → List Happening → Except TransmitterError Unit → Prop where
  | done : Fills [] [] (.ok ())
  | fails {register value : UInt8} {rest : List (UInt8 × UInt8)} {error : I2cError}
      {calls : List PinCall} :
    Fills ((register, value) :: rest) [.set register value (.error error) calls]
      (.error (.i2c error))
  | goesOn {register value : UInt8} {rest : List (UInt8 × UInt8)} {calls : List PinCall}
      {happened : List Happening} {exit : Except TransmitterError Unit} :
    Fills rest happened exit →
    Fills ((register, value) :: rest) (.set register value (.ok ()) calls :: happened) exit

variable (pins : Pins σ Empty) (delay : UInt64 → EStateM Empty σ Unit)

/-- A look for a monitor is one happening. -/
theorem sense_brings (state : σ) :
    ∃ result calls next, (Happening.sensed result calls).Framed ∧
      Brings (transferring (I2c.readRegister (Activity.notingPins pins) address monitorSense))
        (transferring (I2c.readRegister pins address monitorSense)) state (transferExit result)
        (calls.map .call) next := by
  obtain ⟨result, calls, next, runs, framed⟩ :=
    I2c.readRegister_framed pins address monitorSense state
  refine ⟨result, calls, next, framed, transfer_brings (fun past => ?_) runs⟩
  exact I2c.readRegister_inStep (Activity.notingPins_inStep past pins) address monitorSense

/-- So is the writing of a register. -/
theorem set_brings (register value : UInt8) (state : σ) :
    ∃ result calls next, (Happening.set register value result calls).Framed ∧
      Brings (transferring (I2c.writeRegister (Activity.notingPins pins) address register value))
        (transferring (I2c.writeRegister pins address register value)) state (transferExit result)
        (calls.map .call) next := by
  obtain ⟨result, calls, next, runs, framed⟩ :=
    I2c.writeRegister_framed pins address register value state
  refine ⟨result, calls, next, framed, transfer_brings (fun past => ?_) runs⟩
  exact I2c.writeRegister_inStep (Activity.notingPins_inStep past pins) address register value

/-- What is done in the order in which it happened. -/
def activities (happened : List Happening) : List Activity :=
  happened.flatMap Happening.activities

/-- What awaiting a monitor from a state comes to. -/
def Awaits (polls : Nat) (state : σ) : Prop :=
  ∃ exit happened next, Looks polls happened exit ∧
    (∀ happening ∈ happened, happening.Framed) ∧
    Brings (awaitMonitor (Activity.notingPins pins) (Activity.notingWaits delay) polls)
      (awaitMonitor pins delay polls) state exit (activities happened) next

/-- A look for a monitor ends the wait, or it finds no monitor. -/
theorem look_brings (polls : Nat) (state : σ) :
    Awaits pins delay (polls + 1) state ∨
      ∃ value calls next, value &&& hotPlug = 0 ∧ (Happening.sensed (.ok value) calls).Framed ∧
        Brings (transferring (I2c.readRegister (Activity.notingPins pins) address monitorSense))
          (transferring (I2c.readRegister pins address monitorSense)) state (.ok value)
          (calls.map .call) next := by
  obtain ⟨result, calls, next, framed, first⟩ := sense_brings pins state
  have only : activities ([] ++ [.sensed result calls]) = calls.map .call ++ [] := rfl
  cases result with
  | error error =>
    refine .inl ⟨_, _, next, .fails .none (by omega), List.forall_mem_singleton.2 framed, ?_⟩
    rw [only, List.append_nil]
    exact .bind_error first
  | ok value =>
    by_cases clear : value &&& hotPlug = 0
    · exact .inr ⟨value, calls, next, clear, framed, first⟩
    · refine .inl ⟨_, _, next, .sees .none (by omega) clear, List.forall_mem_singleton.2 framed, ?_⟩
      rw [only]
      refine first.bind ?_
      simp only [if_neg clear]
      exact .pure () next

/-- Awaiting a monitor ends after so many polls at most. -/
theorem awaitMonitor_brings (polls : Nat) (state : σ) : Awaits pins delay (polls + 1) state := by
  induction polls generalizing state with
  | zero =>
    obtain ends | ⟨value, calls, next, clear, framed, first⟩ := look_brings pins delay 0 state
    · exact ends
    · refine ⟨_, _, next, .givesUp .none rfl clear, List.forall_mem_singleton.2 framed, ?_⟩
      refine first.bind ?_
      simp only [if_pos clear, if_true]
      exact .throw .noMonitor next
  | succ polls ih =>
    obtain ends | ⟨value, calls, sensed, clear, framed, first⟩ :=
      look_brings pins delay (polls + 1) state
    · exact ends
    · obtain ⟨waited, wait⟩ := wait_brings delay pollCycles sensed
      obtain ⟨exit, happened, next, looks, others, rest⟩ := ih waited
      refine ⟨exit, _, next, looks.later clear, List.forall_mem_cons.2 ⟨framed,
        List.forall_mem_cons.2 ⟨trivial, others⟩⟩, ?_⟩
      refine first.bind ?_
      simp only [if_pos clear, if_neg (Nat.succ_ne_zero polls)]
      exact wait.bind rest

/-- Writing registers. -/
theorem writeRegisters_brings (registers : List (UInt8 × UInt8)) (state : σ) :
    ∃ exit happened next, Fills registers happened exit ∧
      (∀ happening ∈ happened, happening.Framed) ∧
      Brings (writeRegisters (Activity.notingPins pins) registers)
        (writeRegisters pins registers) state exit (activities happened) next := by
  induction registers generalizing state with
  | nil => exact ⟨.ok (), [], state, .done, by simp, .pure () state⟩
  | cons entry rest ih =>
    obtain ⟨register, value⟩ := entry
    obtain ⟨result, calls, middle, framed, first⟩ := set_brings pins register value state
    cases result with
    | error error =>
      refine ⟨_, _, middle, .fails, List.forall_mem_singleton.2 framed, ?_⟩
      have only : activities [.set register value (.error error) calls] = calls.map .call := by
        simp [activities, Happening.activities]
      rw [only]
      exact .bind_error first
    | ok =>
      obtain ⟨exit, happened, next, fills, others, second⟩ := ih middle
      exact ⟨exit, _, next, .goesOn fills, List.forall_mem_cons.2 ⟨framed, others⟩,
        first.bind second⟩

/-- What happens while the transmitter is brought up, and how that ends. -/
inductive Story : List Happening → Except TransmitterError Unit → Prop where
  | unseen {happened : List Happening} {error : TransmitterError} :
    Looks monitorPolls happened (.error error) →
    Story (.waited powerUpCycles :: happened) (.error error)
  | seen {happened filled : List Happening} {exit : Except TransmitterError Unit} :
    Looks monitorPolls happened (.ok ()) → Fills ((powerDown, 0) :: fixedRegisters) filled exit →
    Story (.waited powerUpCycles :: (happened ++ filled)) exit

/-- The bring-up ends, and what happened is such a story. -/
theorem bringUp_brings (state : σ) :
    ∃ exit happened next, Story happened exit ∧ (∀ happening ∈ happened, happening.Framed) ∧
      Brings (bringUp (Activity.notingPins pins) (Activity.notingWaits delay))
        (bringUp pins delay) state exit (activities happened) next := by
  obtain ⟨powered, wait⟩ := wait_brings delay powerUpCycles state
  obtain ⟨exit, happened, looked, looks, framed, awaits⟩ :=
    awaitMonitor_brings pins delay 9999 powered
  cases exit with
  | error error =>
    exact ⟨_, _, looked, .unseen looks, List.forall_mem_cons.2 ⟨trivial, framed⟩,
      wait.bind (.bind_error awaits)⟩
  | ok =>
    obtain ⟨exit, filled, next, fills, others, writes⟩ :=
      writeRegisters_brings pins ((powerDown, 0) :: fixedRegisters) looked
    refine ⟨exit, _, next, .seen looks fills, List.forall_mem_cons.2 ⟨trivial,
      List.forall_mem_append.2 ⟨framed, others⟩⟩, ?_⟩
    have parts : activities (.waited powerUpCycles :: (happened ++ filled)) =
        [.waited powerUpCycles] ++ (activities happened ++ activities filled) := by
      simp [activities, Happening.activities]
    rw [parts]
    exact wait.bind (awaits.bind writes)

/-- What the looks for a monitor gave, in order. -/
def senses : List Happening → List (Except I2cError UInt8)
  | [] => []
  | .sensed result _ :: rest => result :: senses rest
  | .waited _ :: rest | .set _ _ _ _ :: rest => senses rest

/-- The registers whose writing was begun and their values, in order. -/
def writes : List Happening → List (UInt8 × UInt8)
  | [] => []
  | .set register value _ _ :: rest => (register, value) :: writes rest
  | .waited _ :: rest | .sensed _ _ :: rest => writes rest

/-- The cycles that were waited in all. -/
def cycles : List Happening → Nat
  | [] => 0
  | .waited interval :: rest => interval.toNat + cycles rest
  | .sensed _ _ :: rest | .set _ _ _ _ :: rest => cycles rest

/-- Looks in what happens in sequence. -/
@[simp] theorem senses_append (first second : List Happening) :
    senses (first ++ second) = senses first ++ senses second := by
  induction first with
  | nil => rfl
  | cons happening rest ih => cases happening <;> simp [senses, ih]

/-- Writes in what happens in sequence. -/
@[simp] theorem writes_append (first second : List Happening) :
    writes (first ++ second) = writes first ++ writes second := by
  induction first with
  | nil => rfl
  | cons happening rest ih => cases happening <;> simp [writes, ih]

/-- Waits in what happens in sequence. -/
@[simp] theorem cycles_append (first second : List Happening) :
    cycles (first ++ second) = cycles first + cycles second := by
  induction first with
  | nil => exact (Nat.zero_add _).symm
  | cons happening rest ih => cases happening <;> simp [cycles, ih, Nat.add_assoc]

/-- The look succeeded and found no monitor. -/
def clear : Except I2cError UInt8 → Bool
  | .ok value => value &&& hotPlug == 0
  | .error _ => false

/-- The look succeeded and found a monitor. -/
def plugged : Except I2cError UInt8 → Bool
  | .ok value => value &&& hotPlug != 0
  | .error _ => false

/-- No transfer failed. -/
def Unfailed (happened : List Happening) : Prop :=
  ∀ happening ∈ happened, happening.failure? = none

/-- The last of what happened is the first transfer that failed. -/
def StopsAt (error : I2cError) (happened : List Happening) : Prop :=
  ∃ before last, happened = before ++ [last] ∧ last.failure? = some error ∧ Unfailed before

section Summaries

variable {looks polls : Nat} {happened : List Happening} {exit : Except TransmitterError Unit}
  {registers : List (UInt8 × UInt8)}

/-- Looks that find no monitor do not fail, write nothing and wait once each. -/
theorem Waits.facts (waits : Waits looks happened) :
    (senses happened).length = looks ∧ (∀ sense ∈ senses happened, clear sense = true) ∧
      writes happened = [] ∧ cycles happened = 100000 * looks ∧ Unfailed happened := by
  induction waits with
  | none => simp [senses, writes, cycles, Unfailed]
  | more absent _ ih =>
    obtain ⟨length, all, still, waited, well⟩ := ih
    have poll : pollCycles.toNat = 100000 := by decide
    refine ⟨?_, ?_, still, ?_, ?_⟩
    · simp only [senses, List.length_cons, length]
    · simp only [senses, List.forall_mem_cons]
      exact ⟨beq_iff_eq.2 absent, all⟩
    · simp only [cycles, waited, poll]
      omega
    · simp only [Unfailed, List.forall_mem_cons]
      exact ⟨rfl, rfl, well⟩

/-- Writing registers neither looks nor waits. If it ends well it wrote all of them, else it stops
at the transfer that failed. -/
theorem Fills.facts (fills : Fills registers happened exit) :
    senses happened = [] ∧ cycles happened = 0 ∧
      ((exit = .ok () ∧ writes happened = registers ∧ Unfailed happened) ∨
        ∃ error, exit = .error (.i2c error) ∧ StopsAt error happened) := by
  induction fills with
  | done => simp [senses, cycles, writes, Unfailed]
  | fails =>
    refine ⟨rfl, rfl, .inr ⟨_, rfl, [], _, rfl, rfl, ?_⟩⟩
    exact fun happening member => absurd member List.not_mem_nil
  | goesOn _ ih =>
    obtain ⟨unseen, still, ends⟩ := ih
    refine ⟨unseen, still, ?_⟩
    obtain ⟨rfl, all, well⟩ | ⟨error, rfl, before, last, rfl, failed, well⟩ := ends
    · exact .inl ⟨rfl, by rw [writes, all], List.forall_mem_cons.2 ⟨rfl, well⟩⟩
    · exact .inr ⟨error, rfl, _ :: before, last, rfl, failed, List.forall_mem_cons.2 ⟨rfl, well⟩⟩

/-- What fails does not end well. -/
theorem StopsAt.not_unfailed {error : I2cError} (stops : StopsAt error happened) :
    ¬ Unfailed happened := by
  obtain ⟨before, last, rfl, failed, _⟩ := stops
  intro well
  have passed := well last (List.mem_append_right _ List.mem_cons_self)
  rw [failed] at passed
  cases passed

/-- There is one transfer at which it stops. -/
theorem StopsAt.unique {error other : I2cError} (stops : StopsAt error happened)
    (others : StopsAt other happened) : error = other := by
  obtain ⟨before, last, rfl, failed, _⟩ := stops
  obtain ⟨_, _, same, otherFailed, _⟩ := others
  obtain ⟨_, rest⟩ := List.append_inj' same rfl
  obtain rfl := List.singleton_inj.1 rest
  rw [failed] at otherFailed
  exact Option.some.inj otherFailed

/-- A look that found a monitor is not clear. -/
theorem clear_of_plugged {sense : Except I2cError UInt8} (seen : plugged sense = true) :
    clear sense = false := by
  cases sense with
  | error => rfl
  | ok value =>
    have present : value &&& hotPlug ≠ 0 := bne_iff_ne.1 seen
    exact beq_eq_false_iff_ne.2 present

/-- The transmitter came up: a look found a monitor, nothing failed, and what happened then was the
writing of these registers. -/
structure CameUp (registers : List (UInt8 × UInt8)) (happened : List Happening) : Prop where
  unfailed : Unfailed happened
  ordered : ∃ before sense calls after, happened = before ++ .sensed sense calls :: after ∧
    (∀ sense ∈ senses before, clear sense = true) ∧ plugged sense = true ∧
    writes before = [] ∧ writes after = registers ∧ senses after = [] ∧ cycles after = 0
  waited : cycles happened = 30000000 + 100000 * (senses happened).countP clear

/-- No look found a monitor: all succeeded, and nothing was written. -/
structure GaveUp (happened : List Happening) : Prop where
  unfailed : Unfailed happened
  looks : (senses happened).length = 10000
  clear : ∀ sense ∈ senses happened, clear sense = true
  unwritten : writes happened = []
  waited : cycles happened = 30000000 + 100000 * 9999

/-- A transfer failed, and nothing happened behind it. -/
structure BrokeOff (error : I2cError) (happened : List Happening) : Prop where
  stops : StopsAt error happened
  other : ∃ sense ∈ senses happened, clear sense = false
  waited : cycles happened = 30000000 + 100000 * (senses happened).countP clear

/-- A story that ends with a look that failed. -/
theorem Waits.brokeOff {error : I2cError} {calls : List PinCall} (waits : Waits looks happened) :
    BrokeOff error
      (.waited powerUpCycles :: (happened ++ [.sensed (.error error) calls])) := by
  obtain ⟨length, all, _, waited, well⟩ := waits.facts
  have power : powerUpCycles.toNat = 30000000 := by decide
  have counted := List.countP_eq_length.2 all
  refine ⟨⟨_ :: happened, _, rfl, rfl, List.forall_mem_cons.2 ⟨rfl, well⟩⟩,
    ⟨.error error, by simp [senses], rfl⟩, ?_⟩
  simp only [senses, senses_append, cycles, cycles_append, List.countP_append,
    List.countP_singleton, clear, counted, waited, length, power]
  simp

/-- A story in which no look found a monitor. -/
theorem Waits.gaveUp {value : UInt8} (waits : Waits looks happened)
    (last : looks + 1 = monitorPolls) (absent : value &&& hotPlug = 0) (calls : List PinCall) :
    GaveUp (.waited powerUpCycles :: (happened ++ [.sensed (.ok value) calls])) := by
  obtain ⟨length, all, unwritten, waited, well⟩ := waits.facts
  have power : powerUpCycles.toNat = 30000000 := by decide
  have limit : monitorPolls = 10000 := rfl
  refine ⟨?_, ?_, ?_, ?_, ?_⟩
  · refine List.forall_mem_cons.2 ⟨rfl, List.forall_mem_append.2 ⟨well, ?_⟩⟩
    exact List.forall_mem_singleton.2 rfl
  · simp only [senses, senses_append, List.length_append, List.length_singleton]
    omega
  · rw [senses, senses_append]
    refine List.forall_mem_append.2 ⟨all, List.forall_mem_singleton.2 ?_⟩
    exact beq_iff_eq.2 absent
  · simp only [writes, writes_append, unwritten, List.append_nil]
  · simp only [cycles, cycles_append, waited, power]
    omega

/-- A story in which a look found a monitor, and what the writing of the registers made of it. -/
theorem Waits.seen {value : UInt8} {calls : List PinCall} {filled : List Happening}
    (waits : Waits looks happened) (present : value &&& hotPlug ≠ 0)
    (fills : Fills registers filled exit) :
    (exit = .ok () ∧ CameUp registers (.waited powerUpCycles ::
        (happened ++ [.sensed (.ok value) calls] ++ filled))) ∨
      ∃ error, exit = .error (.i2c error) ∧ BrokeOff error (.waited powerUpCycles ::
        (happened ++ [.sensed (.ok value) calls] ++ filled)) := by
  obtain ⟨length, all, unwritten, waited, well⟩ := waits.facts
  obtain ⟨unseen, still, ends⟩ := fills.facts
  have power : powerUpCycles.toNat = 30000000 := by decide
  have counted := List.countP_eq_length.2 all
  have plug : plugged (.ok value) = true := bne_iff_ne.2 present
  have dark := clear_of_plugged plug
  have time : cycles (.waited powerUpCycles ::
      (happened ++ [.sensed (.ok value) calls] ++ filled)) = 30000000 + 100000 *
      (senses (.waited powerUpCycles ::
        (happened ++ [.sensed (.ok value) calls] ++ filled))).countP clear := by
    simp only [senses, senses_append, cycles, cycles_append, List.countP_append,
      List.countP_singleton, dark, counted, waited, length, power, unseen, still]
    simp
  have begun : Unfailed (.waited powerUpCycles :: (happened ++ [.sensed (.ok value) calls])) :=
    List.forall_mem_cons.2 ⟨rfl, List.forall_mem_append.2 ⟨well, List.forall_mem_singleton.2 rfl⟩⟩
  obtain ⟨rfl, written, filledWell⟩ | ⟨error, rfl, before, last, rfl, failed, filledWell⟩ := ends
  · refine .inl ⟨rfl, List.forall_mem_append.2 ⟨begun, filledWell⟩, ?_, time⟩
    refine ⟨.waited powerUpCycles :: happened, .ok value, calls, filled, by simp, ?_, plug, ?_,
      written, unseen, still⟩
    · rw [senses]
      exact all
    · rw [writes]
      exact unwritten
  · refine .inr ⟨error, rfl, ?_, ⟨.ok value, ?_, dark⟩, time⟩
    · refine ⟨.waited powerUpCycles :: (happened ++ [.sensed (.ok value) calls] ++ before), last,
        by simp, failed, ?_⟩
      exact List.forall_mem_append.2 ⟨begun, filledWell⟩
    · simp [senses]

/-- A story has one of the three ends. -/
theorem Story.ends (story : Story happened exit) :
    (senses happened).length ≤ 10000 ∧
      ((exit = .ok () ∧ CameUp ((powerDown, 0) :: fixedRegisters) happened) ∨
        (exit = .error .noMonitor ∧ GaveUp happened) ∨
        ∃ error, exit = .error (.i2c error) ∧ BrokeOff error happened) := by
  have limit : monitorPolls = 10000 := rfl
  cases story with
  | unseen looked =>
    cases looked with
    | fails waits few =>
      have length := waits.facts.1
      refine ⟨?_, .inr (.inr ⟨_, rfl, waits.brokeOff⟩)⟩
      simp only [senses, senses_append, List.length_append, List.length_singleton]
      omega
    | @givesUp _ _ _ calls waits last absent =>
      have gaveUp := waits.gaveUp last absent calls
      exact ⟨Nat.le_of_eq gaveUp.looks, .inr (.inl ⟨rfl, gaveUp⟩)⟩
  | seen looked fills =>
    cases looked with
    | sees waits few present =>
      have length := waits.facts.1
      have unseen := fills.facts.1
      refine ⟨?_, ?_⟩
      · simp only [senses, senses_append, List.length_append, List.length_singleton, unseen,
          List.length_nil]
        omega
      · obtain up | broke := waits.seen present fills
        · exact .inl up
        · exact .inr (.inr broke)

/-- In a story that ended well the transmitter came up. -/
theorem Story.cameUp (story : Story happened (.ok ())) :
    CameUp ((powerDown, 0) :: fixedRegisters) happened := by
  obtain ⟨_, ⟨_, up⟩ | ⟨same, _⟩ | ⟨_, same, _⟩⟩ := story.ends
  · exact up
  · cases same
  · cases same

/-- In a story that ended without a monitor no look found one. -/
theorem Story.gaveUp (story : Story happened (.error .noMonitor)) : GaveUp happened := by
  obtain ⟨_, ⟨same, _⟩ | ⟨_, gaveUp⟩ | ⟨_, same, _⟩⟩ := story.ends
  · cases same
  · exact gaveUp
  · cases same

/-- A story that ended with an error of the bus broke off. -/
theorem Story.brokeOff {error : I2cError} (story : Story happened (.error (.i2c error))) :
    BrokeOff error happened := by
  obtain ⟨_, ⟨same, _⟩ | ⟨same, _⟩ | ⟨_, same, broke⟩⟩ := story.ends
  · cases same
  · cases same
  · cases same
    exact broke

/-- A story ended well exactly if a look found a monitor and nothing failed. -/
theorem Story.ok_iff (story : Story happened exit) :
    exit = .ok () ↔ (∃ sense ∈ senses happened, plugged sense = true) ∧ Unfailed happened := by
  constructor
  · rintro rfl
    have up := story.cameUp
    obtain ⟨before, sense, calls, after, rfl, _, seen, _⟩ := up.ordered
    exact ⟨⟨sense, by simp [senses], seen⟩, up.unfailed⟩
  · rintro ⟨⟨sense, among, seen⟩, well⟩
    obtain ⟨_, ⟨same, _⟩ | ⟨_, gaveUp⟩ | ⟨_, _, broke⟩⟩ := story.ends
    · exact same
    · have dark := clear_of_plugged seen
      rw [gaveUp.clear sense among] at dark
      cases dark
    · exact absurd well broke.stops.not_unfailed

/-- It ended without a monitor exactly if all looks were made and none found one. -/
theorem Story.noMonitor_iff (story : Story happened exit) :
    exit = .error .noMonitor ↔
      (senses happened).length = 10000 ∧ ∀ sense ∈ senses happened, clear sense = true := by
  constructor
  · rintro rfl
    exact ⟨story.gaveUp.looks, story.gaveUp.clear⟩
  · rintro ⟨_, all⟩
    obtain ⟨_, ⟨_, up⟩ | ⟨same, _⟩ | ⟨_, _, broke⟩⟩ := story.ends
    · obtain ⟨before, sense, calls, after, rfl, _, seen, _⟩ := up.ordered
      have dark := clear_of_plugged seen
      rw [all sense (by simp [senses])] at dark
      cases dark
    · exact same
    · obtain ⟨sense, among, dark⟩ := broke.other
      rw [all sense among] at dark
      cases dark

/-- It ended with an error of the bus exactly if it stops at a transfer that failed so. -/
theorem Story.i2c_iff (story : Story happened exit) (error : I2cError) :
    exit = .error (.i2c error) ↔ StopsAt error happened := by
  constructor
  · rintro rfl
    exact story.brokeOff.stops
  · intro stops
    obtain ⟨_, ⟨_, up⟩ | ⟨_, gaveUp⟩ | ⟨_, rfl, broke⟩⟩ := story.ends
    · exact absurd up.unfailed stops.not_unfailed
    · exact absurd gaveUp.unfailed stops.not_unfailed
    · rw [broke.stops.unique stops]

/-- Lines that are at the same levels are at the same levels after the same calls. -/
theorem levels_after (lines other : Lines) (clock : lines.clock = other.clock)
    (data : lines.data = other.data) (calls : List PinCall) :
    (lines.after calls).clock = (other.after calls).clock ∧
      (lines.after calls).data = (other.after calls).data := by
  induction calls generalizing lines other with
  | nil => exact ⟨clock, data⟩
  | cons call rest ih =>
    cases call with
    | write => exact ih _ _ rfl rfl
    | read => exact ih _ _ clock data
    | delay => exact ih _ _ clock data

/-- Framed transfers one after the other leave the lines released. -/
theorem released_of_framed (framed : ∀ happening ∈ happened, happening.Framed) :
    (Lines.released.after (happened.flatMap Happening.calls)).clock = true ∧
      (Lines.released.after (happened.flatMap Happening.calls)).data = true := by
  induction happened with
  | nil => exact ⟨rfl, rfl⟩
  | cons happening rest ih =>
    obtain ⟨first, others⟩ := List.forall_mem_cons.1 framed
    have released : (Lines.released.after happening.calls).clock = true ∧
        (Lines.released.after happening.calls).data = true := by
      cases happening with
      | waited => exact ⟨rfl, rfl⟩
      | sensed => exact first.1.released
      | set => exact first.1.released
    obtain ⟨clock, data⟩ := levels_after (Lines.released.after happening.calls) Lines.released
      released.1 released.2 (rest.flatMap Happening.calls)
    rw [List.flatMap_cons, Lines.after_append, clock, data]
    exact ih others

end Summaries

/-- The bring-up is ordered and bounded. On all pins that cannot fail, whatever they answer, and
whatever a wait does: every transfer is framed on the lines and ends as the lines have it, with what
was sampled, where a byte was refused or where the clock was held low for too long, and after the
last one the lines are released. It looks for a monitor at most ten thousand times. It
ends well exactly if a look found one and no transfer failed, and then it wrote the nine registers
behind that look, in order; it finds no monitor exactly if all looks succeeded and found none, and
then it wrote nothing; it ends with an error of the bus exactly if the last thing that happened is
the first transfer that failed, with this error. It waits for power and after each look that
succeeded and found none, except the one with which it gives up. -/
theorem bringUp_ordered (pins : Pins σ Empty) (delay : UInt64 → EStateM Empty σ Unit) (state : σ) :
    ∃ (exit : Except TransmitterError Unit) (happened : List Happening) (next : σ),
      Brings (bringUp (Activity.notingPins pins) (Activity.notingWaits delay))
        (bringUp pins delay) state exit (activities happened) next ∧
      (∀ happening ∈ happened, happening.Framed) ∧
      ((Lines.released.after (happened.flatMap Happening.calls)).clock = true ∧
        (Lines.released.after (happened.flatMap Happening.calls)).data = true) ∧
      (senses happened).length ≤ 10000 ∧
      (exit = .ok () ↔ (∃ sense ∈ senses happened, plugged sense = true) ∧ Unfailed happened) ∧
      (exit = .ok () → CameUp ((powerDown, 0) :: fixedRegisters) happened) ∧
      (exit = .error .noMonitor ↔
        (senses happened).length = 10000 ∧ ∀ sense ∈ senses happened, clear sense = true) ∧
      (exit = .error .noMonitor → GaveUp happened) ∧
      (∀ error, exit = .error (.i2c error) ↔ StopsAt error happened) ∧
      (exit ≠ .error .noMonitor →
        cycles happened = 30000000 + 100000 * (senses happened).countP clear) := by
  obtain ⟨exit, happened, next, story, framed, brings⟩ := bringUp_brings pins delay state
  refine ⟨exit, happened, next, brings, framed, released_of_framed framed, story.ends.1,
    story.ok_iff, ?_, story.noMonitor_iff, ?_, story.i2c_iff, ?_⟩
  · rintro rfl
    exact story.cameUp
  · rintro rfl
    exact story.gaveUp
  · intro other
    obtain ⟨_, ⟨_, up⟩ | ⟨same, _⟩ | ⟨_, _, broke⟩⟩ := story.ends
    · exact up.waited
    · exact absurd same other
    · exact broke.waited

/-- Pins on which the data line is found high at one look only. So every byte is acknowledged that
is not looked at there. -/
def highAt (number : Nat) : Pins Nat Empty where
  write _ _ := pure ()
  read looks := .ok (true, looks == number) (looks + 1)
  delay := pure ()

/-- Where that look samples bit 6 of the first byte that is read, a monitor is found at once, and
the transmitter comes up. -/
theorem highAt_cameUp : ∃ happened next,
    Brings (bringUp (Activity.notingPins (highAt 33)) (Activity.notingWaits fun _ => pure ()))
      (bringUp (highAt 33) fun _ => pure ()) 0 (.ok ()) (activities happened) next ∧
    CameUp ((powerDown, 0) :: fixedRegisters) happened ∧
    cycles happened = 30000000 + 100000 * (senses happened).countP clear := by
  have ends : (match bringUp (highAt 33) (fun _ => pure ()) 0 with
      | .ok _ _ => true
      | .error _ _ => false) = true := by decide +kernel
  obtain ⟨exit, happened, next, brings, _, _, _, _, up, _, _, _, waited⟩ :=
    bringUp_ordered (highAt 33) (fun _ => pure ()) 0
  rw [brings.plain] at ends
  cases exit with
  | error error => cases ends
  | ok value => exact ⟨happened, next, brings, up rfl, waited (by simp)⟩

end Transmitter

end Bringup
