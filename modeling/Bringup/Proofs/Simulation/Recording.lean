import Bringup.Proofs.Action
import Bringup.Simulation.Bench
import Bringup.Simulation.ScriptedDesign
/-!
# Benches under observation

A bench works on a design that keeps a record of all that is done to it, beside a log that cannot
fail. What one use of the system bench does is one of three things, whatever the design is: a reset,
a cycle, or a cycle that ends with a request that the memory controller cannot serve
(`Visit.Clocked`). Each is given by the list of what is done to the design.
-/

namespace Bringup

open Bringup.Action DesignEvent

variable {δ ρ : Type}

namespace Design

/-- What is done to a design changes it. -/
def undergo (design : Design δ) (state : δ) : DesignEvent → δ
  | .set port value => design.set port value state
  | .eval => design.eval state
  | .dump time => design.dump time state
  | .finish => design.finish state

/-- Does something to a design and keeps a record of it. -/
def keep (design : Design δ) (state : δ × List DesignEvent) (event : DesignEvent) :
    δ × List DesignEvent :=
  (design.undergo state.1 event, state.2 ++ [event])

/-- A design with a record of what is done to it. -/
def recording (design : Design δ) : Design (δ × List DesignEvent) where
  get port state := design.get port state.1
  set port value state := design.keep state (.set port value)
  eval state := design.keep state .eval
  finish state := design.keep state .finish
  dump time state := design.keep state (.dump time)

/-- The record grows by what is done to the design. -/
theorem record_foldl_keep (design : Design δ) (events : List DesignEvent)
    (state : δ × List DesignEvent) :
    (events.foldl design.keep state).2 = state.2 ++ events := by
  induction events generalizing state with
  | nil => exact (List.append_nil _).symm
  | cons event events ih => rw [List.foldl_cons, ih, keep, List.append_assoc, List.singleton_append]

/-- The record changes nothing about the design. -/
theorem design_foldl_keep (design : Design δ) (events : List DesignEvent)
    (state : δ × List DesignEvent) :
    (events.foldl design.keep state).1 = events.foldl design.undergo state.1 := by
  induction events generalizing state with
  | nil => rfl
  | cons event events ih => exact ih _

end Design

/-- A recorded design with its surroundings. -/
abbrev Observed (δ ρ : Type) : Type := Benched ((δ × List DesignEvent) × ρ)

namespace Observed

/-- The design. -/
def design (state : Observed δ ρ) : δ := state.world.1.1

/-- All that was done to the design. -/
def record (state : Observed δ ρ) : List DesignEvent := state.world.1.2

end Observed

/-- A bench whose design is recorded, with a log beside it. -/
def Bench.observed (design : Design δ) (log : Logger ρ Empty) (rom : ProgramRom) :
    Bench ((δ × List DesignEvent) × ρ) :=
  ⟨design.recording.onFirst, log.onPart Part.second, rom⟩

/-- A use of a bench. -/
inductive BenchCall where
  | reset
  | step
  deriving DecidableEq

/-- Uses a system bench. -/
def SystemBench.perform {σ : Type} (bench : Bench σ) :
    BenchCall → BenchAction σ (Option UInt32)
  | .reset => do
    reset bench
    pure none
  | .step => step bench

/-- A use of a bench, the bench before and after it, and its result. -/
structure Visit (δ ρ : Type) where
  call : BenchCall
  before : Observed δ ρ
  answer : Except SimulationError (Option UInt32)
  after : Observed δ ρ

namespace Visit

/-- The visits of a bench that is used several times, whatever comes of it. -/
def ofCalls (bench : Bench ((δ × List DesignEvent) × ρ)) : List BenchCall → Observed δ ρ →
    List (Visit δ ρ)
  | [], _ => []
  | call :: calls, state =>
    let result := attempt (SystemBench.perform bench call) state
    ⟨call, state, result.1, result.2⟩ :: ofCalls bench calls result.2

/-- What was done to the design. -/
def events (visit : Visit δ ρ) : List DesignEvent :=
  visit.after.record.drop visit.before.record.length

end Visit

/-- Driving a response onto the bus. -/
def MemoryResponse.drives (response : MemoryResponse) : List DesignEvent :=
  [.set .avlReady (if response.ready then 1 else 0), .set .avlRdata response.data,
    .set .avlRdataValid (if response.valid then 1 else 0)]

namespace DesignEvent

/-- What a reset does to a design. -/
def resetEvents (time : Nat) : List DesignEvent :=
  [.set .resetN 0, .set .clk 0, .set .programRomQ 0, .set .avlReady 0, .set .avlRdataValid 0,
    .set .avlRdata 0, .eval, .dump time, .set .clk 1, .eval, .dump (time + 1),
    .set .resetN 1, .set .clk 0, .eval, .dump (time + 2)]

/-- What the rising edge does to a design, with a word from the program ROM. -/
def risingEvents (word : UInt32) : List DesignEvent :=
  [.set .clk 1, .eval, .set .programRomQ word.toUInt64]

/-- What the rest of a cycle does to a design. -/
def settlingEvents (response : MemoryResponse) (time : Nat) : List DesignEvent :=
  response.drives ++ [.eval, .dump time, .set .clk 0, .eval, .dump (time + 1)]

end DesignEvent

namespace Observed

/-- The bench after something was done to the design. -/
def after (design : Design δ) (events : List DesignEvent) (state : Observed δ ρ) : Observed δ ρ :=
  { state with world := (events.foldl design.keep state.world.1, state.world.2) }

/-- The bench with other surroundings. -/
def among (surroundings : ρ) (state : Observed δ ρ) : Observed δ ρ :=
  { state with world := (state.world.1, surroundings) }

/-- The bench with another state of the memory controller. -/
def holding (ddr3 : Ddr3) (state : Observed δ ρ) : Observed δ ρ := { state with ddr3 }

/-- The bench after a reset. -/
def afterReset (design : Design δ) (state : Observed δ ρ) : Observed δ ρ :=
  let state := state.after design (resetEvents state.time)
  { state with romAddress := 0, leds := design.word .leds state.design, time := state.time + 3 }

/-- The bench after the rising edge of a cycle, when it has looked at the outputs. -/
def risen (design : Design δ) (rom : ProgramRom) (state : Observed δ ρ) : Observed δ ρ :=
  let state := state.after design (risingEvents (rom.word state.romAddress))
  { state with
    romAddress := design.word .programRomAddr state.design
    leds := design.word .leds state.design
    cycles := state.cycles + 1 }

/-- The bench after the rest of a cycle in which the controller has answered. -/
def settled (design : Design δ) (response : MemoryResponse) (state : Observed δ ρ) : Observed δ ρ :=
  let state := state.after design (settlingEvents response state.time)
  { state with time := state.time + 2 }

end Observed

namespace Visit

/-- The three things that a use of the system bench can be. -/
inductive Clocked (design : Design δ) (rom : ProgramRom) : Visit δ ρ → Prop where
  /-- A reset. -/
  | reset (before : Observed δ ρ) (surroundings : ρ) :
    Clocked design rom ⟨.reset, before, .ok none, (before.afterReset design).among surroundings⟩
  /-- A cycle that the controller answers. -/
  | answered (before : Observed δ ρ) (surroundings : ρ) {response : MemoryResponse} {ddr3 : Ddr3} :
    Ddr3.eval (design.request (before.risen design rom).design) before.ddr3 = .ok response ddr3 →
    Clocked design rom ⟨.step, before,
      .ok (if (before.risen design rom).leds = before.leds then none
        else some (before.risen design rom).leds),
      (((before.risen design rom).holding ddr3).settled design response).among surroundings⟩
  /-- A cycle whose request the controller cannot serve. -/
  | refused (before : Observed δ ρ) (surroundings : ρ) {violation : Violation} {ddr3 : Ddr3} :
    Ddr3.eval (design.request (before.risen design rom).design) before.ddr3 =
      .error violation ddr3 →
    Clocked design rom ⟨.step, before, .error (.protocol (before.cycles + 1) violation),
      ((before.risen design rom).holding ddr3).among surroundings⟩

end Visit

namespace Bench

open Observed

variable (design : Design δ) (log : Logger ρ Empty) (rom : ProgramRom)

/-- Writing to the log succeeds, and changes nothing but what is around the design. -/
theorem note_observed (level : Level) (message : String) (state : Observed δ ρ) :
    ∃ surroundings, (observed design log rom).note level message state =
      .ok () (state.among surroundings) := by
  cases noted : log ⟨level, logTarget, message⟩ state.world.2 with
  | ok _ surroundings =>
    have whole : log.onPart Part.second ⟨level, logTarget, message⟩ state.world =
        .ok () (state.world.1, surroundings) := Part.run_ok noted
    have written : ((observed design log rom).log.note ⟨level, logTarget, message⟩ :
        EStateM SimulationError _ Unit) state.world = .ok () (state.world.1, surroundings) :=
      adapt_ok whole _
    refine ⟨surroundings, ?_⟩
    rw [note, written]
    rfl
  | error error => cases error

/-- The LEDs are remembered; what they show is said if it is new. -/
theorem watchLeds_observed (leds : UInt32) (state : Observed δ ρ) :
    ∃ surroundings, (observed design log rom).watchLeds leds state =
      .ok (if leds = state.leds then none else some leds)
        (among surroundings { state with leds }) := by
  unfold watchLeds
  show ∃ surroundings, (if leds = state.leds then _ else _ : BenchAction _ _) state = _
  by_cases same : leds = state.leds
  · subst same
    rw [if_pos rfl, if_pos rfl]
    exact ⟨state.world.2, rfl⟩
  · obtain ⟨surroundings, noted⟩ := note_observed design log rom .info _ state
    rw [if_neg same, if_neg same]
    exact ⟨surroundings, bind_ok noted _⟩

variable {design log rom}

/-- What the controller answers is driven onto the bus. -/
theorem exchange_ok {state : Observed δ ρ} {response : MemoryResponse} {ddr3 : Ddr3}
    (served : Ddr3.eval (design.request state.design) state.ddr3 = .ok response ddr3) :
    exchange (observed design log rom) state =
      .ok () ((state.holding ddr3).after design response.drives) := by
  have asked : Ddr3.eval ((observed design log rom).design.request state.world) state.ddr3 =
    .ok response ddr3 := served
  unfold exchange
  show EStateM.bind _ _ state = _
  simp only [EStateM.bind, asked]
  rfl

/-- A request that the controller cannot serve ends the cycle. -/
theorem exchange_error {state : Observed δ ρ} {violation : Violation} {ddr3 : Ddr3}
    (served : Ddr3.eval (design.request state.design) state.ddr3 = .error violation ddr3) :
    exchange (observed design log rom) state =
      .error (.protocol state.cycles violation) (state.holding ddr3) := by
  have asked : Ddr3.eval ((observed design log rom).design.request state.world) state.ddr3 =
    .error violation ddr3 := served
  unfold exchange
  show EStateM.bind _ _ state = _
  simp only [EStateM.bind, asked]
  rfl

end Bench

namespace SystemBench

variable (design : Design δ) (log : Logger ρ Empty) (rom : ProgramRom)

theorem reset_observed (state : Observed δ ρ) :
    ∃ surroundings, reset (.observed design log rom) state =
      .ok () ((state.afterReset design).among surroundings) :=
  Bench.note_observed design log rom .debug
    ("reset done at time " ++ Text.decimal (state.time + 3)) (state.afterReset design)

/-- The cycle up to the exchange with the controller. -/
theorem step_risen (state : Observed δ ρ) : ∃ surroundings,
    step (.observed design log rom) state = (do
      Bench.exchange (.observed design log rom)
      Bench.eval (.observed design log rom)
      Bench.dump (.observed design log rom)
      Bench.edge (.observed design log rom) false
      pure (if (state.risen design rom).leds = state.leds then none
        else some (state.risen design rom).leds))
      ((state.risen design rom).among surroundings) := by
  obtain ⟨surroundings, watched⟩ := Bench.watchLeds_observed design log rom
    (state.risen design rom).leds { state.risen design rom with leds := state.leds }
  exact ⟨surroundings, bind_ok watched _⟩

/-- Every use of the system bench is one of the three, for every design and every log that cannot
fail. -/
theorem perform_clocked (call : BenchCall) (state : Observed δ ρ) :
    Visit.Clocked design rom ⟨call, state,
      (attempt (perform (.observed design log rom) call) state).1,
      (attempt (perform (.observed design log rom) call) state).2⟩ := by
  cases call with
  | reset =>
    obtain ⟨surroundings, ran⟩ := reset_observed design log rom state
    have whole : attempt (perform (.observed design log rom) .reset) state =
        (.ok none, (state.afterReset design).among surroundings) :=
      attempt_ok (bind_ok ran fun _ => pure none)
    rw [whole]
    exact .reset state surroundings
  | step =>
    obtain ⟨surroundings, ran⟩ := step_risen design log rom state
    cases served : Ddr3.eval (design.request (state.risen design rom).design) state.ddr3 with
    | ok response ddr3 =>
      have exchanged : Bench.exchange (.observed design log rom)
          ((state.risen design rom).among surroundings) = .ok () _ := Bench.exchange_ok served
      have whole : attempt (perform (.observed design log rom) .step) state =
          (.ok (if (state.risen design rom).leds = state.leds then none
            else some (state.risen design rom).leds),
          (((state.risen design rom).holding ddr3).settled design response).among surroundings) :=
        attempt_ok (ran.trans (bind_ok exchanged _))
      rw [whole]
      exact .answered state surroundings served
    | error violation ddr3 =>
      have exchanged : Bench.exchange (.observed design log rom)
          ((state.risen design rom).among surroundings) = .error _ _ :=
        Bench.exchange_error served
      have whole : attempt (perform (.observed design log rom) .step) state =
          (.error (.protocol (state.cycles + 1) violation),
          ((state.risen design rom).holding ddr3).among surroundings) :=
        attempt_error (ran.trans (bind_error exchanged _))
      rw [whole]
      exact .refused state surroundings served

end SystemBench

end Bringup
