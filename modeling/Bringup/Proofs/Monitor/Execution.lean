import Bringup.Monitor.Simulated
import Bringup.Proofs.Trace
import Bringup.Proofs.Wire.Answers
/-!
# Calls carried out on a system

A system behind the monitor is read as a labelled transition system whose labels are the single
accesses to it. A call of the host is carried out by a fixed pattern of accesses (`Call.Shows`): a
word call is one access, a tile call one access for each pixel in the order of their addresses, and
a run of the rasterizer a reading of the clock, the start, polls up to the first that finds it idle,
and a second reading. A sequence of calls is carried out by carrying out each in turn (`Executed`).

A target gives such a transition system (`Target.Step`), and a target that records its accesses
shows that nothing else was done to it.
-/

namespace Bringup

variable {τ ε : Type}

namespace Monitor

/-- What a label asks of the system, without what was answered. -/
def SystemEvent.asked : SystemEvent → SystemEvent
  | .read address _ => .read address 0
  | .write address data => .write address data
  | .start => .start
  | .polled _ => .polled false
  | .cycles _ => .cycles 0

/-- What is asked decides what is answered and where the system goes. -/
structure Deterministic (step : τ → SystemEvent → τ → Prop) : Prop where
  unique : ∀ {state event other next later}, step state event next → step state other later →
    event.asked = other.asked → event = other ∧ next = later

/-- Of the next so many polls of the rasterizer one finds it idle, whatever they answer before. -/
def Idles (step : τ → SystemEvent → τ → Prop) : (polls : Nat) → τ → Prop
  | 0, _ => False
  | polls + 1, state =>
    ∀ busy next, step state (.polled busy) next → busy = true → Idles step polls next

/-- The steps of a system whose accesses are recorded. -/
def Recorded (step : τ → SystemEvent → τ → Prop)
    (state : τ × List SystemEvent) (event : SystemEvent) (next : τ × List SystemEvent) : Prop :=
  step state.1 event next.1 ∧ next.2 = state.2 ++ [event]

/-- A record changes nothing about when the rasterizer is idle. -/
theorem Idles.recorded {step : τ → SystemEvent → τ → Prop} {polls : Nat} {state : τ}
    (idles : Idles step polls state) (seen : List SystemEvent) :
    Idles (Recorded step) polls (state, seen) := by
  induction polls generalizing state seen with
  | zero => exact idles
  | succ polls ih =>
    intro busy next taken stillBusy
    exact ih (idles busy next.1 taken.1 stillBusy) next.2

end Monitor

open Monitor

/-- Runs of a deterministic system that ask the same are the same. -/
theorem Trace.unique {step : τ → SystemEvent → τ → Prop} (deterministic : Deterministic step)
    {state last finish : τ} {events others : List SystemEvent}
    (trace : Trace step state events last) (other : Trace step state others finish)
    (same : events.map SystemEvent.asked = others.map SystemEvent.asked) :
    events = others ∧ last = finish := by
  induction trace generalizing others with
  | done =>
    obtain rfl : others = [] := List.map_eq_nil_iff.1 same.symm
    cases other
    exact ⟨rfl, rfl⟩
  | next taken _ ih =>
    cases other with
    | done => exact absurd same (by simp)
    | next otherTaken other =>
      rw [List.map_cons, List.map_cons, List.cons.injEq] at same
      obtain ⟨rfl, rfl⟩ := deterministic.unique taken otherTaken same.1
      obtain ⟨rfl, rfl⟩ := ih other same.2
      exact ⟨rfl, rfl⟩

/-- The record of a run is the list of its labels. -/
theorem Trace.of_recorded {step : τ → SystemEvent → τ → Prop} {state last : τ × List SystemEvent}
    {events : List SystemEvent} (trace : Trace (Recorded step) state events last) :
    Trace step state.1 events last.1 ∧ last.2 = state.2 ++ events := by
  induction trace with
  | done => exact ⟨.done _, (List.append_nil _).symm⟩
  | next taken _ ih =>
    obtain ⟨rest, record⟩ := ih
    refine ⟨.next taken.1 rest, ?_⟩
    rw [record, taken.2, List.append_assoc]
    rfl

/-- A call of the host that the monitor carries out. -/
inductive Call where
  | writeWord (address data : UInt32)
  | readWord (address : UInt32)
  | writeTile (tile : Tile)
  | readTile
  | rasterize
  deriving DecidableEq

namespace Call

/-- The request that asks for the call. -/
def request : Call → Request
  | .writeWord address data => .writeWord address data
  | .readWord address => .readWord address
  | .writeTile tile => .writeTile tile
  | .readTile => .readTile
  | .rasterize => .rasterize

/-- The accesses to the pixels of a tile, in the order of their addresses. -/
def tileAccesses (access : UInt32 → UInt32 → SystemEvent) (tile : Tile) : List SystemEvent :=
  tile.toList.mapIdx fun index pixel => access (tileBase + 16 * UInt32.ofNat index) pixel

/-- The polls of a rasterizer that is busy so many times. -/
def polling (busy : Nat) : List SystemEvent :=
  List.replicate busy (.polled true) ++ [.polled false]

/-- The accesses that carry out a call, and the answer that they make. -/
inductive Shows : Call → Answer → List SystemEvent → Prop where
  | writeWord (address data : UInt32) :
    Shows (.writeWord address data) .done [.write address data]
  | readWord (address data : UInt32) : Shows (.readWord address) (.word data) [.read address data]
  | writeTile (tile : Tile) : Shows (.writeTile tile) .done (tileAccesses .write tile)
  | readTile (tile : Tile) : Shows .readTile (.tile tile) (tileAccesses .read tile)
  | rasterize (first last : UInt64) (busy : Nat) :
    Shows .rasterize (.elapsed (last - first))
      ([.cycles first, .start] ++ polling busy ++ [.cycles last])

/-- The accesses to the pixels of two tiles ask the same where reading one asks for no data. -/
theorem asked_tileAccesses (tile other : Tile) :
    (tileAccesses .read tile).map SystemEvent.asked =
      (tileAccesses .read other).map SystemEvent.asked := by
  apply List.ext_getElem
  · simp [tileAccesses]
  · intro index inside _
    simp [tileAccesses, SystemEvent.asked]

/-- The accesses to a tile tell its pixels. -/
theorem tileAccesses_injective {tile other : Tile}
    (same : tileAccesses .read tile = tileAccesses .read other) : tile = other := by
  apply Vector.ext
  intro index inside
  have size : index < tile.toList.length := by rw [Vector.length_toList]; exact inside
  have size_other : index < other.toList.length := by rw [Vector.length_toList]; exact inside
  have read := congrArg (fun events => events[index]?) same
  simp only [tileAccesses, List.getElem?_mapIdx, List.getElem?_eq_getElem size,
    List.getElem?_eq_getElem size_other, Option.map_some, Option.some.injEq,
    SystemEvent.read.injEq] at read
  exact read.2

/-- Polls of a deterministic system up to the first that finds the rasterizer idle are the same. -/
theorem polling_unique {step : τ → SystemEvent → τ → Prop} (deterministic : Deterministic step)
    {state last finish : τ} {busy others : Nat} (trace : Trace step state (polling busy) last)
    (other : Trace step state (polling others) finish) : busy = others ∧ last = finish := by
  induction busy generalizing state others with
  | zero =>
    cases trace with
    | next taken rest =>
      cases others with
      | zero =>
        obtain ⟨_, rfl⟩ := (Trace.next taken rest).unique deterministic other rfl
        exact ⟨rfl, rfl⟩
      | succ others =>
        cases other with
        | next otherTaken _ => exact absurd (deterministic.unique taken otherTaken rfl).1 (by simp)
  | succ busy ih =>
    cases trace with
    | next taken rest =>
      cases others with
      | zero =>
        cases other with
        | next otherTaken _ => exact absurd (deterministic.unique taken otherTaken rfl).1 (by simp)
      | succ others =>
        cases other with
        | next otherTaken other =>
          obtain ⟨_, rfl⟩ := deterministic.unique taken otherTaken rfl
          obtain ⟨rfl, rfl⟩ := ih rest other
          exact ⟨rfl, rfl⟩

/-- A deterministic system carries out a call in one way. -/
theorem Shows.unique {step : τ → SystemEvent → τ → Prop} (deterministic : Deterministic step)
    {call : Call} {state last finish : τ} {answer other : Answer} {events others : List SystemEvent}
    (pattern : call.Shows answer events) (trace : Trace step state events last)
    (otherPattern : call.Shows other others) (otherTrace : Trace step state others finish) :
    answer = other ∧ events = others ∧ last = finish := by
  cases pattern with
  | writeWord address data | writeTile tile =>
    cases otherPattern
    obtain ⟨_, rfl⟩ := trace.unique deterministic otherTrace rfl
    exact ⟨rfl, rfl, rfl⟩
  | readWord address data =>
    cases otherPattern
    obtain ⟨same, rfl⟩ := trace.unique deterministic otherTrace rfl
    cases same
    exact ⟨rfl, rfl, rfl⟩
  | readTile tile =>
    cases otherPattern
    obtain ⟨same, rfl⟩ := trace.unique deterministic otherTrace (asked_tileAccesses _ _)
    obtain rfl := tileAccesses_injective same
    exact ⟨rfl, rfl, rfl⟩
  | rasterize first last busy =>
    cases otherPattern with
    | rasterize otherFirst otherLast otherBusy =>
      obtain ⟨idle, before, after⟩ := trace.split
      obtain ⟨running, start, polls⟩ := before.split
      obtain ⟨otherIdle, otherBefore, otherAfter⟩ := otherTrace.split
      obtain ⟨otherRunning, otherStart, otherPolls⟩ := otherBefore.split
      obtain ⟨sameStart, rfl⟩ := start.unique deterministic otherStart rfl
      obtain ⟨rfl, rfl⟩ := polling_unique deterministic polls otherPolls
      obtain ⟨sameEnd, rfl⟩ := after.unique deterministic otherAfter rfl
      cases sameStart
      cases sameEnd
      exact ⟨rfl, rfl, rfl⟩

/-- What the accesses of a call make is an answer of its kind. -/
theorem Shows.fits {call : Call} {answer : Answer} {events : List SystemEvent}
    (pattern : call.Shows answer events) : call.request.Fits answer := by
  cases pattern with
  | writeWord address data => exact .writeWord address data
  | readWord address data => exact .readWord address data
  | writeTile tile => exact .writeTile tile
  | readTile tile => exact .readTile tile
  | rasterize first last => exact .rasterize (last - first)

end Call

/-- How one call was carried out. -/
@[ext] structure Turn where
  answer : Answer
  events : List SystemEvent
  deriving DecidableEq

/-- Calls carried out one after the other, each by accesses that make its answer. -/
inductive Executed (step : τ → SystemEvent → τ → Prop) :
    τ → List Call → List Turn → τ → Prop where
  | done (state : τ) : Executed step state [] [] state
  | next {state middle last : τ} {call : Call} {calls : List Call} {turn : Turn}
    {turns : List Turn} : call.Shows turn.answer turn.events →
    Trace step state turn.events middle → Executed step middle calls turns last →
    Executed step state (call :: calls) (turn :: turns) last

namespace Executed

variable {step : τ → SystemEvent → τ → Prop} {state last : τ} {calls : List Call}
  {turns : List Turn}

/-- Every call has an answer of its kind. -/
theorem fits (executed : Executed step state calls turns last) :
    List.Forall₂ Request.Fits (calls.map Call.request) (turns.map Turn.answer) := by
  induction executed with
  | done => exact .nil
  | next pattern _ _ ih => exact .cons pattern.fits ih

/-- A deterministic system carries out calls in one way. -/
theorem unique (deterministic : Deterministic step) {others : List Turn} {finish : τ}
    (executed : Executed step state calls turns last)
    (other : Executed step state calls others finish) : turns = others ∧ last = finish := by
  induction executed generalizing others with
  | done =>
    cases other
    exact ⟨rfl, rfl⟩
  | next pattern trace _ ih =>
    cases other with
    | next otherPattern otherTrace other =>
      obtain ⟨answers, events, rfl⟩ :=
        Call.Shows.unique deterministic pattern trace otherPattern otherTrace
      obtain ⟨rfl, rfl⟩ := ih other
      rw [Turn.ext_iff.2 ⟨answers, events⟩]
      exact ⟨rfl, rfl⟩

/-- What was done to the system is what was done for each call, in order. -/
theorem trace (executed : Executed step state calls turns last) :
    Trace step state (turns.flatMap Turn.events) last := by
  induction executed with
  | done => exact .done _
  | next _ trace _ ih => exact trace.append ih

/-- Calls carried out on a recorded system are carried out on the system, and the record is what
was done. -/
theorem of_recorded {state last : τ × List SystemEvent}
    (executed : Executed (Recorded step) state calls turns last) :
    Executed step state.1 calls turns last.1 ∧
      last.2 = state.2 ++ turns.flatMap Turn.events := by
  refine ⟨?_, executed.trace.of_recorded.2⟩
  induction executed with
  | done => exact .done _
  | next pattern trace _ ih => exact .next pattern trace.of_recorded.1 ih

end Executed

namespace Target

/-- The accesses to a target as steps of a system. -/
def Step (target : Target τ ε) (state : τ) (event : SystemEvent) (next : τ) : Prop :=
  match event with
  | .read address data => target.readWord address state = .ok data next
  | .write address data => target.writeWord address data state = .ok () next
  | .start => target.startRasterizer state = .ok () next
  | .polled busy => target.rasterizerBusy state = .ok busy next
  | .cycles value => target.cycles state = .ok value next

/-- A target answers every access in one way. -/
theorem deterministic (target : Target τ ε) : Deterministic target.Step := by
  refine ⟨?_⟩
  intro state event other next later step otherStep same
  cases event <;> cases other <;> simp only [SystemEvent.asked, SystemEvent.read.injEq,
    SystemEvent.write.injEq, reduceCtorEq] at same
  all_goals
    simp only [Step] at step otherStep
  case read.read address data other result =>
    rw [same.1, otherStep] at step
    cases step
    exact ⟨by rw [same.1], rfl⟩
  case write.write address data other result =>
    rw [same.1, same.2, otherStep] at step
    cases step
    exact ⟨by rw [same.1, same.2], rfl⟩
  all_goals
    rw [otherStep] at step
    cases step
    exact ⟨rfl, rfl⟩

/-- Every access to the target succeeds. -/
structure Total (target : Target τ ε) : Prop where
  readWord : ∀ address state, ∃ data next, target.readWord address state = .ok data next
  writeWord : ∀ address data state, ∃ next, target.writeWord address data state = .ok () next
  startRasterizer : ∀ state, ∃ next, target.startRasterizer state = .ok () next
  rasterizerBusy : ∀ state, ∃ busy next, target.rasterizerBusy state = .ok busy next
  cycles : ∀ state, ∃ value next, target.cycles state = .ok value next

/-- After every start some poll finds the rasterizer idle. -/
def Settles (target : Target τ ε) : Prop :=
  ∀ state next, target.startRasterizer state = .ok () next → ∃ polls, Idles target.Step polls next

/-- An access with a record of it. -/
def recorded {α : Type} (action : EStateM ε τ α) (event : α → SystemEvent) :
    EStateM ε (τ × List SystemEvent) α := do
  let value ← Part.first.run action
  Part.second.update (· ++ [event value])
  pure value

/-- The target with a record of the accesses to it. -/
def recording (target : Target τ ε) : Target (τ × List SystemEvent) ε where
  readWord address := recorded (target.readWord address) (.read address)
  writeWord address data := recorded (target.writeWord address data) fun _ => .write address data
  startRasterizer := recorded target.startRasterizer fun _ => .start
  rasterizerBusy := recorded target.rasterizerBusy .polled
  cycles := recorded target.cycles .cycles

/-- An access that succeeds is recorded with its answer. -/
theorem recorded_ok {α : Type} {action : EStateM ε τ α} {state : τ × List SystemEvent} {value : α}
    {next : τ} (step : action state.1 = .ok value next) (event : α → SystemEvent) :
    recorded action event state = .ok value (next, state.2 ++ [event value]) := by
  rw [recorded, Action.bind_ok (Part.run_ok step)]
  rfl

end Target

end Bringup
