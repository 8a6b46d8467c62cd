import Bringup.Simulation.Ddr3
import Bringup.Proofs.Simulation.ByteLanes
/-!
# The memory controller as a sequential memory

A run is a list of requests, one for each cycle, on a controller that has seen no cycle. What
the bus master may rely on is stated through three lists of commands: those that were accepted,
those that are pending, and those that were executed, which are the accepted ones less the
pending ones. Main statement: in every run no command is lost, doubled or moved
(`controller_sequential`), the memory is the zero memory after the executed writes, a read is
answered in the cycle that executes it, and 35 idle cycles execute everything.

The proof goes cycle by cycle. A cycle moves commands along one line: the accepted command
enters behind, the completed one leaves in front (`pending_cycle`), and the effect on memory
and response is that of the completed one.
-/

namespace Bringup

/-- A memory of byte lanes. -/
abbrev LaneMemory : Type := Nat → Fin 8 → UInt8

namespace LaneMemory

/-- What a command leaves of a memory. A write changes the enabled lanes of one word. -/
def apply (memory : LaneMemory) : MemoryCommand → LaneMemory
  | .write address byteEnable data => fun place index =>
    if place = address ∧ laneEnabled byteEnable index then lane data index else memory place index
  | .read _ _ | .refresh => memory

/-- The zero memory after commands in order. -/
def after (commands : List MemoryCommand) : LaneMemory := commands.foldl apply fun _ _ => 0

end LaneMemory

/-- The lanes of a memory of words. -/
def Memory.lanes (memory : Memory) : LaneMemory := fun place index => lane (memory.get place) index

/-- A write to a memory of words is the write to its lanes. -/
theorem Memory.lanes_set (memory : Memory) (address : Nat) (byteEnable : UInt32) (data : UInt64) :
    (memory.set address (mergeBytes byteEnable (memory.get address) data)).lanes =
      memory.lanes.apply (.write address byteEnable data) := by
  funext place index
  simp only [lanes, LaneMemory.apply, get_set]
  by_cases here : address = place
  · subst here
    simp [lane_mergeBytes]
  · have elsewhere : place ≠ address := fun same => here same.symm
    simp [here, elsewhere]

namespace MemoryRequest

/-- The command that a request asks for, in range or not. -/
def wanted (request : MemoryRequest) : List MemoryCommand :=
  if request.read then [.read request.address.toNat request.byteEnable]
  else if request.write then [.write request.address.toNat request.byteEnable request.data]
  else []

/-- A request that drives nothing. -/
def Idle (request : MemoryRequest) : Prop :=
  request.read = false ∧ request.write = false ∧ request.burstBegin = false

instance (request : MemoryRequest) : Decidable request.Idle := by
  unfold Idle
  infer_instance

/-- A request without violation is understood as what it asks for, which is no refresh. -/
theorem command?_ok {request : MemoryRequest} {words : Nat} {command : Option MemoryCommand}
    (understood : request.command? words = .ok command) :
    request.wanted = command.toList ∧ command ≠ some .refresh := by
  unfold command? at understood
  split at understood
  · cases understood
  split at understood
  · cases understood
  split at understood
  · cases understood
  split at understood
  · cases understood
  split at understood
  · next reads => cases understood; simp [wanted, reads]
  · next keeps =>
    split at understood
    · next writes => cases understood; simp [wanted, keeps, writes]
    · next holds => cases understood; simp [wanted, keeps, holds]

/-- An idle request is understood as no command. -/
theorem Idle.command? {request : MemoryRequest} (idle : request.Idle) (words : Nat) :
    request.command? words = .ok none := by
  obtain ⟨read, write, burst⟩ := idle
  simp [MemoryRequest.command?, read, write, burst]

end MemoryRequest

namespace Ddr3

/-- The controller after a cycle, whether or not the request was a violation. -/
def cycle (ddr3 : Ddr3) (request : MemoryRequest) : Ddr3 :=
  match eval request ddr3 with
  | .ok _ next => next
  | .error _ next => next

/-- The command that a cycle accepts: the one asked for, if the controller has come up, sees no
violation and says that it is ready. -/
def accepts (ddr3 : Ddr3) (request : MemoryRequest) : List MemoryCommand :=
  match eval request ddr3 with
  | .ok response _ => if ddr3.initDone && response.ready then request.wanted else []
  | .error _ _ => []

/-- The command in flight, unless it is a refresh. -/
def inFlight (ddr3 : Ddr3) : List MemoryCommand :=
  match ddr3.current with
  | some (.refresh, _) | none => []
  | some (command, _) => [command]

/-- The commands not executed yet, the oldest first. -/
def pending (ddr3 : Ddr3) : List MemoryCommand := ddr3.inFlight ++ ddr3.queue

/-- The controller after a run. -/
def after (ddr3 : Ddr3) (requests : List MemoryRequest) : Ddr3 := requests.foldl cycle ddr3

/-- The commands that a run accepts, in order. -/
def acceptedIn (ddr3 : Ddr3) : List MemoryRequest → List MemoryCommand
  | [] => []
  | request :: rest => ddr3.accepts request ++ acceptedIn (ddr3.cycle request) rest

/-- The commands that a run from the start has accepted. -/
def accepted (words : Nat) (requests : List MemoryRequest) : List MemoryCommand :=
  (fresh words).acceptedIn requests

/-- The commands that a run from the start has executed: the accepted ones that are not
pending any more. -/
def executed (words : Nat) (requests : List MemoryRequest) : List MemoryCommand :=
  (accepted words requests).take
    ((accepted words requests).length - ((fresh words).after requests).pending.length)

/-- The command that completes in the next cycle, unless it is a refresh. -/
def completes (ddr3 : Ddr3) : List MemoryCommand :=
  match ddr3.initDone, ddr3.current with
  | true, some (_, elapsed) => if latency ≤ elapsed + 1 then ddr3.inFlight else []
  | _, _ => []

/-- The commands that complete in a run, in order. -/
def completedIn (ddr3 : Ddr3) : List MemoryRequest → List MemoryCommand
  | [] => []
  | request :: rest => ddr3.completes ++ completedIn (ddr3.cycle request) rest

/-- The controller at the beginning of a cycle: no answer yet, one cycle closer to a refresh. -/
def ticked (ddr3 : Ddr3) : Ddr3 :=
  { ddr3 with
    response := { ddr3.response with valid := false }, sinceRefresh := ddr3.sinceRefresh + 1 }

/-! ## One cycle -/

/-- What advancing can come to. -/
inductive Advances (ddr3 : Ddr3) : Ddr3 → Prop where
  /-- The command in flight completes. -/
  | completing (command : MemoryCommand) (elapsed : Nat)
    (flight : ddr3.current = some (command, elapsed)) (done : latency ≤ elapsed + 1) :
    Advances ddr3 (execute { ddr3.ticked with current := none } command)
  /-- The command in flight goes on. -/
  | running (command : MemoryCommand) (elapsed : Nat)
    (flight : ddr3.current = some (command, elapsed)) (early : elapsed + 1 < latency) :
    Advances ddr3 { ddr3.ticked with current := some (command, elapsed + 1) }
  /-- Nothing is in flight and a refresh is due. -/
  | refreshing (free : ddr3.current = none) (due : refreshInterval ≤ ddr3.sinceRefresh + 1) :
    Advances ddr3 { ddr3.ticked with current := some (.refresh, 0), sinceRefresh := 0 }
  /-- Nothing is in flight and the oldest waiting command starts. -/
  | starting (command : MemoryCommand) (queue : List MemoryCommand) (free : ddr3.current = none)
    (early : ddr3.sinceRefresh + 1 < refreshInterval) (waiting : ddr3.queue = command :: queue) :
    Advances ddr3 { ddr3.ticked with current := some (command, 0), queue }
  /-- Nothing is in flight and nothing waits. -/
  | resting (free : ddr3.current = none) (early : ddr3.sinceRefresh + 1 < refreshInterval)
    (empty : ddr3.queue = []) : Advances ddr3 ddr3.ticked

/-- Advancing comes to one of these. -/
theorem advances_advance (ddr3 : Ddr3) : Advances ddr3 ddr3.advance := by
  unfold advance progress
  cases flight : ddr3.current with
  | some entry =>
    obtain ⟨command, elapsed⟩ := entry
    simp only
    split
    · next done => exact .completing command elapsed flight done
    · next early => exact .running command elapsed flight (by omega)
  | none =>
    simp only
    split
    · next due => exact .refreshing flight due
    · next early =>
      cases waiting : ddr3.queue with
      | nil =>
        have same := Advances.resting flight (by omega) waiting
        rw [ticked, flight, waiting] at same
        exact same
      | cons command queue => exact .starting command queue flight (by omega) waiting

/-- A controller that comes up only counts. -/
theorem eval_starting {ddr3 : Ddr3} (starting : ddr3.initDone = false) (request : MemoryRequest) :
    eval request ddr3 = .ok ddr3.response { ddr3 with startup := ddr3.startup + 1 } := by
  simp [eval, starting]

/-- A controller that is up advances and then queues the command, if the request is none of the
violations. -/
theorem eval_running {ddr3 : Ddr3} (running : ddr3.initDone = true) (request : MemoryRequest) :
    eval request ddr3 = match request.command? ddr3.advance.memory.words with
      | .ok command => .ok (ddr3.advance.enqueue command).response (ddr3.advance.enqueue command)
      | .error violation => .error violation ddr3.advance :=
  if_pos running

/-- Whatever the request, a controller that is up advances, and the queue may grow. -/
theorem cycle_running {ddr3 : Ddr3} (running : ddr3.initDone = true) (request : MemoryRequest) :
    (ddr3.cycle request = ddr3.advance ∧ ddr3.accepts request = []) ∨
      ∃ command, request.command? ddr3.advance.memory.words = .ok command ∧
        ddr3.cycle request = ddr3.advance.enqueue command ∧
        ddr3.accepts request =
          if ddr3.advance.queue.length < queueDepth then command.toList else [] := by
  simp only [cycle, accepts, eval_running running]
  cases understood : request.command? ddr3.advance.memory.words with
  | error violation => exact .inl ⟨rfl, rfl⟩
  | ok command =>
    refine .inr ⟨command, rfl, rfl, ?_⟩
    simp [enqueue, running, (MemoryRequest.command?_ok understood).1]

/-- A controller is well formed: before it is up it holds nothing, its queue is bounded and
holds no refresh. -/
structure WellFormed (ddr3 : Ddr3) : Prop where
  starting : ddr3.initDone = false →
    ddr3.queue = [] ∧ ddr3.current = none ∧ ddr3.response.valid = false
  bounded : ddr3.queue.length ≤ queueDepth
  commands : .refresh ∉ ddr3.queue

/-- A controller that has seen no cycle is well formed. -/
theorem wellFormed_fresh (words : Nat) : (fresh words).WellFormed :=
  ⟨fun _ => ⟨rfl, rfl, rfl⟩, Nat.zero_le _, List.not_mem_nil⟩

/-- Carrying out a command touches neither the other commands nor the counts of cycles. -/
theorem execute_keeps (ddr3 : Ddr3) (command : MemoryCommand) :
    (ddr3.execute command).queue = ddr3.queue ∧ (ddr3.execute command).current = ddr3.current ∧
      (ddr3.execute command).startup = ddr3.startup ∧
      (ddr3.execute command).sinceRefresh = ddr3.sinceRefresh := by
  cases command <;> exact ⟨rfl, rfl, rfl, rfl⟩

/-- Advancing takes commands from the front of the queue alone. -/
theorem queue_advance (ddr3 : Ddr3) : ddr3.advance.queue <:+ ddr3.queue := by
  have steps := advances_advance ddr3
  generalize ddr3.advance = next at steps ⊢
  cases steps with
  | completing command elapsed flight done =>
    rw [(execute_keeps _ command).1]
    exact List.suffix_rfl
  | running => exact List.suffix_rfl
  | refreshing => exact List.suffix_rfl
  | starting command queue free early waiting =>
    rw [waiting]
    exact List.suffix_cons command queue
  | resting => exact List.suffix_rfl

/-- Queueing puts the command behind the others, if there is room. -/
theorem queue_enqueue (ddr3 : Ddr3) (command : Option MemoryCommand) :
    (ddr3.enqueue command).queue =
      ddr3.queue ++ if ddr3.queue.length < queueDepth then command.toList else [] := by
  by_cases room : ddr3.queue.length < queueDepth
  · simp [enqueue, room]
  · simp [enqueue, room]

/-- Advancing takes no part in coming up. -/
theorem startup_advance (ddr3 : Ddr3) : ddr3.advance.startup = ddr3.startup := by
  have steps := advances_advance ddr3
  generalize ddr3.advance = next at steps ⊢
  cases steps with
  | completing command elapsed flight done => exact (execute_keeps _ command).2.2.1
  | running => rfl
  | refreshing => rfl
  | starting => rfl
  | resting => rfl

/-- A cycle keeps a controller well formed. -/
theorem WellFormed.cycle {ddr3 : Ddr3} (formed : ddr3.WellFormed) (request : MemoryRequest) :
    (ddr3.cycle request).WellFormed := by
  cases running : ddr3.initDone with
  | false =>
    obtain ⟨queue, current, valid⟩ := formed.starting running
    simp only [Ddr3.cycle, eval_starting running]
    exact ⟨fun _ => ⟨queue, current, valid⟩, formed.bounded, formed.commands⟩
  | true =>
    have up : ∀ next : Ddr3, next.startup = ddr3.startup → next.initDone = true :=
      fun next same => by rw [initDone, same]; exact running
    have shorter : ddr3.advance.queue.length ≤ queueDepth :=
      (queue_advance ddr3).length_le.trans formed.bounded
    have clean : MemoryCommand.refresh ∉ ddr3.advance.queue :=
      fun inside => formed.commands ((queue_advance ddr3).mem inside)
    rcases cycle_running running request with ⟨next, _⟩ | ⟨command, understood, next, _⟩
    · rw [next]
      exact ⟨fun starting => by simp [up _ (startup_advance ddr3)] at starting, shorter, clean⟩
    · rw [next]
      have proper := (MemoryRequest.command?_ok understood).2
      have one : command.toList.length ≤ 1 := by cases command <;> simp
      refine ⟨fun starting => by simp [up (ddr3.advance.enqueue command) (startup_advance ddr3)]
        at starting, ?_, ?_⟩
      · rw [queue_enqueue, List.length_append]
        split
        · omega
        · exact shorter
      · rw [queue_enqueue, List.mem_append, not_or]
        refine ⟨clean, ?_⟩
        split
        · exact fun inside => proper (Option.mem_toList.1 inside)
        · exact List.not_mem_nil

/-- Well-formedness is kept in every run. -/
theorem WellFormed.after {ddr3 : Ddr3} (formed : ddr3.WellFormed) (requests : List MemoryRequest) :
    (ddr3.after requests).WellFormed := by
  induction requests generalizing ddr3 with
  | nil => exact formed
  | cons request rest ih => exact ih (formed.cycle request)

/-! ## Where commands go in a cycle -/

/-- Advancing moves a completed command out of the pending ones and touches no other. -/
theorem pending_advance {ddr3 : Ddr3} (running : ddr3.initDone = true)
    (proper : .refresh ∉ ddr3.queue) :
    ddr3.pending = ddr3.completes ++ ddr3.advance.pending := by
  have steps := advances_advance ddr3
  generalize ddr3.advance = next at steps ⊢
  cases steps with
  | completing command elapsed flight done =>
    obtain ⟨queue, current, _⟩ := execute_keeps { ddr3.ticked with current := none } command
    simp only [pending, completes, inFlight, running, flight, done, ↓reduceIte, queue, current,
      List.nil_append]
    rfl
  | running command elapsed flight early =>
    have late : ¬ latency ≤ elapsed + 1 := by omega
    simp only [pending, completes, inFlight, running, flight, late, ↓reduceIte, List.nil_append]
    cases command <;> rfl
  | refreshing free due =>
    simp only [pending, completes, inFlight, running, free, List.nil_append]
    rfl
  | starting command queue free early waiting =>
    rw [waiting] at proper
    simp only [pending, completes, inFlight, running, free, waiting, List.nil_append]
    cases command with
    | refresh => exact absurd List.mem_cons_self proper
    | read address byteEnable => rfl
    | write address byteEnable data => rfl
  | resting free early empty =>
    simp only [pending, completes, inFlight, running, free, empty, List.nil_append, ticked]

/-- Queueing puts an accepted command behind the pending ones. -/
theorem pending_enqueue (ddr3 : Ddr3) (command : Option MemoryCommand) :
    (ddr3.enqueue command).pending =
      ddr3.pending ++ if ddr3.queue.length < queueDepth then command.toList else [] := by
  have flight : (ddr3.enqueue command).inFlight = ddr3.inFlight := rfl
  rw [pending, flight, queue_enqueue, pending, List.append_assoc]

/-- A cycle moves commands along one line: in front the completed one leaves, behind the
accepted one enters. -/
theorem pending_cycle {ddr3 : Ddr3} (formed : ddr3.WellFormed) (request : MemoryRequest) :
    ddr3.pending ++ ddr3.accepts request = ddr3.completes ++ (ddr3.cycle request).pending := by
  cases running : ddr3.initDone with
  | false =>
    have holds : ddr3.completes = [] := by simp [completes, running]
    have refuses : ddr3.accepts request = [] := by simp [accepts, eval_starting running, running]
    have same : (ddr3.cycle request).pending = ddr3.pending := by
      rw [cycle, eval_starting running]
      rfl
    rw [holds, refuses, same, List.append_nil, List.nil_append]
  | true =>
    have line := pending_advance running formed.commands
    rcases cycle_running running request with ⟨next, accepted⟩ | ⟨command, _, next, accepted⟩
    · rw [next, accepted, List.append_nil, line]
    · rw [next, accepted, pending_enqueue, line, List.append_assoc]

/-! ## What a completed command does -/

/-- The effect of advancing on the lanes of the memory is that of the completed command. -/
theorem lanes_advance {ddr3 : Ddr3} (running : ddr3.initDone = true) :
    ddr3.advance.memory.lanes = ddr3.completes.foldl LaneMemory.apply ddr3.memory.lanes := by
  have steps := advances_advance ddr3
  generalize ddr3.advance = next at steps ⊢
  cases steps with
  | completing command elapsed flight done =>
    simp only [completes, inFlight, running, flight, done, ↓reduceIte]
    cases command with
    | read address byteEnable => rfl
    | refresh => rfl
    | write address byteEnable data => exact ddr3.memory.lanes_set address byteEnable data
  | running command elapsed flight early =>
    have late : ¬ latency ≤ elapsed + 1 := by omega
    simp only [completes, running, flight, late, ↓reduceIte, List.foldl_nil, ticked]
  | refreshing free due => simp only [completes, running, free, List.foldl_nil, ticked]
  | starting command queue free early waiting =>
    simp only [completes, running, free, List.foldl_nil, ticked]
  | resting free early empty => simp only [completes, running, free, List.foldl_nil, ticked]

/-- The effect of a cycle on the lanes of the memory is that of the completed command. -/
theorem lanes_cycle (ddr3 : Ddr3) (request : MemoryRequest) :
    (ddr3.cycle request).memory.lanes =
      ddr3.completes.foldl LaneMemory.apply ddr3.memory.lanes := by
  cases running : ddr3.initDone with
  | false =>
    rw [cycle, eval_starting running]
    simp [completes, running]
  | true =>
    rw [← lanes_advance running]
    rcases cycle_running running request with ⟨next, _⟩ | ⟨command, _, next, _⟩
    · rw [next]
    · rw [next]
      rfl

/-- How the response changes when these commands complete on a memory of lanes: a read makes
the data valid and replaces its enabled lanes; nothing else makes it valid or changes it. -/
def Answers (memory : LaneMemory) (old : MemoryResponse) (completed : List MemoryCommand)
    (new : MemoryResponse) : Prop :=
  match completed with
  | .read address byteEnable :: _ =>
    new.valid = true ∧ ∀ index, lane new.data index =
      if laneEnabled byteEnable index then memory address index else lane old.data index
  | _ => new.valid = false ∧ new.data = old.data

/-- Advancing answers a read that completes and nothing else. -/
theorem answers_advance {ddr3 : Ddr3} (running : ddr3.initDone = true) :
    Answers ddr3.memory.lanes ddr3.response ddr3.completes ddr3.advance.response := by
  have steps := advances_advance ddr3
  generalize ddr3.advance = next at steps ⊢
  cases steps with
  | completing command elapsed flight done =>
    simp only [completes, inFlight, running, flight, done, ↓reduceIte]
    cases command with
    | read address byteEnable => exact ⟨rfl, fun index => lane_mergeBytes byteEnable _ _ index⟩
    | refresh => exact ⟨rfl, rfl⟩
    | write address byteEnable data => exact ⟨rfl, rfl⟩
  | running command elapsed flight early =>
    have late : ¬ latency ≤ elapsed + 1 := by omega
    simp only [completes, running, flight, late, ↓reduceIte]
    exact ⟨rfl, rfl⟩
  | refreshing free due =>
    simp only [completes, running, free]
    exact ⟨rfl, rfl⟩
  | starting command queue free early waiting =>
    simp only [completes, running, free]
    exact ⟨rfl, rfl⟩
  | resting free early empty =>
    simp only [completes, running, free]
    exact ⟨rfl, rfl⟩

/-- A cycle answers a read that completes and nothing else. -/
theorem answers_cycle {ddr3 : Ddr3} (formed : ddr3.WellFormed) (request : MemoryRequest) :
    Answers ddr3.memory.lanes ddr3.response ddr3.completes (ddr3.cycle request).response := by
  cases running : ddr3.initDone with
  | false =>
    have holds : ddr3.completes = [] := by simp [completes, running]
    rw [holds, cycle, eval_starting running]
    exact ⟨(formed.starting running).2.2, rfl⟩
  | true =>
    have answer := answers_advance running
    rcases cycle_running running request with ⟨next, _⟩ | ⟨command, _, next, _⟩
    · rw [next]
      exact answer
    · rw [next]
      unfold Answers at answer ⊢
      split at answer <;> simpa [enqueue] using answer

/-! ## Runs -/

/-- A run of two parts is the second part after the first. -/
theorem after_append (ddr3 : Ddr3) (first second : List MemoryRequest) :
    ddr3.after (first ++ second) = (ddr3.after first).after second := List.foldl_append

/-- A run of two parts accepts what the parts accept. -/
theorem acceptedIn_append (ddr3 : Ddr3) (first second : List MemoryRequest) :
    ddr3.acceptedIn (first ++ second) =
      ddr3.acceptedIn first ++ (ddr3.after first).acceptedIn second := by
  induction first generalizing ddr3 with
  | nil => rfl
  | cons request rest ih =>
    rw [List.cons_append, acceptedIn, acceptedIn, ih, List.append_assoc]
    rfl

/-- A run of two parts completes what the parts complete. -/
theorem completedIn_append (ddr3 : Ddr3) (first second : List MemoryRequest) :
    ddr3.completedIn (first ++ second) =
      ddr3.completedIn first ++ (ddr3.after first).completedIn second := by
  induction first generalizing ddr3 with
  | nil => rfl
  | cons request rest ih =>
    rw [List.cons_append, completedIn, completedIn, ih, List.append_assoc]
    rfl

/-- Over a run, too, commands move along one line. -/
theorem pending_after {ddr3 : Ddr3} (formed : ddr3.WellFormed) (requests : List MemoryRequest) :
    ddr3.pending ++ ddr3.acceptedIn requests =
      ddr3.completedIn requests ++ (ddr3.after requests).pending := by
  induction requests generalizing ddr3 with
  | nil => simp [acceptedIn, completedIn, after]
  | cons request rest ih =>
    have first := pending_cycle formed request
    have later := ih (formed.cycle request)
    calc
      ddr3.pending ++ (ddr3.accepts request ++ (ddr3.cycle request).acceptedIn rest)
        = ddr3.completes ++ ((ddr3.cycle request).pending ++
            (ddr3.cycle request).acceptedIn rest) := by
          rw [← List.append_assoc, first, List.append_assoc]
      _ = ddr3.completes ++ (ddr3.cycle request).completedIn rest ++
            ((ddr3.cycle request).after rest).pending := by rw [later, List.append_assoc]

/-- The effect of a run on the lanes of the memory is that of the completed commands. -/
theorem lanes_after (ddr3 : Ddr3) (requests : List MemoryRequest) :
    (ddr3.after requests).memory.lanes =
      (ddr3.completedIn requests).foldl LaneMemory.apply ddr3.memory.lanes := by
  induction requests generalizing ddr3 with
  | nil => rfl
  | cons request rest ih =>
    rw [completedIn, List.foldl_append, ← lanes_cycle ddr3 request]
    exact ih (ddr3.cycle request)

/-- From the start, the accepted commands are the completed ones before the pending ones. -/
theorem accepted_eq_completed (words : Nat) (requests : List MemoryRequest) :
    accepted words requests =
      (fresh words).completedIn requests ++ ((fresh words).after requests).pending := by
  rw [← pending_after (wellFormed_fresh words)]
  rfl

/-- The executed commands are the completed ones. -/
theorem executed_eq_completed (words : Nat) (requests : List MemoryRequest) :
    executed words requests = (fresh words).completedIn requests := by
  rw [executed, accepted_eq_completed, List.length_append, Nat.add_sub_cancel]
  exact List.take_left

/-- The lanes of a memory of zeros are zero. -/
theorem lanes_fresh (words : Nat) : (fresh words).memory.lanes = fun _ _ => 0 := by
  funext place index
  simp only [fresh, Memory.lanes, Memory.get_zeros, lane]
  have amount : (0 : UInt64) >>> UInt64.ofNat (8 * index.val) = 0 := by
    rw [← UInt64.toNat_inj, UInt64.toNat_shiftRight]
    simp
  rw [amount]
  rfl

/-! ## Draining -/

/-- The cycles that the command in flight still takes. -/
def flightTime (ddr3 : Ddr3) : Nat :=
  match ddr3.current with
  | some (_, elapsed) => if latency ≤ elapsed + 1 then 1 else latency
  | none => 0

/-- The cycles that idle requests leave the controller to work, if a refresh may come up within
`cycles` of them: each waiting command takes its latency and the cycle that starts it. -/
def workload (ddr3 : Ddr3) (cycles : Nat) : Nat :=
  (latency + 1) * ddr3.queue.length + ddr3.flightTime +
    if refreshInterval ≤ ddr3.sinceRefresh + cycles then latency + 1 else 0

/-- An idle cycle accepts nothing. -/
theorem cycle_idle {ddr3 : Ddr3} (running : ddr3.initDone = true) {request : MemoryRequest}
    (idle : request.Idle) :
    (ddr3.cycle request).pending = ddr3.advance.pending ∧
      (ddr3.cycle request).queue = ddr3.advance.queue ∧
      (ddr3.cycle request).current = ddr3.advance.current ∧
      (ddr3.cycle request).sinceRefresh = ddr3.advance.sinceRefresh := by
  rcases cycle_running running request with ⟨next, _⟩ | ⟨command, understood, next, _⟩
  · rw [next]
    exact ⟨rfl, rfl, rfl, rfl⟩
  · rw [idle.command?] at understood
    cases understood
    rw [next]
    exact ⟨by rw [pending_enqueue]; simp, by rw [queue_enqueue]; simp, rfl, rfl⟩

/-- An idle request is never accepted as a command. -/
theorem accepts_idle (ddr3 : Ddr3) {request : MemoryRequest} (idle : request.Idle) :
    ddr3.accepts request = [] := by
  obtain ⟨read, write, _⟩ := idle
  have nothing : request.wanted = [] := by simp [MemoryRequest.wanted, read, write]
  unfold accepts
  split <;> simp [nothing]

/-- Idle requests accept nothing over a run. -/
theorem acceptedIn_idle (ddr3 : Ddr3) {idle : List MemoryRequest}
    (drives : ∀ request ∈ idle, request.Idle) : ddr3.acceptedIn idle = [] := by
  induction idle generalizing ddr3 with
  | nil => rfl
  | cons request rest ih =>
    rw [acceptedIn, accepts_idle ddr3 (drives request List.mem_cons_self), List.nil_append]
    exact ih _ fun later inside => drives later (List.mem_cons_of_mem request inside)

/-- With nothing pending an idle cycle leaves nothing pending. -/
theorem pending_cycle_idle {ddr3 : Ddr3} (formed : ddr3.WellFormed) {request : MemoryRequest}
    (idle : request.Idle) (empty : ddr3.pending = []) : (ddr3.cycle request).pending = [] := by
  have line := pending_cycle formed request
  rw [empty, accepts_idle ddr3 idle, List.append_nil] at line
  exact (List.append_eq_nil_iff.mp line.symm).2

/-- A command in flight takes at least one more cycle. -/
theorem flightTime_pos {ddr3 : Ddr3} {entry : MemoryCommand × Nat}
    (flight : ddr3.current = some entry) : 0 < ddr3.flightTime := by
  unfold flightTime
  rw [flight]
  dsimp only
  split <;> decide

/-- Each idle cycle works off one unit of the workload, as long as something is pending. -/
theorem workload_cycle {ddr3 : Ddr3} (running : ddr3.initDone = true) {request : MemoryRequest}
    (idle : request.Idle) (cycles : Nat) (few : cycles < refreshInterval)
    (busy : ddr3.pending ≠ []) :
    (ddr3.cycle request).workload cycles + 1 ≤ ddr3.workload (cycles + 1) := by
  obtain ⟨_, queue, current, since⟩ := cycle_idle running idle
  have onward : ddr3.sinceRefresh + 1 + cycles = ddr3.sinceRefresh + (cycles + 1) := by omega
  unfold workload flightTime
  rw [queue, current, since]
  have steps := advances_advance ddr3
  generalize ddr3.advance = next at steps ⊢
  cases steps with
  | completing command elapsed flight done =>
    obtain ⟨queue, current, _, since⟩ :=
      execute_keeps { ddr3.ticked with current := none } command
    rw [queue, current, since, flight]
    simp only [done, ↓reduceIte, ticked, onward]
    omega
  | running command elapsed flight early =>
    have late : ¬ latency ≤ elapsed + 1 := by omega
    have last : latency ≤ elapsed + 1 + 1 := by
      simp only [latency] at *
      omega
    simp only [flight, if_neg late, if_pos last, ticked, onward]
    simp only [latency]
    omega
  | refreshing free due =>
    have late : ¬ refreshInterval ≤ 0 + cycles := by omega
    have now : refreshInterval ≤ ddr3.sinceRefresh + (cycles + 1) := by omega
    have begun : ¬ latency ≤ 0 + 1 := by decide
    simp only [free, if_neg late, if_pos now, if_neg begun, ticked]
    omega
  | starting command rest free early waiting =>
    have begun : ¬ latency ≤ 0 + 1 := by decide
    simp only [free, waiting, if_neg begun, ticked, List.length_cons, onward]
    simp only [latency]
    omega
  | resting free early empty =>
    exact absurd (by simp [pending, inFlight, free, empty]) busy

/-- As many idle cycles as the workload leave nothing pending. -/
theorem pending_after_idle {ddr3 : Ddr3} (formed : ddr3.WellFormed) (idle : List MemoryRequest)
    (drives : ∀ request ∈ idle, request.Idle) (few : idle.length ≤ refreshInterval)
    (enough : ddr3.pending = [] ∨ ddr3.workload idle.length ≤ idle.length) :
    (ddr3.after idle).pending = [] := by
  induction idle generalizing ddr3 with
  | nil =>
    rcases enough with empty | enough
    · exact empty
    · simp only [workload, List.length_nil] at enough
      have queue : ddr3.queue = [] := by
        rw [← List.length_eq_zero_iff]
        simp only [latency] at enough
        omega
      have free : ddr3.current = none := by
        cases flight : ddr3.current with
        | none => rfl
        | some entry =>
          have positive := flightTime_pos flight
          omega
      simp [after, pending, inFlight, queue, free]
  | cons request rest ih =>
    have first := drives request List.mem_cons_self
    have others : ∀ later ∈ rest, later.Idle :=
      fun later inside => drives later (List.mem_cons_of_mem request inside)
    rw [List.length_cons] at few enough
    refine ih (formed.cycle request) others (by omega) ?_
    by_cases empty : ddr3.pending = []
    · exact .inl (pending_cycle_idle formed first empty)
    · right
      have enough := enough.resolve_left empty
      cases running : ddr3.initDone with
      | false =>
        obtain ⟨queue, current, _⟩ := formed.starting running
        exact absurd (by simp [pending, inFlight, queue, current]) empty
      | true =>
        have less := workload_cycle running first rest.length (by omega) empty
        omega

/-- No workload is larger than 35 cycles: ten commands wait, one was just started, and one
refresh comes in between. -/
theorem workload_le {ddr3 : Ddr3} (formed : ddr3.WellFormed) (cycles : Nat) :
    ddr3.workload cycles ≤ 35 := by
  have bounded := formed.bounded
  have flight : ddr3.flightTime ≤ 2 := by
    unfold flightTime
    split
    · split <;> simp [latency]
    · omega
  simp only [workload, queueDepth, latency] at *
  split <;> omega

/-! ## The sequential memory -/

/-- In every run from the start the accepted commands are the executed ones followed by the
pending ones, and the memory is the zero memory after the executed writes. The next cycle
executes at most the first pending command and is answered accordingly, reads with the word
that all commands accepted earlier have left. After 35 idle cycles every accepted command is
executed. -/
theorem controller_sequential (words : Nat) (requests : List MemoryRequest) :
    accepted words requests =
        executed words requests ++ ((fresh words).after requests).pending ∧
      ((fresh words).after requests).memory.lanes = LaneMemory.after (executed words requests) ∧
      (∀ request, ∃ completed,
        completed.length ≤ 1 ∧
          executed words (requests ++ [request]) = executed words requests ++ completed ∧
          Answers (LaneMemory.after (executed words requests))
            ((fresh words).after requests).response completed
            ((fresh words).after (requests ++ [request])).response) ∧
      ∀ idle : List MemoryRequest, idle.length = 35 → (∀ request ∈ idle, request.Idle) →
        executed words (requests ++ idle) = accepted words requests := by
  have formed := (wellFormed_fresh words).after requests
  have lanes : ((fresh words).after requests).memory.lanes =
      LaneMemory.after (executed words requests) := by
    rw [lanes_after, lanes_fresh, ← executed_eq_completed]
    rfl
  refine ⟨?_, lanes, ?_, ?_⟩
  · rw [executed_eq_completed, accepted_eq_completed]
  · intro request
    refine ⟨((fresh words).after requests).completes, ?_, ?_, ?_⟩
    · unfold completes inFlight
      split
      · split
        · split <;> simp
        · simp
      · simp
    · rw [executed_eq_completed, completedIn_append, ← executed_eq_completed]
      simp [completedIn]
    · rw [after_append, ← lanes]
      exact answers_cycle formed request
  · intro idle length drives
    have drained : ((fresh words).after (requests ++ idle)).pending = [] := by
      rw [after_append]
      exact pending_after_idle formed idle drives (by rw [length]; decide)
        (.inr (by rw [length]; exact workload_le formed 35))
    have refused := acceptedIn_idle ((fresh words).after requests) drives
    have whole := accepted_eq_completed words (requests ++ idle)
    rw [drained, List.append_nil, ← executed_eq_completed] at whole
    rw [← whole, accepted, acceptedIn_append, refused, List.append_nil]
    rfl

/-- A request that drives nothing at all. -/
def noRequest : MemoryRequest := {}

/-- A run that comes up, writes half of a word and reads it back. -/
def halfWordRun : List MemoryRequest :=
  List.replicate startupCycles noRequest ++
    [{ burstBegin := true, address := 3, data := 0x1122334455667788, byteEnable := 0x0f,
       write := true, size := 1 },
     { burstBegin := true, address := 3, byteEnable := 0xff, read := true, size := 1 }]

/-- The write and the read of that run are accepted, and 35 idle cycles execute both. -/
theorem halfWordRun_executed :
    accepted 16 halfWordRun = [.write 3 0x0f 0x1122334455667788, .read 3 0xff] ∧
      (List.replicate 35 noRequest).length = 35 ∧
      (∀ request ∈ List.replicate 35 noRequest, request.Idle) ∧
      executed 16 (halfWordRun ++ List.replicate 35 noRequest) = accepted 16 halfWordRun := by
  have length : (List.replicate 35 noRequest).length = 35 := by decide
  have idle : ∀ request ∈ List.replicate 35 noRequest, request.Idle := by
    intro request inside
    rw [List.eq_of_mem_replicate inside]
    decide
  exact ⟨by decide +kernel, length, idle,
    (controller_sequential 16 halfWordRun).2.2.2 _ length idle⟩

end Ddr3

end Bringup
