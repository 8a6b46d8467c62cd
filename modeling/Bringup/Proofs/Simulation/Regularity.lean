import Bringup.Proofs.Simulation.SequentialMemory
import Mathlib.Data.Nat.Find
/-!
# The memory controller under any traffic

A bus master may drive what it likes, violations included. Whatever it drives, the queue is bounded,
no command leaves the memory, and no command is in flight for more than a cycle (`Regular`).
Refreshes keep their schedule: from one to the next, and from the end of the startup to the first,
it takes 200 cycles, or one or two more where a command is in flight when the refresh is due. A
request that is a violation leaves the controller as an idle one does.

Main statement: `regular_under_traffic`.

The schedule rests on one bound: the cycles since the last refresh and those that the command in
flight still takes are never more than 201 (`OnTime`). So a refresh that is due waits for one
command, and for nothing that comes after it.
-/

namespace Bringup

/-- The command addresses a word of a memory of so many words, if it addresses one. -/
def MemoryCommand.Inside (words : Nat) : MemoryCommand → Prop
  | .read address _ | .write address _ _ => address < words
  | .refresh => True

instance (words : Nat) (command : MemoryCommand) : Decidable (command.Inside words) := by
  unfold MemoryCommand.Inside
  split <;> infer_instance

/-- A command that a request is understood as lies inside the memory. -/
theorem MemoryRequest.command?_inside {request : MemoryRequest} {words : Nat}
    {command : MemoryCommand} (understood : request.command? words = .ok (some command)) :
    command.Inside words := by
  unfold command? at understood
  split at understood
  · cases understood
  split at understood
  · cases understood
  split at understood
  · cases understood
  split at understood
  · cases understood
  next within =>
    split at understood
    · next reads =>
      cases understood
      simpa [MemoryCommand.Inside, reads] using within
    · split at understood
      · next writes =>
        cases understood
        simpa [MemoryCommand.Inside, writes] using within
      · cases understood

namespace Ddr3

variable {ddr3 : Ddr3} {words : Nat} {traffic : Nat → MemoryRequest}

/-! ## What holds in every state -/

/-- The queue is bounded, every command addresses a word of the memory, and the command in flight
has run for one cycle at most. -/
structure Regular (words : Nat) (ddr3 : Ddr3) : Prop where
  size : ddr3.memory.words = words
  depth : ddr3.queue.length ≤ queueDepth
  queued : ∀ command ∈ ddr3.queue, command.Inside words
  flight : ∀ entry ∈ ddr3.current, entry.1.Inside words ∧ entry.2 ≤ 1

/-- Carrying out a command keeps the size of the memory. -/
theorem words_execute (ddr3 : Ddr3) (command : MemoryCommand) :
    (ddr3.execute command).memory.words = ddr3.memory.words := by
  cases command <;> rfl

/-- Advancing keeps a controller regular. -/
theorem Regular.advance (regular : ddr3.Regular words) : ddr3.advance.Regular words := by
  have shorter := (queue_advance ddr3).length_le.trans regular.depth
  have queued : ∀ command ∈ ddr3.advance.queue, command.Inside words :=
    fun command inside => regular.queued command ((queue_advance ddr3).mem inside)
  have steps := advances_advance ddr3
  generalize ddr3.advance = next at steps shorter queued ⊢
  cases steps with
  | completing command elapsed flight done =>
    obtain ⟨_, current, _⟩ := execute_keeps { ddr3.ticked with current := none } command
    refine ⟨(words_execute _ command).trans regular.size, shorter, queued, ?_⟩
    rw [current]
    exact fun entry member => absurd member (Option.not_mem_none entry)
  | running command elapsed flight early =>
    refine ⟨regular.size, shorter, queued, ?_⟩
    rintro _ ⟨⟩
    refine ⟨(regular.flight _ flight).1, ?_⟩
    rw [latency] at early
    exact Nat.le_of_lt_succ early
  | refreshing free due =>
    refine ⟨regular.size, shorter, queued, ?_⟩
    rintro _ ⟨⟩
    exact ⟨trivial, Nat.zero_le 1⟩
  | starting command queue free early waiting =>
    refine ⟨regular.size, shorter, queued, ?_⟩
    rintro _ ⟨⟩
    refine ⟨regular.queued command ?_, Nat.zero_le 1⟩
    rw [waiting]
    exact List.mem_cons_self
  | resting free early empty =>
    refine ⟨regular.size, shorter, queued, ?_⟩
    show ∀ entry ∈ ddr3.current, _
    rw [free]
    exact fun entry member => absurd member (Option.not_mem_none entry)

/-- Queueing a command that is inside keeps a controller regular. -/
theorem Regular.enqueue (regular : ddr3.Regular words) {command : Option MemoryCommand}
    (inside : ∀ added ∈ command, added.Inside words) : (ddr3.enqueue command).Regular words where
  size := regular.size
  depth := by
    have one : command.toList.length ≤ 1 := by cases command <;> simp
    have depth := regular.depth
    rw [queue_enqueue, List.length_append]
    split
    · omega
    · exact depth
  queued := by
    rw [queue_enqueue]
    refine List.forall_mem_append.2 ⟨regular.queued, ?_⟩
    split
    · exact fun added among => inside added (Option.mem_toList.1 among)
    · exact fun added member => absurd member List.not_mem_nil
  flight := regular.flight

/-- Every cycle keeps a controller regular. -/
theorem Regular.cycle (regular : ddr3.Regular words) (request : MemoryRequest) :
    (ddr3.cycle request).Regular words := by
  cases running : ddr3.initDone with
  | false =>
    rw [Ddr3.cycle, eval_starting running]
    exact ⟨regular.size, regular.depth, regular.queued, regular.flight⟩
  | true =>
    rcases cycle_running running request with ⟨next, _⟩ | ⟨command, understood, next, _⟩
    · rw [next]
      exact regular.advance
    · rw [next]
      refine regular.advance.enqueue ?_
      rintro added ⟨⟩
      rw [regular.advance.size] at understood
      exact MemoryRequest.command?_inside understood

/-- So does every run. -/
theorem Regular.after (regular : ddr3.Regular words) (requests : List MemoryRequest) :
    (ddr3.after requests).Regular words := by
  induction requests generalizing ddr3 with
  | nil => exact regular
  | cons request rest ih => exact ih (regular.cycle request)

/-- A controller that has seen no cycle is regular. -/
theorem regular_fresh (words : Nat) : (fresh words).Regular words where
  size := rfl
  depth := Nat.zero_le _
  queued := fun _ member => absurd member List.not_mem_nil
  flight := fun entry member => absurd member (Option.not_mem_none entry)

/-! ## The schedule of refreshes -/

/-- The command in flight completes soon enough for the next refresh. -/
def OnTime (ddr3 : Ddr3) : Prop := ddr3.sinceRefresh + ddr3.flightTime ≤ refreshInterval + 1

/-- Whatever is requested, a cycle keeps the schedule of advancing. -/
theorem cycle_schedule (running : ddr3.initDone = true) (request : MemoryRequest) :
    (ddr3.cycle request).current = ddr3.advance.current ∧
      (ddr3.cycle request).sinceRefresh = ddr3.advance.sinceRefresh ∧
      (ddr3.cycle request).startup = ddr3.startup := by
  rcases cycle_running running request with ⟨next, _⟩ | ⟨_, _, next, _⟩
  all_goals
    rw [next]
    exact ⟨rfl, rfl, startup_advance ddr3⟩

/-- Advancing either starts a refresh, which is due and finds nothing in flight, or counts one more
cycle since the last one. -/
theorem advance_refreshes (proper : .refresh ∉ ddr3.queue) :
    (refreshInterval ≤ ddr3.sinceRefresh + 1 ∧ ddr3.advance.current = some (.refresh, 0) ∧
        ddr3.advance.sinceRefresh = 0) ∨
      (ddr3.advance.current ≠ some (.refresh, 0) ∧
        ddr3.advance.sinceRefresh = ddr3.sinceRefresh + 1) := by
  have steps := advances_advance ddr3
  generalize ddr3.advance = next at steps ⊢
  cases steps with
  | completing command =>
    obtain ⟨_, current, _, since⟩ := execute_keeps { ddr3.ticked with current := none } command
    rw [current, since]
    exact .inr ⟨(Option.some_ne_none _).symm, rfl⟩
  | running command elapsed flight early =>
    refine .inr ⟨fun same => ?_, rfl⟩
    cases same
  | refreshing free due => exact .inl ⟨due, rfl, rfl⟩
  | starting command queue free early waiting =>
    refine .inr ⟨fun same => proper ?_, rfl⟩
    cases same
    rw [waiting]
    exact List.mem_cons_self
  | resting free early empty =>
    refine .inr ⟨?_, rfl⟩
    show ddr3.current ≠ _
    rw [free]
    exact (Option.some_ne_none _).symm

/-- A cycle that begins on time ends on time. -/
theorem OnTime.advance (onTime : ddr3.OnTime) : ddr3.advance.OnTime := by
  have steps := advances_advance ddr3
  generalize ddr3.advance = next at steps ⊢
  unfold OnTime flightTime at onTime ⊢
  cases steps with
  | completing command elapsed flight done =>
    obtain ⟨_, current, _, since⟩ := execute_keeps { ddr3.ticked with current := none } command
    rw [current, since]
    simp only [flight, if_pos done] at onTime
    simp only [ticked]
    omega
  | running command elapsed flight early =>
    have late : ¬ latency ≤ elapsed + 1 := by omega
    have last : latency ≤ elapsed + 1 + 1 := by
      rw [latency]
      omega
    simp only [flight, if_neg late] at onTime
    simp only [ticked, if_pos last]
    rw [latency] at onTime
    omega
  | refreshing free due =>
    show 0 + latency ≤ refreshInterval + 1
    decide
  | starting command queue free early waiting =>
    have begun : ¬ latency ≤ 0 + 1 := by decide
    simp only [ticked, if_neg begun]
    rw [latency]
    omega
  | resting free early empty =>
    simp only [ticked, free]
    omega

/-- Every cycle keeps the schedule. -/
theorem OnTime.cycle (onTime : ddr3.OnTime) (request : MemoryRequest) :
    (ddr3.cycle request).OnTime := by
  cases running : ddr3.initDone with
  | false =>
    rw [Ddr3.cycle, eval_starting running]
    exact onTime
  | true =>
    obtain ⟨current, since, _⟩ := cycle_schedule running request
    rw [OnTime, flightTime, current, since]
    exact onTime.advance

/-- The controller after so many cycles of a traffic. -/
def reached (words : Nat) (traffic : Nat → MemoryRequest) (cycles : Nat) : Ddr3 :=
  (fresh words).after ((List.range cycles).map traffic)

/-- The cycle with this number, the first being number one, starts a refresh. -/
def RefreshStarts (words : Nat) (traffic : Nat → MemoryRequest) (number : Nat) : Prop :=
  (reached words traffic number).current = some (.refresh, 0)

instance (words : Nat) (traffic : Nat → MemoryRequest) (number : Nat) :
    Decidable (RefreshStarts words traffic number) :=
  inferInstanceAs (Decidable (_ = _))

/-- One more cycle of a traffic. -/
theorem reached_succ (words : Nat) (traffic : Nat → MemoryRequest) (cycles : Nat) :
    reached words traffic (cycles + 1) = (reached words traffic cycles).cycle (traffic cycles) := by
  rw [reached, List.range_succ, List.map_append, after_append]
  rfl

/-- Every state of a traffic is well formed. -/
theorem wellFormed_reached (words : Nat) (traffic : Nat → MemoryRequest) (cycles : Nat) :
    (reached words traffic cycles).WellFormed :=
  (wellFormed_fresh words).after _

/-- Every state of a traffic is on time. -/
theorem onTime_reached (words : Nat) (traffic : Nat → MemoryRequest) (cycles : Nat) :
    (reached words traffic cycles).OnTime := by
  induction cycles with
  | zero => exact Nat.zero_le _
  | succ cycles ih =>
    rw [reached_succ]
    exact ih.cycle _

/-- The controller has come up after its startup cycles and not before. -/
theorem startup_reached (words : Nat) (traffic : Nat → MemoryRequest) (cycles : Nat) :
    (reached words traffic cycles).startup = min cycles startupCycles := by
  induction cycles with
  | zero => rfl
  | succ cycles ih =>
    rw [reached_succ]
    cases running : (reached words traffic cycles).initDone with
    | false =>
      have counted := running
      rw [initDone, decide_eq_false_iff_not, ih] at counted
      rw [Ddr3.cycle, eval_starting running]
      show (reached words traffic cycles).startup + 1 = _
      rw [ih]
      omega
    | true =>
      have counted := running
      rw [initDone, decide_eq_true_eq, ih] at counted
      rw [(cycle_schedule running _).2.2, ih]
      omega

/-- Whether the controller has come up depends on the number of cycles alone. -/
theorem initDone_reached (words : Nat) (traffic : Nat → MemoryRequest) (cycles : Nat) :
    (reached words traffic cycles).initDone = true ↔ startupCycles ≤ cycles := by
  rw [initDone, decide_eq_true_eq, startup_reached]
  omega

/-- Up to the end of the startup nothing is in flight, and no cycle counts for a refresh. -/
theorem reached_startup (words : Nat) (traffic : Nat → MemoryRequest) {cycles : Nat}
    (early : cycles ≤ startupCycles) :
    (reached words traffic cycles).current = none ∧
      (reached words traffic cycles).sinceRefresh = 0 := by
  induction cycles with
  | zero => exact ⟨rfl, rfl⟩
  | succ cycles ih =>
    have starting : (reached words traffic cycles).initDone = false := by
      rw [Bool.eq_false_iff, ne_eq, initDone_reached]
      omega
    rw [reached_succ, Ddr3.cycle, eval_starting starting]
    exact ih (by omega)

/-- After the startup, a cycle of a traffic starts a refresh that is due, or counts. -/
theorem reached_refreshes (words : Nat) (traffic : Nat → MemoryRequest) {cycles : Nat}
    (up : startupCycles ≤ cycles) :
    (refreshInterval ≤ (reached words traffic cycles).sinceRefresh + 1 ∧
        RefreshStarts words traffic (cycles + 1) ∧
        (reached words traffic (cycles + 1)).sinceRefresh = 0) ∨
      (¬RefreshStarts words traffic (cycles + 1) ∧
        (reached words traffic (cycles + 1)).sinceRefresh =
          (reached words traffic cycles).sinceRefresh + 1) := by
  have running := (initDone_reached words traffic cycles).2 up
  obtain ⟨current, since, _⟩ := cycle_schedule running (traffic cycles)
  rw [RefreshStarts, reached_succ, current, since]
  exact advance_refreshes (wellFormed_reached words traffic cycles).commands

section Count

variable {start : Nat} (marks : start = startupCycles ∨ RefreshStarts words traffic start)

include marks

/-- The count begins at the end of the startup and at every refresh. -/
theorem sinceRefresh_start :
    startupCycles ≤ start ∧ (reached words traffic start).sinceRefresh = 0 := by
  rcases marks with rfl | starts
  · exact ⟨Nat.le_refl _, (reached_startup words traffic (Nat.le_refl _)).2⟩
  · -- A refresh is in flight after its first cycle, so that cycle was no startup cycle.
    have late : startupCycles < start := by
      by_contra early
      rw [RefreshStarts, (reached_startup words traffic (by omega)).1] at starts
      cases starts
    obtain ⟨before, rfl⟩ := Nat.exists_eq_add_one_of_ne_zero (Nat.ne_zero_of_lt late)
    rcases reached_refreshes words traffic (by omega : startupCycles ≤ before) with
      ⟨_, _, zero⟩ | ⟨absent, _⟩
    · exact ⟨Nat.le_of_lt late, zero⟩
    · exact absurd starts absent

/-- As long as no refresh starts, all cycles since the count began are counted. -/
theorem sinceRefresh_quiet (gap : Nat)
    (quiet : ∀ later ≤ gap, 0 < later → ¬RefreshStarts words traffic (start + later)) :
    (reached words traffic (start + gap)).sinceRefresh = gap := by
  obtain ⟨up, zero⟩ := sinceRefresh_start marks
  induction gap with
  | zero => exact zero
  | succ gap ih =>
    have counted := ih fun later before => quiet later (Nat.le_succ_of_le before)
    rcases reached_refreshes words traffic (by omega : startupCycles ≤ start + gap) with
      ⟨_, starts, _⟩ | ⟨_, one⟩
    · exact absurd starts (quiet (gap + 1) (Nat.le_refl _) (Nat.succ_pos gap))
    · rw [← Nat.add_assoc, one, counted]

/-- From where the count begins, the next refresh starts 200, 201 or 202 cycles later. -/
theorem refresh_follows :
    ∃ gap ∈ [200, 201, 202], RefreshStarts words traffic (start + gap) ∧
      ∀ between, start < between → between < start + gap →
        ¬RefreshStarts words traffic between := by
  have within (cycles : Nat) : (reached words traffic cycles).sinceRefresh ≤ 201 :=
    Nat.le_trans (Nat.le_add_right _ _) (onTime_reached words traffic cycles)
  have ahead : ∃ gap, 0 < gap ∧ RefreshStarts words traffic (start + gap) := by
    by_contra never
    have counted := sinceRefresh_quiet marks 202
      fun later _ positive starts => never ⟨later, positive, starts⟩
    have bound := within (start + 202)
    omega
  obtain ⟨gap, ⟨positive, starts⟩, first⟩ :
      ∃ gap, (0 < gap ∧ RefreshStarts words traffic (start + gap)) ∧
        ∀ later < gap, ¬(0 < later ∧ RefreshStarts words traffic (start + later)) :=
    ⟨Nat.find ahead, Nat.find_spec ahead, fun later before => Nat.find_min ahead before⟩
  obtain ⟨before, rfl⟩ := Nat.exists_eq_add_one_of_ne_zero (Nat.ne_of_gt positive)
  have counted := sinceRefresh_quiet marks before
    fun later least positive starts => first later (by omega) ⟨positive, starts⟩
  have up := (sinceRefresh_start marks).1
  have bound := within (start + before)
  refine ⟨before + 1, ?_, starts, fun between after last here => ?_⟩
  · rcases reached_refreshes words traffic (by omega : startupCycles ≤ start + before) with
      ⟨due, _⟩ | ⟨absent, _⟩
    · rw [refreshInterval] at due
      simp only [List.mem_cons, List.not_mem_nil, or_false]
      omega
    · exact absurd starts absent
  · refine first (between - start) (by omega) ⟨by omega, ?_⟩
    rwa [Nat.add_sub_cancel' (Nat.le_of_lt after)]

end Count

/-! ## Violations -/

/-- Advancing does not touch the ready signal. -/
theorem ready_advance (ddr3 : Ddr3) : ddr3.advance.response.ready = ddr3.response.ready := by
  have steps := advances_advance ddr3
  generalize ddr3.advance = next at steps ⊢
  cases steps with
  | completing command elapsed flight done => cases command <;> rfl
  | running => rfl
  | refreshing => rfl
  | starting => rfl
  | resting => rfl

/-- A request that is a violation lets the controller advance, and nothing more. -/
theorem eval_violation {request : MemoryRequest} {violation : Violation} {next : Ddr3}
    (rejected : eval request ddr3 = .error violation next) :
    ddr3.initDone = true ∧ next = ddr3.advance := by
  cases running : ddr3.initDone with
  | false =>
    rw [eval_starting running] at rejected
    cases rejected
  | true =>
    rw [eval_running running] at rejected
    split at rejected
    · cases rejected
    · cases rejected
      exact ⟨rfl, rfl⟩

/-- Queueing nothing changes the ready signal alone. -/
theorem enqueue_none (ddr3 : Ddr3) :
    ddr3.enqueue none = { ddr3 with response :=
      { ddr3.response with ready := decide (ddr3.queue.length < queueDepth) } } := by
  simp [enqueue]

/-- A violation leaves the controller as an idle request does, up to the ready signal, which stays
as it was. -/
theorem eval_violation_idle {request idle : MemoryRequest} {violation : Violation} {next : Ddr3}
    (rejected : eval request ddr3 = .error violation next) (drives : idle.Idle) :
    ∃ response other, eval idle ddr3 = .ok response other ∧
      next = { other with response := { other.response with ready := ddr3.response.ready } } := by
  obtain ⟨running, rfl⟩ := eval_violation rejected
  refine ⟨(ddr3.advance.enqueue none).response, ddr3.advance.enqueue none, ?_, ?_⟩
  · rw [eval_running running, drives.command?]
  · rw [enqueue_none, ← ready_advance]

/-! ## Any traffic -/

/-- Under any traffic, violations included: every state is regular. The controller has come up after
its startup cycles, in which no refresh starts. From the end of the startup to the first refresh,
and from each refresh to the next, it takes 200, 201 or 202 cycles. A request that is a violation
queues nothing and leaves everything but the ready signal as an idle request would have; that
signal stays as it was. -/
theorem regular_under_traffic (words : Nat) (traffic : Nat → MemoryRequest) :
    (∀ cycles, (reached words traffic cycles).Regular words) ∧
    (∀ cycles, (reached words traffic cycles).initDone = true ↔ startupCycles ≤ cycles) ∧
    (∀ number ≤ startupCycles, ¬RefreshStarts words traffic number) ∧
    (∀ start, start = startupCycles ∨ RefreshStarts words traffic start →
      ∃ gap ∈ [200, 201, 202], RefreshStarts words traffic (start + gap) ∧
        ∀ between, start < between → between < start + gap →
          ¬RefreshStarts words traffic between) ∧
    ∀ cycles request violation next,
      eval request (reached words traffic cycles) = .error violation next →
      next.queue <:+ (reached words traffic cycles).queue ∧
      ∀ idle : MemoryRequest, idle.Idle → ∃ response other,
        eval idle (reached words traffic cycles) = .ok response other ∧
        next = { other with response :=
          { other.response with ready := (reached words traffic cycles).response.ready } } := by
  refine ⟨fun cycles => (regular_fresh words).after _, initDone_reached words traffic, ?_,
    fun start marks => refresh_follows marks, ?_⟩
  · intro number early starts
    rw [RefreshStarts, (reached_startup words traffic early).1] at starts
    cases starts
  · intro cycles request violation next rejected
    refine ⟨?_, fun idle drives => eval_violation_idle rejected drives⟩
    rw [(eval_violation rejected).2]
    exact queue_advance _

/-- Writes without a pause, and a violation in every third cycle. -/
def rudeTraffic (cycle : Nat) : MemoryRequest :=
  { burstBegin := true, address := 5, data := 0x55, byteEnable := 0xff, read := cycle % 3 = 2,
    write := true, size := 1 }

/-- Under these requests a write waits and another is in flight, both inside the memory; no refresh
starts with the startup; the refresh in cycle 300 is followed by another; and the violation two
cycles later queues nothing. -/
theorem rudeTraffic_regular :
    (.write 5 0xff 0x55 ∈ (reached 16 rudeTraffic 302).queue ∧
      (MemoryCommand.write 5 0xff 0x55).Inside 16) ∧
    ((.write 5 0xff 0x55, 1) ∈ (reached 16 rudeTraffic 298).current ∧
      (MemoryCommand.write 5 0xff 0x55).Inside 16 ∧ 1 ≤ 1) ∧
    ¬RefreshStarts 16 rudeTraffic startupCycles ∧
    (RefreshStarts 16 rudeTraffic 300 ∧
      ∃ gap ∈ [200, 201, 202], RefreshStarts 16 rudeTraffic (300 + gap)) ∧
    ∃ next, eval (rudeTraffic 302) (reached 16 rudeTraffic 302) = .error .readAndWrite next ∧
      next.queue <:+ (reached 16 rudeTraffic 302).queue ∧
      ∃ response other, eval noRequest (reached 16 rudeTraffic 302) = .ok response other ∧
        next = { other with response := { other.response with
          ready := (reached 16 rudeTraffic 302).response.ready } } := by
  obtain ⟨regular, _, startup, schedule, violations⟩ := regular_under_traffic 16 rudeTraffic
  have waits : .write 5 0xff 0x55 ∈ (reached 16 rudeTraffic 302).queue := by decide +kernel
  have flies : (.write 5 0xff 0x55, 1) ∈ (reached 16 rudeTraffic 298).current := by decide +kernel
  have starts : RefreshStarts 16 rudeTraffic 300 := by decide +kernel
  have running : (reached 16 rudeTraffic 302).initDone = true := by decide +kernel
  have rejected : eval (rudeTraffic 302) (reached 16 rudeTraffic 302) =
      .error .readAndWrite (reached 16 rudeTraffic 302).advance := by
    rw [eval_running running]
    rfl
  obtain ⟨gap, among, follows, _⟩ := schedule 300 (.inr starts)
  obtain ⟨kept, same⟩ := violations 302 _ _ _ rejected
  exact ⟨⟨waits, (regular 302).queued _ waits⟩, ⟨flies, (regular 298).flight _ flies⟩,
    startup startupCycles (Nat.le_refl _), ⟨starts, gap, among, follows⟩,
    _, rejected, kept, same noRequest (by decide)⟩

end Ddr3

end Bringup
