import Bringup.Monitor.Frame
import Bringup.Proofs.Monitor.Execution
import Bringup.Proofs.Wire.MessageCodec
import Mathlib.Order.Filter.Basic
/-!
# Serving calls

The monitor's server runs between a line, a target and a log, which may all lie in one state. What
it may rely on is stated once (`Surroundings`): the line carries bytes, the target follows a
transition system, a log record may put bytes of its own on the line, and the rasterizer settles
within the patience. From there each part of the server has one lemma, and a run of the server over
the requests for calls carries out these calls and writes, for each of them, what its log record
put on the line and then its answer (`Surroundings.serveRequests_calls`).

The patience is a parameter of the server that a monitor on a board does not have. Statements hold
for all patiences of a filter: of those large enough, or of a single one.
-/

namespace Bringup.Monitor

open Filter

variable {σ τ ε : Type}

/-- What the server may rely on. A state `holds` a state of the system, the bytes that can still be
read and the bytes that were written. A log record may write the bytes that it is `shown` as. -/
structure Surroundings (stream : ByteStream σ ε) (target : Target σ ε) (log : Logger σ ε)
    (step : τ → SystemEvent → τ → Prop) (shown : LogRecord → List UInt8 → Prop)
    (patiences : Filter Nat) (holds : σ → τ → List UInt8 → List UInt8 → Prop) : Prop where
  carries : ∀ system, stream.Carries fun state unread written => holds state system unread written
  readWord : ∀ {state system unread written}, holds state system unread written → ∀ address,
    ∃ data next later, target.readWord address state = .ok data next ∧
      step system (.read address data) later ∧ holds next later unread written
  writeWord : ∀ {state system unread written}, holds state system unread written →
    ∀ address data, ∃ next later, target.writeWord address data state = .ok () next ∧
      step system (.write address data) later ∧ holds next later unread written
  startRasterizer : ∀ {state system unread written}, holds state system unread written →
    ∃ next later, target.startRasterizer state = .ok () next ∧ step system .start later ∧
      holds next later unread written
  rasterizerBusy : ∀ {state system unread written}, holds state system unread written →
    ∃ busy next later, target.rasterizerBusy state = .ok busy next ∧
      step system (.polled busy) later ∧ holds next later unread written
  cycles : ∀ {state system unread written}, holds state system unread written →
    ∃ value next later, target.cycles state = .ok value next ∧
      step system (.cycles value) later ∧ holds next later unread written
  log : ∀ {state system unread written}, holds state system unread written → ∀ record,
    ∃ bytes next, log record state = .ok () next ∧ shown record bytes ∧
      holds next system unread (written ++ bytes)
  settles : ∀ {system later}, step system .start later →
    ∃ polls, Idles step polls later ∧ ∀ᶠ patience in patiences, polls ≤ patience

/-- The record that the server makes of a request. -/
def requestRecord (request : Request) : LogRecord :=
  ⟨.trace, logTarget, "request: " ++ request.describe⟩

/-- The bytes on the line for calls carried out, given those of the log record before each. -/
def lineBytes (lines : List (List UInt8)) (turns : List Turn) : List UInt8 :=
  (List.zipWith (fun line turn => line ++ turn.answer.encode) lines turns).flatten

/-- Lifting an action of the stream's own kind changes nothing about one that succeeds. -/
theorem acting_ok {action : EStateM ε σ α} {state next : σ} {value : α}
    (step : action state = .ok value next) : acting action state = .ok value next :=
  Action.adapt_ok step _

/-- Lifting a transfer changes nothing about one that succeeds. -/
theorem transferring_ok {action : EStateM (TransferError ε) σ α} {state next : σ} {value : α}
    (step : action state = .ok value next) : transferring action state = .ok value next :=
  Action.adapt_ok step _

/-- The address of a pixel, as the accesses of a tile give it. -/
theorem tileAddress_eq (index : Nat) : tileAddress index = tileBase + 16 * UInt32.ofNat index := by
  rw [tileAddress, tileStride, UInt32.mul_comm]

namespace Surroundings

variable {stream : ByteStream σ ε} {target : Target σ ε} {log : Logger σ ε}
  {step : τ → SystemEvent → τ → Prop} {shown : LogRecord → List UInt8 → Prop}
  {patiences : Filter Nat} {holds : σ → τ → List UInt8 → List UInt8 → Prop}
  {state : σ} {system : τ} {unread written : List UInt8}

/-- Writing pixels is one access for each, in order. -/
theorem writePixels_all
    (surroundings : Surroundings stream target log step shown patiences holds)
    (held : holds state system unread written) (index : Nat) (pixels : List UInt32) :
    ∃ next later, writePixels target index pixels state = .ok () next ∧
      Trace step system
        (pixels.mapIdx fun offset pixel => .write (tileAddress (index + offset)) pixel) later ∧
      holds next later unread written := by
  induction pixels generalizing state system index with
  | nil => exact ⟨state, system, rfl, .done system, held⟩
  | cons pixel rest ih =>
    obtain ⟨middle, between, written, taken, kept⟩ :=
      surroundings.writeWord held (tileAddress index) pixel
    obtain ⟨next, later, others, trace, kept⟩ := ih kept (index + 1)
    refine ⟨next, later, ?_, ?_, kept⟩
    · rw [writePixels, Action.bind_ok written]
      exact others
    · rw [List.mapIdx_cons, Nat.add_zero]
      simp only [← Nat.add_assoc, Nat.add_right_comm index _ 1]
      exact .next taken trace

/-- Sending pixels is one access for each, in order, and sends what was read. -/
theorem sendPixels_all
    (surroundings : Surroundings stream target log step shown patiences holds)
    (held : holds state system unread written) (count index : Nat) :
    ∃ (pixels : List UInt32) (next : σ) (later : τ), pixels.length = count ∧
      sendPixels stream target count index state = .ok () next ∧
      Trace step system
        (pixels.mapIdx fun offset pixel => .read (tileAddress (index + offset)) pixel) later ∧
      holds next later unread (written ++ pixels.flatMap LittleEndian.bytes32) := by
  induction count generalizing state system written index with
  | zero =>
    refine ⟨[], state, system, rfl, rfl, .done system, ?_⟩
    rwa [List.flatMap_nil, List.append_nil]
  | succ count ih =>
    obtain ⟨pixel, middle, between, read, taken, kept⟩ :=
      surroundings.readWord held (tileAddress index)
    obtain ⟨sent, word, kept⟩ := (surroundings.carries between).writeWord32_all pixel kept
    obtain ⟨rest, next, later, length, others, trace, kept⟩ := ih kept (index + 1)
    refine ⟨pixel :: rest, next, later, by rw [List.length_cons, length], ?_, ?_, ?_⟩
    · rw [sendPixels, Action.bind_ok (acting_ok read), Action.bind_ok (transferring_ok word)]
      exact others
    · rw [List.mapIdx_cons, Nat.add_zero]
      simp only [← Nat.add_assoc, Nat.add_right_comm index _ 1]
      exact .next taken trace
    · rw [List.flatMap_cons, ← List.append_assoc]
      exact kept

/-- Waiting for the rasterizer ends with the first poll that finds it idle. -/
theorem awaitIdle_idles
    (surroundings : Surroundings stream target log step shown patiences holds) {polls : Nat}
    (held : holds state system unread written) (idles : Idles step polls system) :
    ∃ busy next later, Trace step system (Call.polling busy) later ∧
      holds next later unread written ∧
      ∀ patience, polls ≤ patience → awaitIdle target patience state = .ok () next := by
  induction polls generalizing state system with
  | zero => exact idles.elim
  | succ polls ih =>
    obtain ⟨busy, middle, between, poll, taken, kept⟩ := surroundings.rasterizerBusy held
    cases busy with
    | false =>
      refine ⟨0, middle, between, .single taken, kept, ?_⟩
      intro patience enough
      obtain ⟨patience, rfl⟩ := Nat.exists_eq_add_one_of_ne_zero (by omega : patience ≠ 0)
      rw [awaitIdle, Action.bind_ok (acting_ok poll)]
      rfl
    | true =>
      obtain ⟨busy, next, later, trace, kept, waited⟩ := ih kept (idles true between taken rfl)
      refine ⟨busy + 1, next, later, .next taken trace, kept, ?_⟩
      intro patience enough
      obtain ⟨patience, rfl⟩ := Nat.exists_eq_add_one_of_ne_zero (by omega : patience ≠ 0)
      rw [awaitIdle, Action.bind_ok (acting_ok poll), if_pos rfl]
      exact waited patience (by omega)

/-- A run of the rasterizer is timed by the two readings of the clock around it. -/
theorem rasterize_timed
    (surroundings : Surroundings stream target log step shown patiences holds)
    (held : holds state system unread written) :
    ∃ first last busy next later,
      Trace step system ([.cycles first, .start] ++ Call.polling busy ++ [.cycles last]) later ∧
      holds next later unread written ∧
      ∀ᶠ patience in patiences, rasterize target patience state = .ok (last - first) next := by
  obtain ⟨first, afterFirst, _, firstReading, firstStep, kept⟩ := surroundings.cycles held
  obtain ⟨started, running, starting, startStep, kept⟩ := surroundings.startRasterizer kept
  obtain ⟨polls, idles, enough⟩ := surroundings.settles startStep
  obtain ⟨busy, waited, _, polling, kept, waiting⟩ := surroundings.awaitIdle_idles kept idles
  obtain ⟨last, next, later, lastReading, lastStep, kept⟩ := surroundings.cycles kept
  refine ⟨first, last, busy, next, later, ?_, kept, enough.mono ?_⟩
  · exact .append (.append (.next firstStep (.single startStep)) polling) (.single lastStep)
  · intro patience most
    rw [rasterize, Action.bind_ok (acting_ok firstReading), Action.bind_ok (acting_ok starting),
      Action.bind_ok (waiting patience most), Action.bind_ok (acting_ok lastReading)]
    rfl

/-- The request for a call carries out the call and writes its answer. -/
theorem perform_call
    (surroundings : Surroundings stream target log step shown patiences holds)
    (held : holds state system unread written) (call : Call) :
    ∃ (turn : Turn) (next : σ) (later : τ), call.Shows turn.answer turn.events ∧
      Trace step system turn.events later ∧
      holds next later unread (written ++ turn.answer.encode) ∧
      ∀ᶠ patience in patiences,
        perform stream target patience call.request state = .ok true next := by
  cases call with
  | writeWord address data =>
    obtain ⟨next, later, access, taken, kept⟩ := surroundings.writeWord held address data
    refine ⟨⟨.done, _⟩, next, later, .writeWord address data, .single taken, ?_, ?_⟩
    · rwa [Answer.encode, List.append_nil]
    · refine Eventually.of_forall fun patience => ?_
      rw [Call.request, perform, Action.bind_ok (acting_ok access)]
      rfl
  | readWord address =>
    obtain ⟨data, middle, later, access, taken, kept⟩ := surroundings.readWord held address
    obtain ⟨next, sent, kept⟩ := (surroundings.carries later).writeWord32_all data kept
    refine ⟨⟨.word data, _⟩, next, later, .readWord address data, .single taken, kept, ?_⟩
    refine Eventually.of_forall fun patience => ?_
    rw [Call.request, perform, Action.bind_ok (acting_ok access)]
    exact Action.bind_ok (transferring_ok sent) _
  | writeTile tile =>
    obtain ⟨next, later, accesses, trace, kept⟩ :=
      surroundings.writePixels_all held 0 tile.toList
    simp only [Nat.zero_add, tileAddress_eq] at trace
    refine ⟨⟨.done, _⟩, next, later, .writeTile tile, trace, ?_, ?_⟩
    · rwa [Answer.encode, List.append_nil]
    · refine Eventually.of_forall fun patience => ?_
      rw [Call.request, perform, Action.bind_ok (acting_ok accesses)]
      rfl
  | readTile =>
    obtain ⟨pixels, next, later, length, accesses, trace, kept⟩ :=
      surroundings.sendPixels_all held tilePixels 0
    simp only [Nat.zero_add, tileAddress_eq] at trace
    have tile : ∃ tile : Tile, tile.toList = pixels :=
      ⟨⟨pixels.toArray, length⟩, rfl⟩
    obtain ⟨tile, rfl⟩ := tile
    refine ⟨⟨.tile tile, _⟩, next, later, .readTile tile, trace, kept, ?_⟩
    refine Eventually.of_forall fun patience => ?_
    rw [Call.request, perform, Action.bind_ok accesses]
    rfl
  | rasterize =>
    obtain ⟨first, last, busy, middle, later, trace, kept, timed⟩ :=
      surroundings.rasterize_timed held
    obtain ⟨next, sent, kept⟩ :=
      (surroundings.carries later).writeWord64_all (last - first) kept
    refine ⟨⟨.elapsed (last - first), _⟩, next, later, .rasterize first last busy, trace, kept,
      timed.mono fun patience run => ?_⟩
    rw [Call.request, perform, Action.bind_ok run]
    exact Action.bind_ok (transferring_ok sent) _

/-- The next request arrives as it was sent. -/
theorem nextRequest_front
    (surroundings : Surroundings stream target log step shown patiences holds) (request : Request)
    (held : holds state system (request.encode ++ unread) written) :
    ∃ next, nextRequest stream state = .ok (.inr request) next ∧
      holds next system unread written := by
  obtain ⟨next, received, kept⟩ := Request.receive_front (surroundings.carries system) request held
  exact ⟨next, by rw [nextRequest, received], kept⟩

/-- A round of the server over the request for a call: the call is logged and carried out, and its
answer is written. -/
theorem serveRequests_call
    (surroundings : Surroundings stream target log step shown patiences holds) (call : Call)
    (held : holds state system (call.request.encode ++ unread) written) :
    ∃ (line : List UInt8) (turn : Turn) (next : σ) (later : τ),
      shown (requestRecord call.request) line ∧
      call.Shows turn.answer turn.events ∧ Trace step system turn.events later ∧
      holds next later unread (written ++ line ++ turn.answer.encode) ∧
      ∀ᶠ patience in patiences, ∀ rounds,
        serveRequests stream target log patience (rounds + 1) state =
          serveRequests stream target log patience rounds next := by
  obtain ⟨arrived, received, kept⟩ := surroundings.nextRequest_front call.request held
  obtain ⟨line, logged, logging, said, kept⟩ := surroundings.log kept (requestRecord call.request)
  obtain ⟨turn, next, later, pattern, trace, kept, performed⟩ := surroundings.perform_call kept call
  refine ⟨line, turn, next, later, said, pattern, trace, kept, performed.mono ?_⟩
  intro patience performs rounds
  rw [serveRequests, Action.bind_ok received]
  show (acting (log (requestRecord call.request)) >>= _) arrived = _
  rw [Action.bind_ok (acting_ok logging), Action.bind_ok performs, if_pos rfl]

/-- The server over the requests for calls: each call is carried out in turn, and the line gets its
log record and its answer. What follows the requests is left to the rounds that remain. -/
theorem serveRequests_calls
    (surroundings : Surroundings stream target log step shown patiences holds) (calls : List Call)
    (held : holds state system (encodeRequests (calls.map Call.request) ++ unread) written) :
    ∃ (lines : List (List UInt8)) (turns : List Turn) (next : σ) (later : τ),
      List.Forall₂ (fun call line => shown (requestRecord call.request) line) calls lines ∧
      Executed step system calls turns later ∧
      holds next later unread (written ++ lineBytes lines turns) ∧
      ∀ᶠ patience in patiences, ∀ rounds,
        serveRequests stream target log patience (calls.length + rounds) state =
          serveRequests stream target log patience rounds next := by
  induction calls generalizing state system written with
  | nil =>
    refine ⟨[], [], state, system, .nil, .done system, ?_, ?_⟩
    · rwa [lineBytes, List.zipWith_nil_left, List.flatten_nil, List.append_nil]
    · exact Eventually.of_forall fun patience rounds => by rw [List.length_nil, Nat.zero_add]
  | cons call rest ih =>
    rw [List.map_cons, encodeRequests_cons, List.append_assoc] at held
    obtain ⟨line, turn, middle, between, said, pattern, trace, kept, served⟩ :=
      surroundings.serveRequests_call call held
    obtain ⟨lines, turns, next, later, others, executed, kept, finished⟩ := ih kept
    refine ⟨line :: lines, turn :: turns, next, later, .cons said others,
      .next pattern trace executed, ?_, ?_⟩
    · rw [lineBytes, List.zipWith_cons_cons, List.flatten_cons, ← List.append_assoc,
        ← List.append_assoc]
      exact kept
    · filter_upwards [served, finished] with patience first others rounds
      rw [List.length_cons, Nat.add_right_comm, first, others]

/-- A frame begins with the announcement, and enough rounds are left for what can still be read. -/
theorem serveFrame_ready
    (surroundings : Surroundings stream target log step shown patiences holds)
    (held : holds state system unread written) :
    ∃ next rounds, unread.length < rounds ∧
      holds next system unread (written ++ Message.ready.encode) ∧
      ∀ patience, serveFrame stream target log patience state =
        serveRequests stream target log patience rounds next := by
  obtain ⟨next, sent, kept⟩ := Message.send_all (surroundings.carries system) .ready held
  refine ⟨next, stream.pending next + 1, ?_, kept, fun patience => ?_⟩
  · exact Nat.lt_succ_of_le ((surroundings.carries system).pending kept)
  · exact Action.bind_ok (transferring_ok sent) _

/-- The server without a request left fails and writes nothing more. -/
theorem serveRequests_ended
    (surroundings : Surroundings stream target log step shown patiences holds)
    (held : holds state system [] written) (patience rounds : Nat) :
    ∃ error next, serveRequests stream target log patience rounds state = .error error next ∧
      holds next system [] written := by
  cases rounds with
  | zero => exact ⟨.transfer .unexpectedEnd, state, rfl, held⟩
  | succ rounds =>
    obtain ⟨error, next, received, kept⟩ :=
      Request.receive_ended (surroundings.carries system) held
    refine ⟨.transfer error, next, ?_, kept⟩
    have failed : nextRequest stream state = .error (.transfer error) next := by
      rw [nextRequest, received]
    rw [serveRequests, Action.bind_error failed]

/-- The request that ends the frame is logged and ends it. -/
theorem serveRequests_endFrame
    (surroundings : Surroundings stream target log step shown patiences holds)
    (unread : List UInt8) (held : holds state system (Request.endFrame.encode ++ unread) written) :
    ∃ line next, shown (requestRecord .endFrame) line ∧
      holds next system unread (written ++ line) ∧
      ∀ patience rounds,
        serveRequests stream target log patience (rounds + 1) state = .ok () next := by
  obtain ⟨arrived, received, kept⟩ := surroundings.nextRequest_front .endFrame held
  obtain ⟨line, next, logging, said, kept⟩ := surroundings.log kept (requestRecord .endFrame)
  refine ⟨line, next, said, kept, fun patience rounds => ?_⟩
  rw [serveRequests, Action.bind_ok received]
  show (acting (log (requestRecord .endFrame)) >>= _) arrived = _
  rw [Action.bind_ok (acting_ok logging)]
  rfl

end Surroundings

end Bringup.Monitor
