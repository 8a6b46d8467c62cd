import Bringup.Monitor.Frame
import Bringup.Proofs.Stream.Along
/-!
# A frame along a relation

What single transfers, accesses and log records do to a state, serving a frame does to it as well.
Nothing is assumed of what arrives: bytes that are no request, requests that are cut off, accesses
that fail and a rasterizer that never settles are all included.
-/

namespace Bringup

variable {σ ε : Type} {relation : σ → σ → Prop} [IsPreorder σ relation]

/-- Every access to the target runs along the relation. -/
structure Target.Along (relation : σ → σ → Prop) (target : Target σ ε) : Prop where
  readWord : ∀ address, Action.Along relation (target.readWord address)
  writeWord : ∀ address data, Action.Along relation (target.writeWord address data)
  startRasterizer : Action.Along relation target.startRasterizer
  rasterizerBusy : Action.Along relation target.rasterizerBusy
  cycles : Action.Along relation target.cycles

namespace Monitor

open Bringup.Action

variable {stream : ByteStream σ ε} {target : Target σ ε} {log : Logger σ ε}

/-- Waiting for the rasterizer. -/
theorem awaitIdle_along (access : target.Along relation) (patience : Nat) :
    Along relation (awaitIdle target patience) := by
  induction patience with
  | zero => exact .throw _
  | succ patience ih =>
    rw [awaitIdle]
    refine .bind (access.rasterizerBusy.adapt _) fun busy => ?_
    cases busy with
    | false => exact .pure ()
    | true => exact ih

/-- Running the rasterizer. -/
theorem rasterize_along (access : target.Along relation) (patience : Nat) :
    Along relation (rasterize target patience) := by
  rw [rasterize]
  refine .bind (access.cycles.adapt _) fun start => ?_
  refine .bind (access.startRasterizer.adapt _) fun _ => ?_
  refine .bind (awaitIdle_along access patience) fun _ => ?_
  exact .bind (access.cycles.adapt _) fun stop => .pure _

/-- Writing pixels. -/
theorem writePixels_along (access : target.Along relation) (index : Nat) (pixels : List UInt32) :
    Along relation (writePixels target index pixels) := by
  induction pixels generalizing index with
  | nil => exact .pure ()
  | cons pixel rest ih => exact .bind (access.writeWord _ pixel) fun _ => ih _

/-- Sending pixels. -/
theorem sendPixels_along (line : stream.Along relation) (access : target.Along relation)
    (count index : Nat) : Along relation (sendPixels stream target count index) := by
  induction count generalizing index with
  | zero => exact .pure ()
  | succ count ih =>
    rw [sendPixels]
    refine .bind ((access.readWord _).adapt _) fun pixel => ?_
    exact .bind ((line.writeAll _).adapt _) fun _ => ih _

/-- Carrying out a request. -/
theorem perform_along (line : stream.Along relation) (access : target.Along relation)
    (patience : Nat) (request : Request) :
    Along relation (perform stream target patience request) := by
  cases request with
  | writeWord address data => exact .bind ((access.writeWord _ _).adapt _) fun _ => .pure _
  | readWord address =>
    exact .bind ((access.readWord _).adapt _) fun data =>
      .bind ((line.writeAll _).adapt _) fun _ => .pure _
  | writeTile tile => exact .bind ((writePixels_along access _ _).adapt _) fun _ => .pure _
  | readTile => exact .bind (sendPixels_along line access _ _) fun _ => .pure _
  | rasterize =>
    exact .bind (rasterize_along access patience) fun elapsed =>
      .bind ((line.writeAll _).adapt _) fun _ => .pure _
  | endFrame => exact .pure _

omit [IsPreorder σ relation] in
/-- A command byte that is none is an answer like a request, and leaves the same state. -/
theorem attempt_nextRequest (stream : ByteStream σ ε) (state : σ) :
    (attempt (nextRequest stream) state).2 = (attempt (Request.receive stream) state).2 := by
  rw [attempt, attempt, nextRequest]
  rcases Request.receive stream state with ⟨request, next⟩ | ⟨command | error, next⟩ <;> rfl

/-- Receiving what comes next. -/
theorem nextRequest_along (line : stream.Along relation) :
    Along relation (nextRequest stream) := by
  intro state
  rw [attempt_nextRequest]
  exact line.receive state

/-- Serving requests. -/
theorem serveRequests_along (line : stream.Along relation) (access : target.Along relation)
    (logged : ∀ record, Along relation (log record)) (patience rounds : Nat) :
    Along relation (serveRequests stream target log patience rounds) := by
  induction rounds with
  | zero => exact .throw _
  | succ rounds ih =>
    rw [serveRequests]
    refine .bind (nextRequest_along line) fun item => ?_
    cases item with
    | inl command => exact .bind ((logged _).adapt _) fun _ => ih
    | inr request =>
      refine .bind ((logged _).adapt _) fun _ => ?_
      refine .bind (perform_along line access patience request) fun goesOn => ?_
      cases goesOn with
      | false => exact .pure ()
      | true => exact ih

/-- Serving a frame. -/
theorem serveFrame_along (line : stream.Along relation) (access : target.Along relation)
    (logged : ∀ record, Along relation (log record)) (patience : Nat) :
    Along relation (serveFrame stream target log patience) := by
  rw [serveFrame]
  refine .bind ((line.writeAll _).adapt _) fun _ => ?_
  exact .bind .get fun state => serveRequests_along line access logged patience _

end Monitor

end Bringup
