import Bringup.Proofs.Monitor.Agreement
import Bringup.Proofs.Wire.Cutting
import Bringup.Proofs.Wire.ProgramCodec
/-!
# Loading and serving do not depend on how a line is cut up

A loader and a monitor that run on two lines with the same bounds run in step, together with the
memory that is loaded, the system that is acted on and the log. The monitor bounds its rounds by
what a line has pending, which is not the same on both lines. It does not matter, since each round
takes at least a byte (`serveRequests_agree`). Main statement: sending, receiving, loading and
serving come to the same results and the same effects on any two lines with the same bounds
(`LineView.cutting_unseen`).
-/

namespace Bringup

open Bringup.Action

variable {σ τ κ ε : Type}

/-- Every access to one target runs in step with that to the other. -/
structure Target.InStep (relation : σ → τ → Prop) (target : Target σ ε) (other : Target τ ε) :
    Prop where
  readWord : ∀ address, Action.InStep relation (target.readWord address) (other.readWord address)
  writeWord : ∀ address data,
    Action.InStep relation (target.writeWord address data) (other.writeWord address data)
  startRasterizer : Action.InStep relation target.startRasterizer other.startRasterizer
  rasterizerBusy : Action.InStep relation target.rasterizerBusy other.rasterizerBusy
  cycles : Action.InStep relation target.cycles other.cycles

namespace Monitor

section Performing

variable {relation : σ → τ → Prop} {one : ByteStream σ ε} {other : ByteStream τ ε}
  {target : Target σ ε} {otherTarget : Target τ ε} (access : target.InStep relation otherTarget)
  (writes : ∀ bytes, InStep relation (one.writeAll bytes) (other.writeAll bytes))

include access

/-- Waiting for the rasterizer. -/
theorem awaitIdle_inStep (patience : Nat) :
    InStep relation (awaitIdle target patience) (awaitIdle otherTarget patience) := by
  induction patience with
  | zero => exact .throw _
  | succ patience ih =>
    apply InStep.bind
    · exact access.rasterizerBusy.adapt _
    · intro busy
      cases busy with
      | false => exact .pure ()
      | true => exact ih

/-- Running the rasterizer. -/
theorem rasterize_inStep (patience : Nat) :
    InStep relation (rasterize target patience) (rasterize otherTarget patience) := by
  refine .bind (access.cycles.adapt _) fun start => ?_
  refine .bind (access.startRasterizer.adapt _) fun _ => ?_
  refine .bind (awaitIdle_inStep access patience) fun _ => ?_
  exact .bind (access.cycles.adapt _) fun stop => .pure _

/-- Writing pixels. -/
theorem writePixels_inStep (index : Nat) (pixels : List UInt32) :
    InStep relation (writePixels target index pixels) (writePixels otherTarget index pixels) := by
  induction pixels generalizing index with
  | nil => exact .pure ()
  | cons pixel rest ih => exact .bind (access.writeWord _ pixel) fun _ => ih _

include writes

/-- Sending pixels. -/
theorem sendPixels_inStep (count index : Nat) :
    InStep relation (sendPixels one target count index)
      (sendPixels other otherTarget count index) := by
  induction count generalizing index with
  | zero => exact .pure ()
  | succ count ih =>
    refine .bind ((access.readWord _).adapt _) fun pixel => ?_
    exact .bind ((writes _).adapt _) fun _ => ih _

/-- Carrying out a request. -/
theorem perform_inStep (patience : Nat) (request : Request) :
    InStep relation (perform one target patience request)
      (perform other otherTarget patience request) := by
  cases request with
  | writeWord address data => exact .bind ((access.writeWord _ _).adapt _) fun _ => .pure _
  | readWord address =>
    exact .bind ((access.readWord _).adapt _) fun data =>
      .bind ((writes _).adapt _) fun _ => .pure _
  | writeTile tile => exact .bind ((writePixels_inStep access _ _).adapt _) fun _ => .pure _
  | readTile => exact .bind (sendPixels_inStep access writes _ _) fun _ => .pure _
  | rasterize =>
    exact .bind (rasterize_inStep access patience) fun elapsed =>
      .bind ((writes _).adapt _) fun _ => .pure _
  | endFrame => exact .pure _

end Performing

section Serving

variable {one : ByteStream σ ε} {other : ByteStream τ ε} {bounds : Bounds ε}
  {held : κ → σ → List UInt8 → List UInt8 → Prop}
  {otherHeld : κ → τ → List UInt8 → List UInt8 → Prop}
  {target : Target σ ε} {otherTarget : Target τ ε} {log : Logger σ ε} {otherLog : Logger τ ε}
  (twins : one.Twins other bounds held otherHeld)

include twins

/-- What comes next is the same on both lines and takes at least a byte, or both lines fail. -/
theorem nextRequest_cases {unread : List UInt8} {left : σ} {right : τ}
    (alike : Alike held otherHeld unread left right) :
    (∃ item behind nextLeft nextRight, behind.length < unread.length ∧
      nextRequest one left = .ok item nextLeft ∧ nextRequest other right = .ok item nextRight ∧
      Alike held otherHeld behind nextLeft nextRight) ∨
    (∃ error nextLeft nextRight, nextRequest one left = .error (.transfer error) nextLeft ∧
      nextRequest other right = .error (.transfer error) nextRight ∧
      AllAlike held otherHeld nextLeft nextRight) := by
  obtain ⟨behind, parse, agree⟩ := twins.receive_request_alike alike
  obtain ⟨request, nextLeft, nextRight, received, otherReceived, kept⟩ |
    ⟨error, nextLeft, nextRight, failed, otherFailed, kept⟩ := agree.ends
  · left
    have shorter : behind.length < unread.length := by
      rw [attempt, received] at parse
      cases parse with
      | item valid rest =>
        have positive := Request.format_lawful.length_pos valid
        rw [List.length_append]
        omega
    refine ⟨.inr request, behind, nextLeft, nextRight, shorter, ?_, ?_, kept⟩
    · rw [nextRequest, received]
    · rw [nextRequest, otherReceived]
  · cases error with
    | unknown command =>
      left
      have shorter : behind.length < unread.length := by
        rw [attempt, failed] at parse
        cases parse with
        | unknown _ rest => exact Nat.lt_succ_self _
      refine ⟨.inl command, behind, nextLeft, nextRight, shorter, ?_, ?_, kept⟩
      · rw [nextRequest, failed]
      · rw [nextRequest, otherFailed]
    | transfer error =>
      right
      refine ⟨error, nextLeft, nextRight, ?_, ?_, behind, kept⟩
      · rw [nextRequest, failed]
      · rw [nextRequest, otherFailed]

variable (access : ∀ unread, target.InStep (Alike held otherHeld unread) otherTarget)
  (logs : ∀ unread record, InStep (Alike held otherHeld unread) (log record) (otherLog record))
  (patience : Nat)

include access logs

/-- Requests are served in step, as long as the rounds on each line outlast its bytes. -/
theorem serveRequests_agree {rounds otherRounds : Nat} {unread : List UInt8} {left : σ} {right : τ}
    (alike : Alike held otherHeld unread left right) (lasts : unread.length < rounds)
    (otherLasts : unread.length < otherRounds) :
    Agree (AllAlike held otherHeld) (attempt (serveRequests one target log patience rounds) left)
      (attempt (serveRequests other otherTarget otherLog patience otherRounds) right) := by
  -- The induction is on the rounds of one line. Those of the other may be more or fewer, so what
  -- carries it is that both outlast the bytes, and that each item takes at least one.
  induction rounds generalizing otherRounds unread left right with
  | zero => exact absurd lasts (Nat.not_lt_zero _)
  | succ rounds ih =>
    obtain ⟨otherRounds, rfl⟩ :=
      Nat.exists_eq_add_one_of_ne_zero (Nat.ne_zero_of_lt otherLasts)
    rw [serveRequests, serveRequests]
    obtain ⟨item, behind, nextLeft, nextRight, shorter, ran, otherRan, kept⟩ |
      ⟨error, nextLeft, nextRight, failed, otherFailed, kept⟩ := nextRequest_cases twins alike
    · rw [attempt_bind_ok ran, attempt_bind_ok otherRan]
      have widen : ∀ left right, Alike held otherHeld behind left right →
          AllAlike held otherHeld left right := fun _ _ same => ⟨behind, same⟩
      have others : ∀ left right, Alike held otherHeld behind left right →
          Agree (AllAlike held otherHeld)
            (attempt (serveRequests one target log patience rounds) left)
            (attempt (serveRequests other otherTarget otherLog patience otherRounds) right) := by
        intro left right same
        exact ih same (by omega) (by omega)
      cases item with
      | inl command =>
        apply ((logs behind _ _ _ kept).adapt _).bind widen
        intro _
        exact others
      | inr request =>
        apply ((logs behind _ _ _ kept).adapt _).bind widen
        intro _ left right same
        have performs := perform_inStep (access behind) (twins.writeAll_alike behind) patience
          request left right same
        apply performs.bind widen
        intro goesOn left right same
        cases goesOn with
        | false => exact ⟨rfl, widen left right same⟩
        | true => exact others left right same
    · exact .of_error (bind_error failed _) (bind_error otherFailed _) kept

/-- Frames are served in step. -/
theorem serveFrame_inStep :
    InStep (AllAlike held otherHeld) (serveFrame one target log patience)
      (serveFrame other otherTarget otherLog patience) := by
  rintro left right ⟨unread, alike⟩
  have announces := (twins.writeAll_alike unread Message.ready.encode left right alike).adapt
    FrameError.transfer
  apply announces.bind fun _ _ same => ⟨unread, same⟩
  rintro _ left right ⟨rest, written, kept, otherKept⟩
  have pending := ((twins.bounded rest).supplies written).pending kept
  have otherPending := ((twins.otherBounded rest).supplies written).pending otherKept
  exact serveRequests_agree twins access logs patience ⟨rest, written, kept, otherKept⟩
    (Nat.lt_succ_of_le pending) (Nat.lt_succ_of_le otherPending)

end Serving

end Monitor

namespace Program

section Loading

variable {relation : σ → τ → Prop} {one : ByteStream σ ε} {other : ByteStream τ ε}
  {store : Nat → UInt8 → EStateM ε σ Unit} {otherStore : Nat → UInt8 → EStateM ε τ Unit}
  (reads : InStep relation one.readByte other.readByte)
  (stores : ∀ index byte, InStep relation (store index byte) (otherStore index byte))

include reads stores

/-- The bytes of an image are received and stored in step. -/
theorem receiveImage_inStep (count index : Nat) (register : UInt32) :
    InStep relation (receiveImage one store count index register)
      (receiveImage other otherStore count index register) := by
  induction count generalizing index register with
  | zero => exact .pure register
  | succ count ih =>
    refine .bind reads fun byte => ?_
    exact .bind ((stores index byte).adapt _) fun _ => ih _ _

/-- A program is loaded in step, if there is the same room for it. -/
theorem load_inStep (words : InStep relation one.readWord32 other.readWord32) (capacity : Nat) :
    InStep relation (load one capacity store) (load other capacity otherStore) := by
  refine .bind (words.adapt _) fun length => ?_
  by_cases large : capacity < length.toNat
  · simp only [if_pos large]
    exact .throw_bind _
  simp only [if_neg large]
  refine .bind ((receiveImage_inStep reads stores _ _ _).adapt _) fun register => ?_
  refine .bind (words.adapt _) fun expected => ?_
  by_cases agrees : Crc32.finish register = expected
  · simp only [if_pos agrees]
    exact .pure _
  · simp only [if_neg agrees]
    exact .throw _

end Loading

end Program

/-- Two lines stand at the same place: the same bytes are left to be read, and the same were
written. -/
structure LineView.Level (view : LineView σ) (otherView : LineView τ) (left : σ) (right : τ) :
    Prop where
  sound : view.sound left
  otherSound : otherView.sound right
  unread : view.unread left = otherView.unread right
  written : view.written left = otherView.written right

/-- Two loaders stand at the same place: so do their lines, they have the same memory, and they have
noticed the same bytes. -/
structure Program.Loading.Level (view : LineView σ) (otherView : LineView τ) (left : Loading σ)
    (right : Loading τ) : Prop where
  link : view.Level otherView left.link right.link
  memory : left.memory = right.memory
  seen : left.seen = right.seen

/-- What a monitor stands before: the bytes on its line, its system, and its log. -/
def Station.Stands {γ : Type} (view : LineView σ) (rest : (γ × List Monitor.SystemEvent) × κ)
    (station : Station σ γ κ) (unread written : List UInt8) : Prop :=
  view.Holds station.line unread written ∧ station.system = rest.1 ∧ station.log = rest.2

/-- Two monitors stand at the same place: so do their lines, their systems are the same and have
seen the same accesses, and their logs are the same. -/
structure Station.Level {γ : Type} (view : LineView σ) (otherView : LineView τ)
    (left : Station σ γ κ) (right : Station τ γ κ) : Prop where
  line : view.Level otherView left.line right.line
  system : left.system = right.system
  log : left.log = right.log

section Lines

variable {one : ByteStream σ ε} {other : ByteStream τ ε} {bounds : Bounds ε} {view : LineView σ}
  {otherView : LineView τ}

/-- Lines at the same place hold the same bytes. -/
theorem LineView.allAlike_iff_level (left : σ) (right : τ) :
    AllAlike (fun _ : Unit => view.Holds) (fun _ => otherView.Holds) left right ↔
      view.Level otherView left right := by
  constructor
  · rintro ⟨unread, _, written, ⟨sound, unread_eq, written_eq⟩, otherSound, other_unread,
      other_written⟩
    exact ⟨sound, otherSound, unread_eq.trans other_unread.symm,
      written_eq.trans other_written.symm⟩
  · rintro ⟨sound, otherSound, unread, written⟩
    exact ⟨_, (), _, ⟨sound, rfl, rfl⟩, otherSound, unread.symm, written.symm⟩

/-- Loaders at the same place hold the same bytes and have the same besides. -/
theorem Program.Loading.allAlike_iff_level (left : Loading σ) (right : Loading τ) :
    AllAlike (fun rest : List UInt8 × List UInt8 => Stands view.Holds rest.1 rest.2)
      (fun rest => Stands otherView.Holds rest.1 rest.2) left right ↔
      left.Level view otherView right := by
  constructor
  · rintro ⟨unread, rest, written, ⟨kept, memory, seen⟩, otherKept, otherMemory, otherSeen⟩
    refine ⟨(LineView.allAlike_iff_level _ _).1 ⟨unread, (), written, kept, otherKept⟩, ?_, ?_⟩
    · exact Array.toList_inj.1 (memory.trans otherMemory.symm)
    · exact Array.toList_inj.1 (seen.trans otherSeen.symm)
  · rintro ⟨link, memory, seen⟩
    obtain ⟨unread, _, written, kept, otherKept⟩ := (LineView.allAlike_iff_level _ _).2 link
    refine ⟨unread, (left.memory.toList, left.seen.toList), written, ⟨kept, rfl, rfl⟩, otherKept,
      ?_, ?_⟩
    · rw [memory]
    · rw [seen]

/-- Monitors at the same place hold the same bytes and have the same besides. -/
theorem Station.allAlike_iff_level {γ : Type} (left : Station σ γ κ) (right : Station τ γ κ) :
    AllAlike (Stands view) (Stands otherView) left right ↔ left.Level view otherView right := by
  constructor
  · rintro ⟨unread, rest, written, ⟨kept, system, log⟩, otherKept, otherSystem, otherLog⟩
    exact ⟨(LineView.allAlike_iff_level _ _).1 ⟨unread, (), written, kept, otherKept⟩,
      system.trans otherSystem.symm, log.trans otherLog.symm⟩
  · rintro ⟨line, system, log⟩
    obtain ⟨unread, _, written, kept, otherKept⟩ := (LineView.allAlike_iff_level _ _).2 line
    exact ⟨unread, (left.system, left.log), written, ⟨kept, rfl, rfl⟩, otherKept, system.symm,
      log.symm⟩

/-- What is done to the systems of monitors that hold the same is done in step. -/
theorem Station.access_inStep {γ : Type} (target : Target γ ε) (unread : List UInt8) :
    (target.recording.onPart systemPart).InStep
      (Alike (Stands view : _ → Station σ γ κ → _) (Stands otherView : _ → Station τ γ κ → _)
        unread)
      (target.recording.onPart systemPart) := by
  have equal : ∀ (left : Station σ γ κ) (right : Station τ γ κ),
      Alike (Stands view) (Stands otherView) unread left right →
      systemPart.get left = systemPart.get right := by
    rintro left right ⟨rest, written, ⟨_, system, _⟩, _, otherSystem, _⟩
    exact system.trans otherSystem.symm
  have replaced : ∀ (left : Station σ γ κ) (right : Station τ γ κ) part,
      Alike (Stands view) (Stands otherView) unread left right →
      Alike (Stands view) (Stands otherView) unread (systemPart.put left part)
        (systemPart.put right part) := by
    rintro left right part ⟨rest, written, ⟨kept, _, log⟩, otherKept, _, otherLog⟩
    exact ⟨(part, rest.2), written, ⟨kept, rfl, log⟩, otherKept, rfl, otherLog⟩
  constructor
  · exact fun address => Part.run_inStep equal replaced _
  · exact fun address data => Part.run_inStep equal replaced _
  · exact Part.run_inStep equal replaced _
  · exact Part.run_inStep equal replaced _
  · exact Part.run_inStep equal replaced _

/-- Records of monitors that hold the same are made in step. -/
theorem Station.log_inStep {γ : Type} (log : Logger κ ε) (unread : List UInt8)
    (record : LogRecord) :
    InStep (Alike (Stands view : _ → Station σ γ κ → _) (Stands otherView : _ → Station τ γ κ → _)
      unread) (log.onPart logPart record) (log.onPart logPart record) := by
  apply Part.run_inStep
  · rintro left right ⟨rest, written, ⟨_, _, log⟩, _, _, otherLog⟩
    exact log.trans otherLog.symm
  · rintro left right part ⟨rest, written, ⟨kept, system, _⟩, otherKept, otherSystem, _⟩
    exact ⟨(rest.1, part), written, ⟨kept, system, rfl⟩, otherKept, otherSystem, rfl⟩

variable (bounded : one.Bounded bounds view.Holds)
  (otherBounded : other.Bounded bounds otherView.Holds)

include bounded otherBounded

/-- Lines with the same bounds are twins. -/
theorem LineView.twins :
    one.Twins other bounds (fun _ : Unit => view.Holds) (fun _ => otherView.Holds) :=
  ⟨fun _ => bounded, fun _ => otherBounded⟩

/-- Loaders on lines with the same bounds are twins. -/
theorem Program.Loading.twins :
    (linkPart.stream one).Twins (linkPart.stream other) bounds
      (fun rest : List UInt8 × List UInt8 => Stands view.Holds rest.1 rest.2)
      (fun rest => Stands otherView.Holds rest.1 rest.2) where
  bounded _ := bounded.onPart (fun _ _ => rfl) fun _ _ same => same
  otherBounded _ := otherBounded.onPart (fun _ _ => rfl) fun _ _ same => same

/-- Monitors on lines with the same bounds are twins. -/
theorem Station.twins {γ : Type} :
    ((linePart : Part (Station σ γ κ) σ).stream one).Twins (linePart.stream other) bounds
      (Stands view) (Stands otherView) where
  bounded _ := bounded.onPart (fun _ _ => rfl) fun _ _ same => same
  otherBounded _ := otherBounded.onPart (fun _ _ => rfl) fun _ _ same => same

/-- Programs are loaded in step. -/
theorem Program.loadInto_inStep :
    InStep (Loading.Level view otherView) (loadInto one) (loadInto other) := by
  have twins := Loading.twins bounded otherBounded
  have reads := twins.readByte.congr Loading.allAlike_iff_level
  have words := twins.readWord32.congr Loading.allAlike_iff_level
  have stores : ∀ index byte, InStep (Loading.Level view otherView)
      (Loading.store index byte : EStateM ε (Loading σ) Unit) (Loading.store index byte) := by
    rintro index byte ⟨link, memory, seen⟩ ⟨otherLink, _, _⟩ ⟨level, rfl, rfl⟩
    exact .of_ok rfl rfl ⟨level, rfl, rfl⟩
  intro left right level
  have loads := load_inStep reads stores words left.memory.size left right level
  have size : left.memory.size = right.memory.size := congrArg Array.size level.memory
  show Agree _ (attempt (load _ left.memory.size _) left)
    (attempt (load _ right.memory.size _) right)
  rw [← size]
  exact loads

/-- Frames are served in step, on whatever system and with whatever log. -/
theorem Station.serveFrame_inStep {γ : Type} (target : Target γ ε) (log : Logger κ ε)
    (patience : Nat) :
    InStep (Level view otherView) (serveFrame one target log patience)
      (serveFrame other target log patience) := by
  have agree := Monitor.serveFrame_inStep (twins bounded otherBounded) (access_inStep target)
    (log_inStep log) patience
  exact agree.congr allAlike_iff_level

/-- How a line is cut up is not seen. Take two lines with the same bounds, whatever they cut reads
and writes into and wherever they end or begin to fail, that stand at the same place. Receiving a
message with any capacity for names, receiving a request, loading a program, serving a frame on any
system and with any log, and sending messages, requests and programs all come to the same results on
both lines, values and errors alike. They leave the two lines at the same place, with the same left
to be read and the same written, and with the same memory, bytes noticed, system, accesses to it and
log. -/
theorem LineView.cutting_unseen :
    (∀ capacity, InStep (view.Level otherView) (Message.receive one capacity)
      (Message.receive other capacity)) ∧
    InStep (view.Level otherView) (Request.receive one) (Request.receive other) ∧
    InStep (Program.Loading.Level view otherView) (Program.loadInto one) (Program.loadInto other) ∧
    (∀ {γ κ : Type} (target : Target γ ε) (log : Logger κ ε) (patience : Nat),
      InStep (Station.Level view otherView) (Station.serveFrame one target log patience)
        (Station.serveFrame other target log patience)) ∧
    (∀ message, InStep (view.Level otherView) (Message.send one message)
      (Message.send other message)) ∧
    (∀ request, InStep (view.Level otherView) (Request.send one request)
      (Request.send other request)) ∧
    (∀ image, InStep (view.Level otherView) (Program.serve one image)
      (Program.serve other image)) := by
  have twins := LineView.twins bounded otherBounded
  have writes : ∀ bytes,
      InStep (view.Level otherView) (one.writeAll bytes) (other.writeAll bytes) :=
    fun bytes => (twins.writeAll bytes).congr allAlike_iff_level
  refine ⟨?_, ?_, ?_, ?_, ?_, ?_, ?_⟩
  · intro capacity
    exact (twins.receive_message capacity).congr allAlike_iff_level
  · exact twins.receive_request.congr allAlike_iff_level
  · exact Program.loadInto_inStep bounded otherBounded
  · intro _ _ target log patience
    exact Station.serveFrame_inStep bounded otherBounded target log patience
  · exact fun message => writes message.encode
  · exact fun request => writes request.encode
  · exact fun image => writes (Program.encode image)

end Lines

namespace Station

open Monitor

/-- A script to move so many bytes at a time, to fail after fourteen bytes of input, and to have
room for three bytes of output. -/
def shakyScript (pieces : Option Nat) : Script :=
  { readLimit := pieces, writeLimit := pieces, readFailure := some 14, capacity := some 3 }

/-- A word is written and read on a line that fails right behind these requests. -/
def shakyInput : List UInt8 := encodeRequests [.writeWord 0x100 7, .readWord 0x100]

/-- A monitor on this line. -/
def shakyStation (pieces : Option Nat) : Station Scripted SimulatedSystem (Array LogRecord) :=
  ⟨.ofInput (shakyScript pieces) shakyInput, (busySystem, []), #[]⟩

/-- Byte by byte or all at once, the monitor does the same on this line. -/
theorem shakyStation_unseen :
    let served := attempt (serveFrame Scripted.stream SimulatedSystem.target Logger.keeping 5)
      (shakyStation (some 1))
    let expected := attempt (serveFrame Scripted.stream SimulatedSystem.target Logger.keeping 5)
      (shakyStation none)
    served.1 = expected.1 ∧ served.2.system = expected.2.system ∧ served.2.log = expected.2.log ∧
      served.2.line.output.toList = expected.2.line.output.toList := by
  have moves : (shakyScript (some 1)).Moves := by simp [Script.Moves, shakyScript]
  have otherMoves : (shakyScript none).Moves := by simp [Script.Moves, shakyScript]
  have bounded := Scripted.bounded moves shakyInput.length
  -- The limits of single transfers are not among the bounds.
  have otherBounded : Scripted.stream.Bounded ((shakyScript (some 1)).bounds shakyInput.length)
      (Scripted.boundedView (shakyScript none) shakyInput.length).Holds :=
    Scripted.bounded otherMoves shakyInput.length
  obtain ⟨_, _, _, serves, _⟩ := LineView.cutting_unseen bounded otherBounded
  have held := Scripted.ofInput_holds (shakyScript (some 1)) shakyInput
  have otherHeld := Scripted.ofInput_holds (shakyScript none) shakyInput
  have level : Level (Scripted.boundedView (shakyScript (some 1)) shakyInput.length)
      (Scripted.boundedView (shakyScript none) shakyInput.length) (shakyStation (some 1))
      (shakyStation none) := ⟨⟨held.1, otherHeld.1, rfl, rfl⟩, rfl, rfl⟩
  obtain ⟨result, line, system, log⟩ := serves SimulatedSystem.target Logger.keeping 5 _ _ level
  have output := line.written
  rw [Scripted.boundedView_written, Scripted.boundedView_written] at output
  exact ⟨result, system, log, output⟩

end Station

end Bringup
