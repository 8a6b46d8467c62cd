import Bringup.Proofs.Host.Conversation
import Bringup.Proofs.Image.SimulatedLine
import Bringup.Proofs.Monitor.Service
/-!
# Log and replies on one line

The monitor image logs every request before it carries it out, and its log goes to the console,
which shares the line with the replies. The host's client reads replies without looking for
messages, so what it takes for a reply begins with the line of the first log record. Main statement:
the client takes bytes of that line exactly when it asks for a reply at all
(`MonitorImage.record_taken_for_reply`).

Of the board only the line is described (`Platform.Talks`). Whether an access to another register
fails and whether the rasterizer settles is left open, since nothing of it comes before the first
record.
-/

namespace Bringup

variable {σ ρ ε : Type}

namespace MonitorImage

open Monitor

variable {platform : Platform σ ε} {view : LineView σ} {state : σ} {unread written : List UInt8}

/-- The line of the console that a record makes after so many microseconds. -/
def recordLine (microseconds : Nat) (record : LogRecord) : List UInt8 :=
  Console.encode (Console.logLine microseconds record ++ "\n")

/-- Sorting the errors of a frame leaves the same state. -/
theorem attempt_serveFrame (platform : Platform σ ε) (state : σ) :
    (attempt (serveFrame platform) state).2 =
      (attempt (Monitor.serveFrame platform.uart (target platform) platform.log platform.patience)
        state).2 := by
  rw [attempt, attempt, serveFrame]
  rcases Monitor.serveFrame platform.uart (target platform) platform.log platform.patience state
    with ⟨_, next⟩ | ⟨(_ | error) | _, next⟩ <;> rfl

/-- Serving a frame loses nothing that was sent. -/
theorem serveFrame_along (talks : platform.Talks view) :
    Action.Along view.Grows (serveFrame platform) := by
  intro state
  rw [attempt_serveFrame]
  exact Monitor.serveFrame_along talks.uart_along talks.target_along talks.log_along _ state

/-- Serving frames loses nothing that was sent. -/
theorem serveFrames_along (talks : platform.Talks view) (rounds : Nat) (served : UInt32) :
    Action.Along view.Grows (serveFrames platform rounds served) := by
  induction rounds generalizing served with
  | zero => exact .pure ()
  | succ rounds ih =>
    rw [serveFrames]
    refine .bind (serveFrame_along talks) fun failure => ?_
    cases failure with
    | none => exact .bind (talks.log_along _) fun _ => ih _
    | some error => exact .bind (talks.log_along _) fun _ => ih _

/-- A frame begins with the announcement and the line of the record of its first request. -/
theorem serveFrame_begins (talks : platform.Talks view) (request : Request)
    (held : view.Holds state (request.encode ++ unread) written) :
    ∃ microseconds,
      written ++ Message.ready.encode ++ recordLine microseconds (requestRecord request) <+:
        view.written (attempt (serveFrame platform) state).2 ∧
      view.sound (attempt (serveFrame platform) state).2 := by
  obtain ⟨announced, ready, kept⟩ := Message.send_all talks.uart_carries .ready held
  obtain ⟨arrived, received, kept⟩ := Request.receive_front talks.uart_carries request kept
  obtain ⟨microseconds, logged, log, sound, _, kept⟩ := talks.log_line (requestRecord request) kept
  have next : nextRequest platform.uart announced = .ok (.inr request) arrived := by
    rw [nextRequest, received]
  -- The rest of the frame runs from where the record was logged, and may do anything but lose it.
  have rest : (attempt (serveFrame platform) state).2 = (attempt (do
      if ← perform platform.uart (target platform) platform.patience request then
        serveRequests platform.uart (target platform) platform.log platform.patience
          (platform.pending announced)
      else pure ()) logged).2 := by
    rw [attempt_serveFrame, Monitor.serveFrame, Action.attempt_bind_ok (transferring_ok ready)]
    show (attempt (serveRequests _ _ _ _ (platform.pending announced + 1)) announced).2 = _
    rw [serveRequests, Action.attempt_bind_ok next]
    show (attempt (acting (platform.log (requestRecord request)) >>= _) arrived).2 = _
    rw [Action.attempt_bind_ok (acting_ok log)]
  have grown : view.Grows logged (attempt (serveFrame platform) state).2 := by
    rw [rest]
    refine Action.Along.bind
      (perform_along talks.uart_along talks.target_along _ request) (fun goesOn => ?_) logged
    cases goesOn with
    | false => exact .pure ()
    | true => exact serveRequests_along talks.uart_along talks.target_along talks.log_along _ _
  obtain ⟨stillSound, grown⟩ := grown sound
  rw [kept] at grown
  exact ⟨microseconds, grown, stillSound⟩

/-- What the image says before it serves frames. -/
def greeting : List UInt8 := Console.encode ("Ready for commands!" ++ "\n")

/-- The image sends its greeting, the announcement, and the line of the record of the first request,
before anything else. -/
theorem run_begins (talks : platform.Talks view) (request : Request) {rounds : Nat}
    (serves : 0 < rounds) (held : view.Holds state (request.encode ++ unread) []) :
    ∃ microseconds tail, view.written (attempt (run platform rounds) state).2 =
      greeting ++ Message.ready.encode ++
        (recordLine microseconds (requestRecord request) ++ tail) := by
  obtain ⟨rounds, rfl⟩ := Nat.exists_eq_add_one_of_ne_zero (Nat.ne_of_gt serves)
  obtain ⟨greeted, greet, kept⟩ := talks.sendAll_all greeting held
  obtain ⟨microseconds, begins, sound⟩ := serveFrame_begins talks request kept
  have run_eq : attempt (run platform (rounds + 1)) state =
      attempt (serveFrames platform (rounds + 1) 0) greeted :=
    Action.attempt_bind_ok greet _
  have grown : view.Grows (attempt (serveFrame platform) greeted).2
      (attempt (run platform (rounds + 1)) state).2 := by
    rw [run_eq, serveFrames]
    refine Action.Along.bind_end (serveFrame platform) (fun failure => ?_) greeted
    cases failure with
    | none => exact .bind (talks.log_along _) fun _ => serveFrames_along talks _ _
    | some error => exact .bind (talks.log_along _) fun _ => serveFrames_along talks _ _
  obtain ⟨tail, sent⟩ := begins.trans (grown sound).2
  refine ⟨microseconds, tail, ?_⟩
  rw [← sent, List.nil_append]
  simp only [List.append_assoc]

/-- The line of a record begins with the messages for a bracket and for what follows it. -/
theorem recordLine_front (microseconds : Nat) (record : LogRecord) :
    ∃ byte rest, recordLine microseconds record = 0x00 :: 0x5b :: 0x00 :: byte :: rest := by
  obtain ⟨text, shown⟩ : ∃ text, (Console.logLine microseconds record ++ "\n").toList =
      '[' :: (text ++ ['\n']) := by
    refine ⟨(Console.logLine microseconds record).toList.drop 1, ?_⟩
    simp [Console.logLine]
  -- The line feed alone is enough for something to follow the bracket.
  obtain ⟨next, others, follows⟩ := List.exists_cons_of_ne_nil
    (List.append_ne_nil_of_right_ne_nil text (List.cons_ne_nil '\n' []))
  obtain ⟨byte, rest, encoded⟩ := List.exists_cons_of_ne_nil (@String.utf8EncodeChar_ne_nil next)
  exact ⟨byte, _, by
    rw [recordLine, Console.encode, Text.utf8Bytes, shown, follows, List.flatMap_cons,
      List.flatMap_cons, encoded]
    rfl⟩

/-- Bytes from the front that lie behind the line of a record are none at all. -/
theorem behind_recordLine_iff (microseconds : Nat) (record : LogRecord) (taken : List UInt8) :
    (∀ index < taken.length, (recordLine microseconds record).length ≤ index) ↔
      taken.length = 0 := by
  obtain ⟨byte, rest, front⟩ := recordLine_front microseconds record
  constructor
  · intro outside
    by_contra nonzero
    have impossible := outside 0 (Nat.pos_of_ne_zero nonzero)
    rw [front] at impossible
    exact absurd impossible (Nat.not_succ_le_zero _)
  · intro zero index inside
    omega

/-- The client reads replies off the line that the log shares. For whatever board, and whatever
calls: the image sends the line of the record of the first request in front of all replies, the
client takes replies from the front, and so every byte that it takes comes from behind that line
only if no call asks for a reply at all. Then nothing is taken and every call succeeds. -/
theorem record_taken_for_reply (talks : platform.Talks view) {client : Client ρ} {host : LineView ρ}
    (speaks : client.Speaks host.Holds) {screen : Screen ρ} (keeps : screen.Keeps host.Holds)
    (first : Request) (others : List Request) (more : List UInt8) {rounds : Nat}
    (serves : 0 < rounds) (board : σ) (speaker : ρ)
    (asked : view.Holds board (first.encode ++ more) [])
    (heard : host.Holds speaker (view.written (attempt (run platform rounds) board).2) []) :
    ∃ microseconds tail taken,
      let line := recordLine microseconds (requestRecord first)
      let told := attempt (client.talk screen (first :: others)) speaker
      view.written (attempt (run platform rounds) board).2 =
        greeting ++ Message.ready.encode ++ (line ++ tail) ∧
      first.encode <+: host.written told.2 ∧
      line ++ tail = taken ++ host.unread told.2 ∧
      (∀ answers, told.1 = .ok answers → answers.flatMap Answer.encode = taken) ∧
      ((∀ index < taken.length, line.length ≤ index) ↔
        ∀ request ∈ first :: others, request.replyLength = 0) ∧
      ((∀ request ∈ first :: others, request.replyLength = 0) →
        taken = [] ∧ ∃ answers, told.1 = .ok answers) := by
  obtain ⟨microseconds, tail, sent⟩ := run_begins talks first serves asked
  rw [sent] at heard ⊢
  obtain ⟨ready, waited, kept⟩ := speaks.waitReady_shown keeps _ heard
  have told_eq : attempt (client.talk screen (first :: others)) speaker =
      attempt (client.askAll (first :: others)) ready :=
    Action.attempt_bind_ok waited _
  have behind := behind_recordLine_iff microseconds (requestRecord first)
  rw [told_eq]
  by_cases enough : replyLength (first :: others) ≤
      (recordLine microseconds (requestRecord first) ++ tail).length
  · obtain ⟨answers, left, next, fits, split, answered, _, unread, wrote⟩ :=
      speaks.askAll_enough (first :: others) kept enough
    have length := length_flatMap_encode fits
    refine ⟨microseconds, tail, answers.flatMap Answer.encode, rfl, ?_, ?_, ?_, ?_, ?_⟩
    · rw [attempt, answered, wrote, List.nil_append, encodeRequests_cons]
      exact List.prefix_append _ _
    · rw [attempt, answered, split, unread]
    · intro given same
      rw [attempt, answered] at same
      rw [Except.ok.inj same]
    · rw [behind, length, replyLength_eq_zero]
    · intro silent
      rw [← replyLength_eq_zero, ← length, List.length_eq_zero_iff] at silent
      exact ⟨silent, answers, by rw [attempt, answered]⟩
  · obtain ⟨made, error, next, before, cut, failed, _, unread, wrote⟩ :=
      speaks.askAll_short (first :: others) kept (by omega)
    have asks : replyLength (first :: others) ≠ 0 := by omega
    refine ⟨microseconds, tail, recordLine microseconds (requestRecord first) ++ tail, rfl, ?_, ?_,
      ?_, ?_, ?_⟩
    · rw [attempt, failed, wrote, List.nil_append]
      obtain _ | ⟨request, made⟩ := made
      · exact absurd cut (Nat.not_lt_zero _)
      · rw [(List.cons_prefix_cons.1 before).1, encodeRequests_cons]
        exact List.prefix_append _ _
    · rw [attempt, failed, unread, List.append_nil]
    · intro answers same
      rw [attempt, failed] at same
      exact absurd same (by simp)
    · obtain ⟨byte, rest, front⟩ := recordLine_front microseconds (requestRecord first)
      rw [behind, ← replyLength_eq_zero, front]
      exact iff_of_false (Nat.succ_ne_zero _) asks
    · intro silent
      exact absurd (replyLength_eq_zero.2 silent) asks

/-- The requests that write a word to the tile buffer and read it back. -/
def wordRequests : List Request := [.writeWord tileBase 0xdeadbeef, .readWord tileBase]

/-- A board to which they were sent. -/
def wordBoard : Machine :=
  .fresh {} (encodeRequests wordRequests) 2 0 [] [] (.fresh ⟨0x88000, 0x90000, 0x58000⟩ 0x3c 1)

/-- The requests arrive on the line of this board. -/
theorem wordBoard_holds : Machine.line.Holds wordBoard
    ((Request.writeWord tileBase 0xdeadbeef).encode ++ encodeRequests [.readWord tileBase]) [] := by
  refine ⟨⟨rfl, ?_, ?_, ?_⟩, rfl, rfl⟩ <;> decide

/-- A client that hears what this board sends takes bytes of the first record for a reply. -/
theorem wordBoard_record_taken :
    ∃ sent microseconds tail taken,
      let line := recordLine microseconds (requestRecord (.writeWord tileBase 0xdeadbeef))
      let told := attempt ((⟨Replay.device, Logger.silent⟩ : Client Replay).talk .dark
        [.writeWord tileBase 0xdeadbeef, .readWord tileBase]) { unread := sent }
      Machine.line.written (attempt (run Machine.platform 1) wordBoard).2 = sent ∧
      sent = greeting ++ Message.ready.encode ++ (line ++ tail) ∧
      line ++ tail = taken ++ Replay.view.unread told.2 ∧
      ∃ index < taken.length, index < line.length := by
  obtain ⟨microseconds, tail, taken, sent, _, split, _, silent, _⟩ :=
    record_taken_for_reply Machine.talks Replay.speaks (Screen.dark_keeps _)
      (.writeWord tileBase 0xdeadbeef) [.readWord tileBase] _ Nat.one_pos wordBoard
      { unread := Machine.line.written (attempt (run Machine.platform 1) wordBoard).2 }
      wordBoard_holds (Replay.loaded _)
  refine ⟨_, microseconds, tail, taken, rfl, sent, split, ?_⟩
  by_contra never
  refine absurd (silent.1 (fun index inside => ?_) (.readWord tileBase) (by simp)) (by decide)
  by_contra within
  exact never ⟨index, inside, by omega⟩

/-- The word that a client of this board is told is not the one that it wrote, and that reading the
board gives. -/
theorem wordBoard_misread :
    (∃ sent word, Machine.line.written (attempt (run Machine.platform 1) wordBoard).2 = sent ∧
        (attempt ((⟨Replay.device, Logger.silent⟩ : Client Replay).talk .dark wordRequests)
          { unread := sent }).1 = .ok [.done, .word word] ∧ word ≠ 0xdeadbeef) ∧
      ∃ last, Executed (target Machine.platform).Step wordBoard
        [.writeWord tileBase 0xdeadbeef, .readWord tileBase]
        [⟨.done, [.write tileBase 0xdeadbeef]⟩,
          ⟨.word 0xdeadbeef, [.read tileBase 0xdeadbeef]⟩] last := by
  constructor
  · obtain ⟨microseconds, tail, sent⟩ := run_begins Machine.talks _ Nat.one_pos wordBoard_holds
    obtain ⟨byte, rest, front⟩ :=
      recordLine_front microseconds (requestRecord (.writeWord tileBase 0xdeadbeef))
    obtain ⟨ready, waited, kept⟩ := Replay.speaks.waitReady_shown (Screen.dark_keeps _) _
      (Replay.loaded (greeting ++ Message.ready.encode ++ (recordLine microseconds _ ++ tail)))
    rw [front] at kept
    obtain ⟨answers, left, next, fits, split, answered, _⟩ :=
      Replay.speaks.askAll_enough wordRequests kept (by simp [wordRequests, Request.replyLength])
    rcases fits with _ | ⟨first, _ | ⟨second, ended⟩⟩
    cases first
    cases second with
    | readWord _ word =>
      cases ended
      refine ⟨_, word, sent, ?_, ?_⟩
      · rw [attempt, Client.talk, Action.bind_ok waited, answered]
      · rintro rfl
        have sent : [Answer.done, .word 0xdeadbeef].flatMap Answer.encode =
            [0xef, 0xbe, 0xad, 0xde] := by decide
        rw [sent] at split
        exact absurd (List.cons.inj split).1 (by decide)
  · apply Exists.intro
    apply Executed.next (.writeWord _ _)
      (.single (Action.adapt_ok (Machine.writeTile_ok _ _) Halt.device))
    exact .next (.readWord _ _)
      (.single (Action.adapt_ok (Machine.readTile_ok Std.HashMap.getD_insert_self) Halt.device))
      (.done _)

end MonitorImage

end Bringup
