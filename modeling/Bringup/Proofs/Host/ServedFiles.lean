import Bringup.Proofs.Files.Paths
import Bringup.Proofs.Host.BootSession
import Bringup.Proofs.Stream.Along
import Bringup.Proofs.Wire.MessageFormat
/-!
# The files that a session opens

A board names the programs that it wants, and a session looks the names up in a directory. What is
seen of a session from outside are the bytes that it takes from the board and the files that it
opens. Whatever the board sends and however the session ends, it takes whole messages one after the
other, and behind each request, and nowhere else, it opens the file that the name resolves to
(`Session.Records.run`). A name that does not start at the top of the file system is looked up in
the directory, and its path stays inside it unless it has more steps back than names somewhere
(`Session.opened_inside_iff`); the session does not look for such names.
-/

namespace Bringup

open Bringup.Action

variable {σ : Type}

/-- Reading a byte of the link of a device reads one of the device. -/
theorem Device.link_readByte (device : Device σ) (state : σ) : device.link.readByte state =
    EStateM.adaptExcept TransferError.device device.readByte state := by
  have one : device.link.read 1 = (device.readByte >>= fun byte => pure [byte]) := rfl
  rw [ByteStream.readByte]
  cases step : device.readByte state with
  | ok byte next =>
    have taken := bind_ok step fun byte => (pure [byte] : EStateM DeviceError σ (List UInt8))
    have read : device.link.readField 1 state = .ok [byte] next := by
      refine adapt_ok ?_ _
      rw [ByteStream.readExact, ByteStream.gather, if_neg Nat.one_ne_zero, one,
        bind_ok (adapt_ok taken _)]
      rfl
    rw [adapt_ok step, map_ok read]
    rfl
  | error error next =>
    have failed := bind_error step fun byte => (pure [byte] : EStateM DeviceError σ (List UInt8))
    have missed : device.link.readField 1 state = .error (.device error) next := by
      rw [ByteStream.readField, ByteStream.readExact, ByteStream.gather, if_neg Nat.one_ne_zero,
        one, adapt_error (bind_error (adapt_error failed _) _)]
    rw [adapt_error step, map_error missed]

namespace Session

/-- What is seen of a session from outside. -/
inductive Deed where
  /-- A byte was taken from the board. -/
  | took (byte : UInt8)
  /-- The file at a path was opened. -/
  | opened (path : String)
  deriving DecidableEq

/-- The record of the states before and after an action is the same. -/
def Keeps (record : σ → List Deed) (before after : σ) : Prop := record after = record before

instance (record : σ → List Deed) : IsPreorder σ (Keeps record) where
  refl _ := rfl
  trans _ _ _ first second := second.trans first

/-- The state tells what was seen of the session so far: taking a byte and opening a file add to
what was seen before, and nothing else that a session does touches it. -/
structure Records (session : Session σ) (record : σ → List Deed) : Prop where
  took : ∀ {state byte next}, session.device.readByte state = .ok byte next →
    record next = record state ++ [.took byte]
  missed : ∀ {state error next}, session.device.readByte state = .error error next →
    record next = record state
  writeBytes : ∀ bytes, Action.Along (Keeps record) (session.device.writeBytes bytes)
  push : Action.Along (Keeps record) session.device.flush
  write : ∀ bytes, Action.Along (Keeps record) (session.screen.write bytes)
  flush : Action.Along (Keeps record) session.screen.flush
  log : ∀ event, Action.Along (Keeps record) (session.log event)
  opened : ∀ path state,
    record (attempt (session.readFile path) state).2 = record state ++ [.opened path]

/-- What is seen of a session that gets a message: it takes the bytes of it, and then opens the file
that the name of a request, as much of it as is kept, resolves to. -/
def deeds (source : ProgramSource) (message : Message) : List Deed :=
  message.encode.map .took ++ match message with
    | .loadProgram name => [.opened (source.resolve (Text.decodeLossy (name.take maxName)))]
    | .putc _ | .ready => []

/-- Bytes that are no message yet, or never will be. -/
inductive Unfinished : List UInt8 → Prop where
  | cut {part missing : List UInt8} (message : Message) (zeroFree : message.ZeroFree)
    (split : message.encode = part ++ missing) (short : missing ≠ []) : Unfinished part
  | unknown {byte : UInt8} (unknown : 0x03 ≤ byte) : Unfinished [byte]

/-- From one record to the other, a session that ended so got whole messages, and then the
announcement of the monitor, or bytes that are no message. Only behind the announcement does it end
well. -/
def Got (source : ProgramSource) (exit : Except SessionError Unit) (before after : List Deed) :
    Prop :=
  ∃ (messages : List Message) (rest : List UInt8),
    (∀ message ∈ messages, message.ZeroFree ∧ message ≠ .ready) ∧
    (rest = Message.ready.encode ∨ Unfinished rest ∧ exit ≠ .ok ()) ∧
    after = before ++ messages.flatMap (deeds source) ++ rest.map .took

/-- What a session receives in a state: a message, of which it takes the bytes, or an error, behind
bytes that are no message. -/
inductive Receives (session : Session σ) (record : σ → List Deed) (state : σ) : Prop where
  | message (message : Message) (next : σ) (zeroFree : message.ZeroFree)
    (ran : Message.receive session.device.link maxName state = .ok (message.truncate maxName) next)
    (seen : record next = record state ++ message.encode.map .took)
  | error (rest : List UInt8) (error : DecodeError DeviceError) (next : σ)
    (unfinished : Unfinished rest)
    (ran : Message.receive session.device.link maxName state = .error error next)
    (seen : record next = record state ++ rest.map .took)

variable {session : Session σ} {record : σ → List Deed} {source : ProgramSource} {root : String}
  {before middle after : List Deed} {exit : Except SessionError Unit} {state behind : σ}

/-- No bytes are no message yet. -/
theorem unfinished_nil : Unfinished [] := .cut .ready trivial rfl (List.cons_ne_nil 0x02 [])

/-- A session that got no message has only taken bytes, and failed. -/
theorem Got.of_unfinished {rest : List UInt8} (unfinished : Unfinished rest)
    (failed : exit ≠ .ok ()) (seen : after = before ++ rest.map .took) :
    Got source exit before after :=
  ⟨[], rest, by simp, .inr ⟨unfinished, failed⟩, by simpa using seen⟩

/-- A session that saw nothing more and failed got nothing more. -/
theorem Got.of_error (error : SessionError) : Got source (.error error) before before :=
  .of_unfinished unfinished_nil (by simp) (List.append_nil _).symm

/-- A session that got the announcement of the monitor got nothing behind it. -/
theorem Got.of_ready (seen : after = before ++ Message.ready.encode.map .took) :
    Got source exit before after :=
  ⟨[], Message.ready.encode, by simp, .inl rfl, by simpa using seen⟩

/-- A message that a session got comes before those that it gets later. -/
theorem Got.after_message {message : Message} (zeroFree : message.ZeroFree)
    (others : message ≠ .ready) (seen : middle = before ++ deeds source message)
    (later : Got source exit middle after) : Got source exit before after := by
  obtain ⟨messages, rest, proper, ends, rfl⟩ := later
  refine ⟨message :: messages, rest, ?_, ends, ?_⟩
  · exact List.forall_mem_cons.2 ⟨⟨zeroFree, others⟩, proper⟩
  · rw [seen, List.flatMap_cons, List.append_assoc before]

/-- What was done about a message comes before what is got later, which is nothing if it failed. -/
theorem Got.after_act {act rest : EStateM SessionError (Serving σ) Unit} {serving : Serving σ}
    {message : Message} (zeroFree : message.ZeroFree) (others : message ≠ .ready)
    (seen : record (attempt act serving).2.world = before ++ deeds source message)
    (later : ∀ serving, Got source (attempt rest serving).1 (record serving.world)
      (record (attempt rest serving).2.world)) :
    Got source (attempt (act >>= fun _ => rest) serving).1 before
      (record (attempt (act >>= fun _ => rest) serving).2.world) := by
  cases step : act serving with
  | ok _ next =>
    rw [attempt, step] at seen
    rw [attempt_bind_ok step]
    exact .after_message zeroFree others seen (later next)
  | error error next =>
    rw [attempt, step] at seen
    rw [attempt, bind_error step]
    exact .after_message zeroFree others seen (.of_error error)

/-- What is done in the world keeps the record that is kept there. -/
theorem world_keeps {δ α : Type} {action : EStateM δ σ α}
    (keeps : Action.Along (Keeps record) action) :
    Action.Along (Keeps fun serving : Serving σ => record serving.world) (world.run action) := by
  rintro ⟨programs, state⟩
  have kept := keeps state
  cases step : action state with
  | ok value next =>
    rw [attempt, step] at kept
    rw [attempt, world_ok step]
    exact kept
  | error error next =>
    have inside : action (world.get ⟨programs, state⟩) = .error error next := step
    rw [attempt, step] at kept
    rw [attempt, Part.run_error inside]
    exact kept

/-- An act on the world keeps the record that is kept there. -/
theorem acting_keeps {δ α : Type} {action : EStateM δ σ α}
    (keeps : Action.Along (Keeps record) action) (failure : δ → SessionError) :
    Action.Along (Keeps fun serving : Serving σ => record serving.world)
      (acting failure action) :=
  (world_keeps keeps).adapt failure

namespace Records

/-- A byte that can be read from the link is taken. -/
theorem readByte (records : session.Records record) (state : σ) :
    (∃ byte next, session.device.link.readByte state = .ok byte next ∧
      record next = record state ++ [.took byte]) ∨
    (∃ error next, session.device.link.readByte state = .error error next ∧
      record next = record state) := by
  rw [Device.link_readByte]
  cases step : session.device.readByte state with
  | ok byte next => exact .inl ⟨byte, next, adapt_ok step _, records.took step⟩
  | error error next => exact .inr ⟨_, next, adapt_error step _, records.missed step⟩

/-- The bytes of a name are taken up to the zero byte, or as far as they come. -/
theorem gatherCString (records : session.Records record) (rounds capacity : Nat) (state : σ) :
    (∃ name next, session.device.link.gatherCString rounds capacity state =
        .ok (name.take capacity) next ∧
      0 ∉ name ∧ record next = record state ++ (name ++ [0]).map .took) ∨
    (∃ (part : List UInt8) (error : TransferError DeviceError) (next : σ),
      session.device.link.gatherCString rounds capacity state =
        .error ⟨part.take capacity, error⟩ next ∧
      0 ∉ part ∧ record next = record state ++ part.map .took) := by
  induction rounds generalizing capacity state with
  | zero =>
    refine .inr ⟨[], .unexpectedEnd, state, ?_, List.not_mem_nil, (List.append_nil _).symm⟩
    rw [List.take_nil]
    rfl
  | succ rounds ih =>
    obtain ⟨byte, middle, ran, seen⟩ | ⟨error, next, failed, seen⟩ := records.readByte state
    · by_cases zero : byte = 0
      · subst zero
        refine .inl ⟨[], middle, ?_, List.not_mem_nil, seen⟩
        rw [ByteStream.gatherCString, bind_ok (adapt_ok ran _), if_pos rfl, List.take_nil]
        rfl
      · obtain ⟨name, next, others, noZero, rest⟩ | ⟨part, error, next, others, noZero, rest⟩ :=
          ih (capacity - 1) middle
        · refine .inl ⟨byte :: name, next, ?_, ?_, ?_⟩
          · exact ByteStream.Supplies.gatherCString_ok ran zero others
          · exact List.not_mem_cons_of_ne_of_not_mem (Ne.symm zero) noZero
          · rw [rest, seen, List.append_assoc]
            rfl
        · refine .inr ⟨byte :: part, error, next, ?_, ?_, ?_⟩
          · exact ByteStream.Supplies.gatherCString_error ran zero others
          · exact List.not_mem_cons_of_ne_of_not_mem (Ne.symm zero) noZero
          · rw [rest, seen, List.append_assoc]
            rfl
    · refine .inr ⟨[], error, next, ?_, List.not_mem_nil, ?_⟩
      · rw [ByteStream.gatherCString, bind_error (adapt_error failed _), List.take_nil]
      · rw [seen, List.map_nil, List.append_nil]

/-- Behind the command of a console byte, the byte is taken. -/
theorem receives_putc (records : session.Records record)
    (command : session.device.link.readByte state = .ok 0x00 behind)
    (seen : record behind = record state ++ [.took 0x00]) : session.Receives record state := by
  have begun : Message.receive session.device.link maxName state = (Message.putc <$>
      EStateM.adaptExcept DecodeError.transfer session.device.link.readByte) behind := by
    rw [Message.receive, bind_ok (adapt_ok command _), if_pos rfl]
  obtain ⟨byte, next, text, later⟩ | ⟨error, next, failed, later⟩ := records.readByte behind
  · refine .message (.putc byte) next trivial ?_ ?_
    · rw [begun]
      exact map_ok (adapt_ok text _) _
    · rw [later, seen, List.append_assoc]
      rfl
  · have cut : Unfinished [0x00] := .cut (.putc 0) trivial rfl (List.cons_ne_nil 0 [])
    refine .error [0x00] (.transfer error) next cut ?_ ?_
    · rw [begun]
      exact map_error (adapt_error failed _) _
    · rw [later, seen]
      rfl

/-- Behind the command to load a program, the name is taken. -/
theorem receives_loadProgram (records : session.Records record)
    (command : session.device.link.readByte state = .ok 0x01 behind)
    (seen : record behind = record state ++ [.took 0x01]) : session.Receives record state := by
  have begun : Message.receive session.device.link maxName state = (Message.loadProgram <$>
      EStateM.adaptExcept (fun short => DecodeError.transfer short.error)
        (session.device.link.readCString maxName)) behind := by
    rw [Message.receive, bind_ok (adapt_ok command _), if_neg (by decide), if_pos rfl]
  obtain ⟨name, next, read, noZero, later⟩ | ⟨part, error, next, read, noZero, later⟩ :=
    records.gatherCString (session.device.link.pending behind + 1) maxName behind
  · refine .message (.loadProgram name) next noZero ?_ ?_
    · rw [begun]
      exact map_ok (adapt_ok read _) _
    · rw [later, seen, List.append_assoc]
      rfl
  · have cut : Unfinished (0x01 :: part) :=
      .cut (.loadProgram part) noZero rfl (List.cons_ne_nil 0 [])
    refine .error (0x01 :: part) (.transfer error) next cut ?_ ?_
    · rw [begun]
      exact map_error (adapt_error read _) _
    · rw [later, seen, List.append_assoc]
      rfl

/-- A session receives a message and takes its bytes, or it takes bytes that are none. -/
theorem receives (records : session.Records record) (state : σ) :
    session.Receives record state := by
  obtain ⟨command, behind, ran, seen⟩ | ⟨error, next, failed, seen⟩ := records.readByte state
  · by_cases isPutc : command = 0x00
    · subst isPutc
      exact records.receives_putc ran seen
    by_cases isLoadProgram : command = 0x01
    · subst isLoadProgram
      exact records.receives_loadProgram ran seen
    have begun := adapt_ok ran DecodeError.transfer
    by_cases isReady : command = 0x02
    · subst isReady
      exact .message .ready behind trivial (by rw [Message.receive, bind_ok begun]; rfl) seen
    have unknown : (0x03 : UInt8) ≤ command := by grind
    refine .error [command] (.unknown command) behind (.unknown unknown) ?_ seen
    rw [Message.receive, bind_ok begun, if_neg isPutc, if_neg isLoadProgram, if_neg isReady]
    rfl
  · refine .error [] (.transfer error) next unfinished_nil ?_ ?_
    · exact bind_error (adapt_error failed _) _
    · rw [seen, List.map_nil, List.append_nil]

/-- Noting something is not seen. -/
theorem note (records : session.Records record) (text : String) :
    Action.Along (Keeps fun serving : Serving σ => record serving.world) (session.note text) :=
  world_keeps ((records.log _).adapt _)

/-- Showing a console byte is not seen. -/
theorem showByte (records : session.Records record) (byte : UInt8) :
    Action.Along (Keeps fun serving : Serving σ => record serving.world)
      (session.showByte byte) := by
  refine acting_keeps (.bind (records.write [byte]) fun _ => ?_) _
  split
  · exact records.flush
  · exact .pure ()

/-- A note is always taken, and not seen. -/
theorem note_ok (records : session.Records record) (text : String) (serving : Serving σ) :
    ∃ next, session.note text serving = .ok () next ∧
      record next.world = record serving.world := by
  have kept := records.note text serving
  obtain ⟨programs, state⟩ := serving
  cases step : session.log ⟨.info, logTarget, text⟩ state with
  | ok _ next =>
    have noted : session.note text ⟨programs, state⟩ = .ok () ⟨programs, next⟩ :=
      world_ok (adapt_ok step _)
    rw [attempt, noted] at kept
    exact ⟨_, noted, kept⟩
  | error error _ => cases error

/-- Answering a request opens the file that the name resolves to, whatever comes of it. -/
theorem serve (records : session.Records record) (name : String) (serving : Serving σ) :
    record (attempt (session.serve name) serving).2.world =
      record serving.world ++ [.opened (session.source.resolve name)] := by
  have writes : ∀ bytes, Action.Along (Keeps record) (session.device.link.write bytes) :=
    fun bytes => .bind (records.writeBytes bytes) fun _ => .pure _
  obtain ⟨noted, ran, kept⟩ := records.note_ok
    ("program requested: " ++ name ++ " (" ++ session.source.resolve name ++ ")") serving
  have opened := records.opened (session.source.resolve name) noted.world
  rw [Session.serve, attempt_bind_ok ran]
  cases read : session.readFile (session.source.resolve name) noted.world with
  | error error _ => cases error
  | ok file next =>
    rw [attempt, read, kept] at opened
    rw [attempt_bind_ok (acting_ok read _), ← opened]
    cases file with
    | error error => rfl
    | ok image =>
      -- Nothing that comes after the file was opened is seen.
      refine Action.Along.bind (records.note _) (fun _ => ?_) _
      refine .bind (acting_keeps (session.device.link.writeAll_along writes _) _) fun _ => ?_
      refine .bind (acting_keeps records.push _) fun _ => ?_
      exact .modify fun _ => rfl

/-- Handling messages, a session gets whole messages, and then the announcement of the monitor or
bytes that are no message. -/
theorem handle (records : session.Records record) (rounds : Nat) (serving : Serving σ) :
    Got session.source (attempt (session.handle rounds) serving).1 (record serving.world)
      (record (attempt (session.handle rounds) serving).2.world) := by
  induction rounds generalizing serving with
  | zero => exact .of_error (.receiving .closed)
  | succ rounds ih =>
    obtain ⟨programs, state⟩ := serving
    cases records.receives state with
    | error rest error next unfinished ran seen =>
      have failed : session.handle (rounds + 1) ⟨programs, state⟩ =
          .error (.receiving (.ofDecode error)) ⟨programs, next⟩ :=
        bind_error (acting_error (adapt_error ran _) _) _
      rw [attempt, failed]
      exact .of_unfinished unfinished (by simp) seen
    | message message next zeroFree ran seen =>
      have received : acting .receiving (session.device.receive maxName) ⟨programs, state⟩ =
          .ok (message.truncate maxName) ⟨programs, next⟩ := acting_ok (adapt_ok ran _) _
      rw [Session.handle, attempt_bind_ok received]
      cases message with
      | putc byte =>
        have shown : record (attempt (session.showByte byte) ⟨programs, next⟩).2.world =
            record next := records.showByte byte ⟨programs, next⟩
        exact .after_act zeroFree (by simp) (by rw [shown, seen, deeds, List.append_nil]) ih
      | loadProgram name =>
        have served := records.serve (Text.decodeLossy (name.take maxName)) ⟨programs, next⟩
        exact .after_act zeroFree (by simp) (by rw [served, seen, deeds, List.append_assoc]) ih
      | ready =>
        have flushed := acting_keeps records.flush SessionError.screen ⟨programs, next⟩
        exact .of_ready (flushed.trans seen)

/-- So it does over a whole session. -/
theorem run (records : session.Records record) (serving : Serving σ) :
    Got session.source (attempt session.run serving).1 (record serving.world)
      (record (attempt session.run serving).2.world) :=
  records.handle _ serving

end Records

/-- Over a whole session, whatever the board sends and however the session ends, whole messages come
one after the other, and at the end the announcement of the monitor, or bytes that are no message;
only behind the announcement does the session end well. Behind each request the session opens the
file that it resolves the name to, decoded and cut at 256 bytes, and it opens no other file. A name
that is not absolute is resolved to a path that starts where the root does and takes the steps of
the root and then those of the name. So this path lies inside the root just if no beginning of the
name has more steps back than names. -/
theorem opened_inside_iff (directory : session.source = .directory root)
    (records : session.Records record) (serving : Serving σ) :
    (∃ (messages : List Message) (rest : List UInt8),
      (∀ message ∈ messages, message.ZeroFree ∧ message ≠ .ready) ∧
      (rest = Message.ready.encode ∨ Unfinished rest ∧ (attempt session.run serving).1 ≠ .ok ()) ∧
      record (attempt session.run serving).2.world =
        record serving.world ++ messages.flatMap (deeds session.source) ++ rest.map .took) ∧
    ∀ name : List UInt8, Path.isAbsolute (Text.decodeLossy name) = false →
      Path.isAbsolute (session.source.resolve (Text.decodeLossy name)) = Path.isAbsolute root ∧
      Path.steps (session.source.resolve (Text.decodeLossy name)) =
        Path.steps root ++ Path.steps (Text.decodeLossy name) ∧
      (Path.Inside root (session.source.resolve (Text.decodeLossy name)) ↔
        Path.Stays (Path.steps (Text.decodeLossy name))) := by
  refine ⟨records.run serving, fun name relative => ?_⟩
  rw [directory, ProgramSource.resolve]
  exact ⟨Path.isAbsolute_join root relative, Path.steps_join root relative,
    Path.inside_join_iff root relative⟩

end Session

/-- A replayed board, and what is seen of the session with it. -/
structure Watched where
  board : Replay
  record : List Session.Deed := []

namespace Watched

/-- The board. -/
def boardPart : Part Watched Replay :=
  ⟨fun ⟨board, record⟩ => (board, fun board => ⟨board, record⟩)⟩

/-- Something more is seen. -/
def see {ε : Type} (deed : Session.Deed) : EStateM ε Watched Unit :=
  modify fun ⟨board, record⟩ => ⟨board, record ++ [deed]⟩

/-- The board, and the bytes that are taken from it. -/
def device : Device Watched :=
  { Replay.device.onPart boardPart with
    readByte := do
      let byte ← boardPart.run Replay.readByte
      see (.took byte)
      pure byte }

/-- A session that serves an empty program for each file of a directory. -/
def session (root : String) : Session Watched where
  device := device
  screen := Screen.dark
  log := Logger.silent
  readFile path := do
    see (.opened path)
    pure (.ok [])
  source := .directory root

/-- What is sent to the board is not seen. -/
theorem board_keeps {ε α : Type} (action : EStateM ε Replay α) :
    Along (Session.Keeps record) (boardPart.run action) :=
  Part.run_along (fun _ _ => rfl) action

/-- The bytes that are taken and the files that are opened are seen. -/
theorem records (root : String) : (session root).Records record where
  took := by
    intro state byte next ran
    obtain ⟨taken, middle, read, seen⟩ := bind_eq_ok ran
    have kept := board_keeps Replay.readByte state
    rw [attempt, read] at kept
    cases seen
    exact congrArg (· ++ [Session.Deed.took byte]) kept
  missed := by
    intro state error next ran
    have kept := board_keeps Replay.readByte state
    cases read : boardPart.run Replay.readByte state with
    | ok byte middle => cases (bind_ok read _).symm.trans ran
    | error failure middle =>
      cases (bind_error read _).symm.trans ran
      rwa [attempt, read] at kept
  writeBytes bytes := board_keeps (Replay.device.writeBytes bytes)
  push := board_keeps Replay.device.flush
  write _ _ := rfl
  flush _ := rfl
  log _ _ := rfl
  opened _ _ := rfl

/-- A board that asks for a program by a name with a step back, and announces the monitor. -/
def asking : Watched where
  board := { unread := BootEvent.sent [.asks "lib/../os"] ++ Message.ready.encode }

/-- The steps of that name. -/
theorem asking_steps : Path.steps "lib/../os" = ["lib", "..", "os"] := by
  rw [Path.steps, Path.components_eq]
  decide

/-- The file that the board asks for is opened behind the request, and it is inside the
directory. -/
theorem asking_inside :
    (session "/srv/xw").source = .directory "/srv/xw" ∧ (session "/srv/xw").Records record ∧
      (attempt (session "/srv/xw").run ⟨0, asking⟩).2.world.record =
        (Message.loadProgram (Text.utf8Bytes "lib/../os")).encode.map .took ++
          [.opened "/srv/xw/lib/../os", .took 0x02] ∧
      Path.isAbsolute (Text.decodeLossy (Text.utf8Bytes "lib/../os")) = false ∧
      Path.Inside "/srv/xw" "/srv/xw/lib/../os" := by
  obtain ⟨_, inside⟩ := Session.opened_inside_iff rfl (records "/srv/xw") ⟨0, asking⟩
  have relative : Path.isAbsolute (Text.decodeLossy (Text.utf8Bytes "lib/../os")) = false := by
    rw [Text.decodeLossy_utf8Bytes]
    decide
  obtain ⟨_, _, inside⟩ := inside (Text.utf8Bytes "lib/../os") relative
  have stays : Path.Stays (Path.steps "lib/../os") := by
    rw [asking_steps]
    decide
  rw [Text.decodeLossy_utf8Bytes] at inside
  exact ⟨rfl, records "/srv/xw", by decide +kernel, relative, inside.2 stays⟩

end Watched

namespace Host.Rehearsal

/-- A directory of programs, and a file beside it. -/
def keyTree : FileTree := ⟨["srv"], [(["srv", "xw", "os"], [0x13]), (["srv", "key"], [0x6b])]⟩

/-- The steps of a name that leads out of a directory, of one that is absolute, and of the
directory. -/
theorem key_steps : Path.steps "../key" = ["..", "key"] ∧
    Path.steps "/etc/passwd" = ["etc", "passwd"] ∧ Path.steps "/srv/xw" = ["srv", "xw"] := by
  refine ⟨?_, ?_, ?_⟩ <;>
  · rw [Path.steps, Path.components_eq]
    decide

/-- The file beside the directory of programs is found from there. -/
theorem keyTree_read : keyTree.read (Path.join "/srv/xw" "../key") = .ok [0x6b] := by
  have components : Path.components (Path.join "/srv/xw" "../key") =
      ["", "srv", "xw", "..", "key"] := by
    rw [Path.components_eq]
    decide
  rw [FileTree.read, FileTree.find, components]
  rfl

/-- A session that serves a directory of programs serves a file beside it to a board that asks with
a step back. The path leads out of the directory, and so does that of an absolute name. -/
theorem key_served :
    (∃ next, (session keyTree (.directory "/srv/xw")).serve
          (Text.decodeLossy (Text.utf8Bytes "../key")) ⟨0, demoBoard []⟩ = .ok () ⟨1, next⟩ ∧
        Holds [] next [] (Program.encode [0x6b])) ∧
      ¬Path.Inside "/srv/xw" ((ProgramSource.directory "/srv/xw").resolve
        (Text.decodeLossy (Text.utf8Bytes "../key"))) ∧
      ¬Path.Inside "/srv/xw" ((ProgramSource.directory "/srv/xw").resolve
        (Text.decodeLossy (Text.utf8Bytes "/etc/passwd"))) := by
  rw [Text.decodeLossy_utf8Bytes, Text.decodeLossy_utf8Bytes]
  have sends : Holds [] (demoBoard []) [] [] := ⟨Replay.loaded [], rfl, rfl⟩
  refine ⟨?_, ?_, ?_⟩
  · obtain ⟨next, served, kept⟩ :=
      (session_relies keyTree (.directory "/srv/xw")).serve_found 0 keyTree_read sends
    exact ⟨next, served, kept⟩
  · have relative : Path.isAbsolute "../key" = false := by decide
    intro inside
    have stays := (Path.inside_join_iff "/srv/xw" relative).1 inside
    rw [key_steps.1] at stays
    exact absurd stays (by decide)
  · have itself : (ProgramSource.directory "/srv/xw").resolve "/etc/passwd" = "/etc/passwd" := by
      decide
    rw [itself]
    rintro ⟨_, below, split, _⟩
    rw [key_steps.2.1, key_steps.2.2] at split
    exact absurd (List.cons.inj split).1 (by decide)

end Host.Rehearsal

end Bringup
