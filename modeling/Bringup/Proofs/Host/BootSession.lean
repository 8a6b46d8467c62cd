import Bringup.Host.Rehearsal
import Bringup.Proofs.Host.Conversation
import Bringup.Proofs.Text.Utf8
import Bringup.Proofs.Wire.ProgramCodec
/-!
# The session with a starting board

While it starts, a board mixes console text with requests for programs in any order. The session
tells them apart: text is shown, each request is answered with its file, and nothing after the
announcement of the monitor is taken. A loader that reads the answers gets the requested files in
order. Where a file cannot be read the session ends before any byte of its answer is sent
(`Session.run_demultiplexes`).

The files are a map from paths to contents or errors.
-/

namespace Bringup

variable {σ : Type}

/-- What a board does while it starts, as the session sees it. -/
inductive BootEvent where
  /-- A byte of console text. -/
  | text (byte : UInt8)
  /-- A request for the program of this name. -/
  | asks (name : String)

namespace BootEvent

/-- The message that the board sends. -/
def message : BootEvent → Message
  | .text byte => .putc byte
  | .asks name => .loadProgram (Text.utf8Bytes name)

/-- The console text. -/
def shown (events : List BootEvent) : List UInt8 :=
  events.filterMap fun
    | .text byte => some byte
    | .asks _ => none

/-- The names of the programs requested. -/
def asked (events : List BootEvent) : List String :=
  events.filterMap fun
    | .text _ => none
    | .asks name => some name

/-- The bytes that the board sends. -/
def sent (events : List BootEvent) : List UInt8 := events.flatMap fun event => event.message.encode

/-- Each event takes at least a byte. -/
theorem length_le_sent (events : List BootEvent) : events.length ≤ (sent events).length := by
  induction events with
  | nil => exact Nat.le_refl _
  | cons event events ih =>
    have positive : 1 ≤ event.message.encode.length := by cases event <;> exact Nat.succ_pos _
    rw [sent, List.flatMap_cons, List.length_append, ← sent, List.length_cons]
    omega

end BootEvent

/-- A screen that takes everything. The state stands for the text shown so far, and for what the
board sends and is sent, which the screen leaves alone. -/
structure Screen.Shows (screen : Screen σ)
    (holds : (shown : List UInt8) → σ → (unread written : List UInt8) → Prop) : Prop where
  write : ∀ {shown state unread written}, holds shown state unread written → ∀ bytes,
    ∃ next, screen.write bytes state = .ok () next ∧ holds (shown ++ bytes) next unread written
  flush : ∀ {shown state unread written}, holds shown state unread written →
    ∃ next, screen.flush state = .ok () next ∧ holds shown next unread written

namespace Session

/-- A name that the board can ask for and the session keeps as a whole. -/
structure Askable (name : String) : Prop where
  noZero : 0 ∉ Text.utf8Bytes name
  short : (Text.utf8Bytes name).length ≤ maxName

/-- What a session may rely on. The state stands for the text shown so far, the bytes that the board
still sends, and the bytes sent to it. The line carries bytes and the screen shows what is written
to it. Reading a file leaves all this alone, and so does the log. -/
structure Relies (session : Session σ) (files : String → Except FileError (List UInt8))
    (holds : (shown : List UInt8) → σ → (unread written : List UInt8) → Prop) : Prop where
  device : ∀ shown, session.device.Carries (holds shown)
  shows : session.screen.Shows holds
  log : ∀ {shown state unread written}, holds shown state unread written → ∀ record,
    ∃ next, session.log record state = .ok () next ∧ holds shown next unread written
  readFile : ∀ {shown state unread written}, holds shown state unread written → ∀ path,
    ∃ next, session.readFile path state = .ok (files path) next ∧ holds shown next unread written

variable {session : Session σ} {files : String → Except FileError (List UInt8)}
  {holds : List UInt8 → σ → List UInt8 → List UInt8 → Prop} {state next : σ}
  {shown unread written rest : List UInt8} {programs : Nat}

/-- What is done in the world leaves the number of programs alone. -/
theorem world_ok {ε α : Type} {action : EStateM ε σ α} {value : α}
    (step : action state = .ok value next) :
    world.run action ⟨programs, state⟩ = .ok value ⟨programs, next⟩ := by
  have inside : action (world.get ⟨programs, state⟩) = .ok value next := step
  exact Part.run_ok inside

/-- An act on the world leaves the number of programs alone. -/
theorem acting_ok {ε α : Type} {action : EStateM ε σ α} {value : α}
    (step : action state = .ok value next) (failure : ε → SessionError) :
    acting failure action ⟨programs, state⟩ = .ok value ⟨programs, next⟩ :=
  Action.adapt_ok (world_ok step) failure

/-- An act on the world that fails is a failure of the session, and leaves the number of programs
alone. -/
theorem acting_error {ε α : Type} {action : EStateM ε σ α} {error : ε}
    (step : action state = .error error next) (failure : ε → SessionError) :
    acting failure action ⟨programs, state⟩ = .error (failure error) ⟨programs, next⟩ := by
  have inside : action (world.get ⟨programs, state⟩) = .error error next := step
  exact Action.adapt_error (Part.run_error inside) failure

/-- A console byte is shown, whether it ends a line or not. -/
theorem showByte_shown (shows : session.screen.Shows holds) (programs : Nat) (byte : UInt8)
    (held : holds shown state unread written) :
    ∃ next, session.showByte byte ⟨programs, state⟩ = .ok () ⟨programs, next⟩ ∧
      holds (shown ++ [byte]) next unread written := by
  obtain ⟨middle, write, kept⟩ := shows.write held [byte]
  by_cases ends : byte = 0x0a
  · obtain ⟨next, flush, kept⟩ := shows.flush kept
    refine ⟨next, acting_ok ((Action.bind_ok write _).trans ?_) _, kept⟩
    rw [if_pos ends]
    exact flush
  · refine ⟨middle, acting_ok ((Action.bind_ok write _).trans ?_) _, kept⟩
    rw [if_neg ends]
    rfl

namespace Relies

/-- Noting something leaves everything alone. -/
theorem note_kept (relies : session.Relies files holds) (text : String)
    (held : holds shown state unread written) :
    ∃ next, session.note text ⟨programs, state⟩ = .ok () ⟨programs, next⟩ ∧
      holds shown next unread written := by
  obtain ⟨next, noted, kept⟩ := relies.log held ⟨.info, logTarget, text⟩
  exact ⟨next, world_ok (Action.adapt_ok noted _), kept⟩

/-- A request for a file that can be read is answered with it and counted. -/
theorem serve_found (relies : session.Relies files holds) (programs : Nat) {name : String}
    {image : List UInt8} (found : files (session.source.resolve name) = .ok image)
    (held : holds shown state unread written) :
    ∃ next, session.serve name ⟨programs, state⟩ = .ok () ⟨programs + 1, next⟩ ∧
      holds shown next unread (written ++ Program.encode image) := by
  obtain ⟨requested, request, kept⟩ := relies.note_kept
    ("program requested: " ++ name ++ " (" ++ session.source.resolve name ++ ")") held
  obtain ⟨opened, read, kept⟩ := relies.readFile kept (session.source.resolve name)
  rw [found] at read
  obtain ⟨announced, announce, kept⟩ := relies.note_kept
    ("serving " ++ Text.decimal image.length ++ " bytes, CRC "
      ++ Text.hex 8 (Crc32.checksum image).toNat) kept
  obtain ⟨written, write, kept⟩ := Program.serve_all (relies.device shown).link image kept
  obtain ⟨next, flush, kept⟩ := (relies.device shown).flush kept
  refine ⟨next, ?_, kept⟩
  refine (Action.bind_ok request _).trans ?_
  refine (Action.bind_ok (acting_ok read _) _).trans ?_
  refine (Action.bind_ok announce _).trans ?_
  refine (Action.bind_ok (acting_ok write _) _).trans ?_
  exact (Action.bind_ok (acting_ok flush _) _).trans rfl

/-- A request for a file that cannot be read is an error. Nothing is sent, nothing is counted. -/
theorem serve_missing (relies : session.Relies files holds) (programs : Nat) {name : String}
    {error : FileError} (missing : files (session.source.resolve name) = .error error)
    (held : holds shown state unread written) :
    ∃ next, session.serve name ⟨programs, state⟩ =
        .error (.unreadable (session.source.resolve name) error) ⟨programs, next⟩ ∧
      holds shown next unread written := by
  obtain ⟨requested, request, kept⟩ := relies.note_kept
    ("program requested: " ++ name ++ " (" ++ session.source.resolve name ++ ")") held
  obtain ⟨next, read, kept⟩ := relies.readFile kept (session.source.resolve name)
  rw [missing] at read
  refine ⟨next, (Action.bind_ok request _).trans ?_, kept⟩
  exact (Action.bind_ok (acting_ok read _) _).trans rfl

/-- A request in front is received, and the name is the text that was sent. -/
theorem receive_asked (relies : session.Relies files holds) {name : String}
    (askable : Askable name)
    (held : holds shown state ((BootEvent.asks name).message.encode ++ rest) written) :
    ∃ next, session.device.receive maxName state = .ok (BootEvent.asks name).message next ∧
      Text.decodeLossy (Text.utf8Bytes name) = name ∧ holds shown next rest written := by
  obtain ⟨next, received, kept⟩ := Message.receive_loadProgram (relies.device shown).link
    (Text.utf8Bytes name) askable.noZero askable.short held
  exact ⟨next, Action.adapt_ok received _, Text.decodeLossy_utf8Bytes name, kept⟩

/-- The events in front are handled one after the other, and the session goes on behind them. -/
theorem handle_events (relies : session.Relies files holds) (events : List BootEvent)
    {images : List (List UInt8)} (rounds : Nat)
    (askable : ∀ name ∈ BootEvent.asked events, Askable name)
    (found : List.Forall₂ (fun name image => files (session.source.resolve name) = .ok image)
      (BootEvent.asked events) images)
    (held : holds shown state (BootEvent.sent events ++ rest) written) :
    ∃ next, session.handle (rounds + events.length) ⟨programs, state⟩ =
        session.handle rounds ⟨programs + images.length, next⟩ ∧
      holds (shown ++ BootEvent.shown events) next rest
        (written ++ images.flatMap Program.encode) := by
  induction events generalizing programs state shown written images with
  | nil =>
    obtain rfl := List.forall₂_nil_left_iff.1 found
    refine ⟨state, rfl, ?_⟩
    show holds (shown ++ []) state rest (written ++ [])
    rwa [List.append_nil, List.append_nil]
  | cons event events ih =>
    rw [BootEvent.sent, List.flatMap_cons, List.append_assoc, ← BootEvent.sent] at held
    cases event with
    | text byte =>
      obtain ⟨received, receive, kept⟩ :=
        Message.receive_putc (relies.device shown).link maxName byte held
      obtain ⟨showing, shows, kept⟩ := showByte_shown relies.shows programs byte kept
      obtain ⟨next, others, kept⟩ := ih askable found kept
      refine ⟨next, ?_, by rwa [List.append_assoc] at kept⟩
      refine (Action.bind_ok (acting_ok (Action.adapt_ok receive _) _) _).trans ?_
      exact (Action.bind_ok shows _).trans others
    | asks name =>
      obtain ⟨image, images, here, later, rfl⟩ := List.forall₂_cons_left_iff.1 found
      obtain ⟨received, receive, same, kept⟩ :=
        relies.receive_asked (askable name List.mem_cons_self) held
      obtain ⟨served, serve, kept⟩ := relies.serve_found programs here kept
      obtain ⟨next, others, kept⟩ :=
        ih (fun other among => askable other (List.mem_cons_of_mem _ among)) later kept
      refine ⟨next, ?_, ?_⟩
      · refine (Action.bind_ok (acting_ok receive _) _).trans ?_
        show (session.serve (Text.decodeLossy (Text.utf8Bytes name)) >>= _) _ = _
        rw [same, Action.bind_ok serve, List.length_cons, Nat.add_comm images.length 1,
          ← Nat.add_assoc]
        exact others
      · rwa [List.append_assoc] at kept

/-- A session has a round for every event and one more. -/
theorem run_events (relies : session.Relies files holds) (programs : Nat)
    (events : List BootEvent) {images : List (List UInt8)}
    (askable : ∀ name ∈ BootEvent.asked events, Askable name)
    (found : List.Forall₂ (fun name image => files (session.source.resolve name) = .ok image)
      (BootEvent.asked events) images)
    (held : holds shown state (BootEvent.sent events ++ rest) written) :
    ∃ rounds next, session.run ⟨programs, state⟩ =
        session.handle (rounds + 1) ⟨programs + images.length, next⟩ ∧
      holds (shown ++ BootEvent.shown events) next rest
        (written ++ images.flatMap Program.encode) := by
  have pending := (relies.device shown).pending held
  rw [List.length_append] at pending
  have least := BootEvent.length_le_sent events
  obtain ⟨rounds, enough⟩ : ∃ rounds, session.device.pending state + 1 =
      rounds + 1 + events.length :=
    ⟨session.device.pending state - events.length, by omega⟩
  obtain ⟨next, handled, kept⟩ := relies.handle_events events (rounds + 1) askable found held
  refine ⟨rounds, next, ?_, kept⟩
  show session.handle (session.device.pending state + 1) ⟨programs, state⟩ = _
  rw [enough]
  exact handled

end Relies

/-- Console text and requests in any order are told apart: up to the announcement of the monitor the
text is shown, every request is answered and counted, and what follows stays on the line. A loader
that runs once for each answer reads the files back in the order of the requests, and nothing is
left over. At a request whose file cannot be read the session fails, with the answers before it sent
and counted and nothing of its own. -/
theorem run_demultiplexes (relies : session.Relies files holds) (events : List BootEvent)
    {images : List (List UInt8)} (askable : ∀ name ∈ BootEvent.asked events, Askable name)
    (found : List.Forall₂ (fun name image => files (session.source.resolve name) = .ok image)
      (BootEvent.asked events) images)
    (short : ∀ image ∈ images, image.length < UInt32.size) :
    (∀ {state shown rest written} (programs : Nat),
      holds shown state (BootEvent.sent events ++ Message.ready.encode ++ rest) written →
      ∃ next, session.run ⟨programs, state⟩ =
          .ok () ⟨programs + (BootEvent.asked events).length, next⟩ ∧
        holds (shown ++ BootEvent.shown events) next rest
          (written ++ images.flatMap Program.encode)) ∧
    (∀ {ρ ε : Type} {stream : ByteStream ρ ε} {carried : ρ → List UInt8 → List UInt8 → Prop},
      stream.Carries carried → ∀ (loading : Program.Loading ρ) (sent : List UInt8),
      (∀ image ∈ images, image.length ≤ loading.memory.size) →
      carried loading.link (images.flatMap Program.encode) sent →
      ∃ next : Program.Loading ρ,
        Program.loadImages stream (BootEvent.asked events).length loading = .ok images next ∧
        carried next.link [] sent) ∧
    (∀ {state shown rest written} (programs : Nat) (name : String) (error : FileError),
      Askable name → files (session.source.resolve name) = .error error →
      holds shown state (BootEvent.sent events ++ (BootEvent.asks name).message.encode ++ rest)
        written →
      ∃ next, session.run ⟨programs, state⟩ =
          .error (.unreadable (session.source.resolve name) error)
            ⟨programs + (BootEvent.asked events).length, next⟩ ∧
        holds (shown ++ BootEvent.shown events) next rest
          (written ++ images.flatMap Program.encode)) := by
  rw [found.length_eq]
  refine ⟨?_, ?_, ?_⟩
  · intro state shown rest written programs held
    rw [List.append_assoc] at held
    obtain ⟨rounds, handled, run, kept⟩ :=
      relies.run_events programs events askable found held
    obtain ⟨received, receive, kept⟩ := Message.receive_ready (relies.device _).link maxName kept
    obtain ⟨next, flush, kept⟩ := relies.shows.flush kept
    refine ⟨next, run.trans ?_, kept⟩
    refine (Action.bind_ok (acting_ok (Action.adapt_ok receive _) _) _).trans ?_
    exact acting_ok flush _
  · intro ρ ε stream carried carries loading sent fits held
    have stands : loading.Stands carried loading.memory.toList loading.seen.toList
        (images.flatMap Program.encode) sent := ⟨held, rfl, rfl⟩
    obtain ⟨next, loaded, kept, _⟩ := Program.loadImages_served carries images short
      (by rwa [Array.length_toList]) stands
    exact ⟨next, loaded, kept⟩
  · intro state shown rest written programs name error asks missing held
    rw [List.append_assoc] at held
    obtain ⟨rounds, handled, run, kept⟩ :=
      relies.run_events programs events askable found held
    obtain ⟨received, receive, same, kept⟩ := relies.receive_asked asks kept
    obtain ⟨next, failed, kept⟩ := relies.serve_missing (programs + images.length) missing kept
    refine ⟨next, run.trans ?_, kept⟩
    refine (Action.bind_ok (acting_ok receive _) _).trans ?_
    show (session.serve (Text.decodeLossy (Text.utf8Bytes name)) >>= _) _ = _
    rw [same, Action.bind_error failed]

end Session

namespace Host.Rehearsal

/-- The replayed board, and what was shown on a screen with room. -/
def Holds (shown : List UInt8) (rehearsal : Rehearsal) (unread written : List UInt8) : Prop :=
  Replay.view.Holds rehearsal.board unread written ∧
    rehearsal.screen.room = none ∧ rehearsal.screen.bytes = shown

/-- A screen with room shows what is written to it. -/
theorem screen_shows (tree : FileTree) (source : ProgramSource) :
    (session tree source).screen.Shows Holds where
  write := by
    rintro shown ⟨board, ⟨events, room⟩, log⟩ unread written ⟨held, rfl, rfl⟩ bytes
    refine ⟨⟨board, ⟨events ++ bytes.map ScreenEvent.byte, none⟩, log⟩, rfl, held, rfl, ?_⟩
    show List.filterMap _ (events ++ bytes.map ScreenEvent.byte).toList = _ ++ bytes
    rw [Array.toList_appendList, List.filterMap_append, List.filterMap_map]
    congr 1
    exact List.filterMap_some
  flush := by
    rintro shown ⟨board, ⟨events, room⟩, log⟩ unread written ⟨held, rfl, rfl⟩
    refine ⟨⟨board, ⟨events.push .flush, none⟩, log⟩, rfl, held, rfl, ?_⟩
    show List.filterMap _ (events.push ScreenEvent.flush).toList = _
    rw [Array.toList_push, List.filterMap_append]
    exact List.append_nil _

/-- A session with a replayed board may rely on it, on the screen and on a tree of files. -/
theorem session_relies (tree : FileTree) (source : ProgramSource) :
    (session tree source).Relies tree.read Holds where
  device shown := by
    have lawful (rehearsal : Rehearsal) (board : Replay) :
        boardPart.get (boardPart.put rehearsal board) = board := rfl
    exact Replay.carries.onPart lawful fun _ _ same => same
  shows := screen_shows tree source
  log := by
    rintro shown ⟨board, screen, log⟩ unread written held record
    exact ⟨⟨board, screen, log.push record⟩, rfl, held⟩
  readFile held path := ⟨_, rfl, held⟩

/-- A tree with one small program in it. -/
def demoTree : FileTree := ⟨[], [(["os"], [0x13, 0, 0, 0])]⟩

/-- A name without a slash is a path of one component. -/
theorem demo_components : Path.components "os" = ["os"] ∧ Path.components "no" = ["no"] := by
  refine ⟨?_, ?_⟩ <;>
  · rw [Path.components, String.splitOn, if_neg (by decide), String.splitOnAux,
      if_neg (by decide), if_neg (by decide), String.splitOnAux, if_neg (by decide),
      if_neg (by decide), String.splitOnAux, if_pos (by decide)]
    rfl

/-- The small program is found by its name. -/
theorem demoTree_read : demoTree.read "os" = .ok [0x13, 0, 0, 0] := by
  rw [FileTree.read, FileTree.find, demo_components.1]
  rfl

/-- No other is. -/
theorem demoTree_missing : demoTree.read "no" = .error .notFound := by
  rw [FileTree.read, FileTree.find, demo_components.2]
  rfl

/-- A line of text with a request in the middle of it. -/
def demoEvents : List BootEvent := [.text 0x3e, .asks "os", .text 0x0a]

/-- A board that sends these bytes, before an empty screen. -/
def demoBoard (unread : List UInt8) : Rehearsal := { board := { unread }, screen := {} }

/-- The line is shown and the request answered, and the bytes behind the announcement are left. The
answer is loaded. Had the board asked for another program next, the session would have ended. -/
theorem demoEvents_demultiplexed :
    (∃ next, (session demoTree (.directory "")).run
          ⟨0, demoBoard (BootEvent.sent demoEvents ++ Message.ready.encode ++ [7, 7])⟩ =
        .ok () ⟨1, next⟩ ∧
      Holds [0x3e, 0x0a] next [7, 7] (Program.encode [0x13, 0, 0, 0])) ∧
    (∃ next : Program.Loading Scripted, Program.loadImages Scripted.stream 1
        ⟨.ofInput {} (Program.encode [0x13, 0, 0, 0]), Array.replicate 8 0xff, #[]⟩ =
      .ok [[0x13, 0, 0, 0]] next ∧ next.link.unread = []) ∧
    ∃ next, (session demoTree (.directory "")).run ⟨0, demoBoard (BootEvent.sent demoEvents ++
          (BootEvent.asks "no").message.encode ++ [7, 7])⟩ =
        .error (.unreadable "no" .notFound) ⟨1, next⟩ ∧
      Holds [0x3e, 0x0a] next [7, 7] (Program.encode [0x13, 0, 0, 0]) := by
  have askable : ∀ name ∈ BootEvent.asked demoEvents, Session.Askable name := by
    intro name among
    obtain rfl := List.mem_singleton.1 among
    exact ⟨by decide, by decide⟩
  have itself : ∀ name : String, (ProgramSource.directory "").resolve name = name := by
    intro name
    simp [ProgramSource.resolve, Path.join]
  have found : List.Forall₂
      (fun name image =>
        demoTree.read ((session demoTree (.directory "")).source.resolve name) = .ok image)
      (BootEvent.asked demoEvents) [[0x13, 0, 0, 0]] :=
    .cons ((congrArg demoTree.read (itself "os")).trans demoTree_read) .nil
  have missing := (congrArg demoTree.read (itself "no")).trans demoTree_missing
  obtain ⟨runs, loads, fails⟩ := Session.run_demultiplexes
    (session_relies demoTree (.directory "")) demoEvents askable found (by decide)
  have one : [[0x13, 0, 0, 0]].flatMap Program.encode = Program.encode [0x13, 0, 0, 0] :=
    List.flatMap_singleton _ _
  rw [one] at runs loads fails
  have sends (unread : List UInt8) : Holds [] (demoBoard unread) unread [] :=
    ⟨Replay.loaded unread, rfl, rfl⟩
  refine ⟨?_, ?_, ?_⟩
  · obtain ⟨next, ran, kept⟩ := runs 0 (sends _)
    rw [List.nil_append, List.nil_append] at kept
    exact ⟨next, ran, kept⟩
  · obtain ⟨next, loaded, _, nothing, _⟩ := loads Scripted.carries
      ⟨.ofInput {} (Program.encode [0x13, 0, 0, 0]), Array.replicate 8 0xff, #[]⟩ [] (by decide)
      (Scripted.view_holds_ofInput _)
    exact ⟨next, loaded, nothing⟩
  · obtain ⟨next, failed, kept⟩ :=
      fails 0 "no" .notFound ⟨by decide, by decide⟩ missing (sends _)
    rw [List.nil_append, List.nil_append] at kept
    exact ⟨next, itself "no" ▸ failed, kept⟩

end Host.Rehearsal

end Bringup
