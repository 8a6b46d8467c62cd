import Bringup.Proofs.Host.BootSession
import Bringup.Proofs.Wire.MessageFormat
/-!
# Two readers of the console

A session and a waiting client read the console of a starting board in loops of their own. They
keep different lengths of a name, bring the screen up at different times and word their errors
differently. Where no program is asked for, none of this can be told from outside
(`readers_agree`).

What there is to read is said of the bytes alone, without a reader (`Preamble`): console text,
and then the announcement of the monitor, a command that there is not, or the end of the line, which
may come in the middle of a message. Each reader follows the preamble by induction over it.
-/

namespace Bringup

open Bringup.Action

variable {σ τ : Type}

/-- The first message of the board that is no console text asks for a program. -/
inductive AsksFirst : List UInt8 → Prop where
  | asks {name : List UInt8} (noZero : 0 ∉ name) (rest : List UInt8) :
    AsksFirst ((Message.loadProgram name).encode ++ rest)
  | text (byte : UInt8) {bytes : List UInt8} (later : AsksFirst bytes) :
    AsksFirst ((Message.putc byte).encode ++ bytes)

/-- What a reader of the console makes of what the board sends: the text before the end, how it
ends, and the bytes that are left behind the end. -/
inductive Preamble :
    (bytes text : List UInt8) → Except DeviceError Unit → (rest : List UInt8) → Prop where
  /-- The monitor announces itself. -/
  | ready (rest : List UInt8) : Preamble (Message.ready.encode ++ rest) [] (.ok ()) rest
  /-- There is no such command. Only its byte is taken. -/
  | unknown {byte : UInt8} (unknown : 0x03 ≤ byte) (rest : List UInt8) :
    Preamble (byte :: rest) [] (.error (.unknownMessage byte)) rest
  /-- The line ends, and what there is of another message is taken. -/
  | cut (message : Message) {part missing : List UInt8} (zeroFree : message.ZeroFree)
    (split : message.encode = part ++ missing) (short : missing ≠ []) :
    Preamble part [] (.error .closed) []
  /-- A byte of console text. -/
  | text (byte : UInt8) {bytes text rest : List UInt8} {outcome : Except DeviceError Unit}
    (later : Preamble bytes text outcome rest) :
    Preamble ((Message.putc byte).encode ++ bytes) (byte :: text) outcome rest

namespace Message

variable {ε : Type} {part missing : List UInt8} {error : TransferError ε}

/-- A message in front is decoded with its name cut. -/
theorem parses_front (capacity : Nat) (message : Message) (zeroFree : message.ZeroFree)
    (rest : List UInt8) :
    (format capacity).Parses error (message.encode ++ rest) (.ok (message.truncate capacity))
      rest :=
  .item zeroFree rest

/-- A message that is cut off is the end, whatever of it is there. -/
theorem parses_cut (capacity : Nat) (message : Message) (zeroFree : message.ZeroFree)
    (split : message.encode = part ++ missing) (short : missing ≠ []) :
    (format capacity).Parses error part (.error (.transfer error)) [] :=
  .cut zeroFree split short

end Message

namespace Preamble

variable {bytes text rest : List UInt8} {outcome : Except DeviceError Unit}

/-- The text is shorter than the bytes that write it. -/
theorem length_text_le (preamble : Preamble bytes text outcome rest) :
    text.length ≤ bytes.length := by
  induction preamble with
  | ready | unknown | cut => exact Nat.zero_le _
  | text byte later ih =>
    rw [List.length_append, List.length_cons]
    show _ ≤ 2 + _
    omega

/-- A preamble ends with the announcement, with the line closed, or with an unknown command. -/
theorem outcome_cases (preamble : Preamble bytes text outcome rest) :
    outcome = .ok () ∨ outcome = .error .closed ∨
      ∃ byte, outcome = .error (.unknownMessage byte) := by
  induction preamble with
  | ready => exact .inl rfl
  | @unknown byte => exact .inr (.inr ⟨byte, rfl⟩)
  | cut => exact .inr (.inl rfl)
  | text byte later ih => exact ih

/-- A preamble has no text if its end is in front, and goes on behind a console byte. -/
theorem of_parses (preamble : Preamble bytes text outcome rest)
    {result : Except (DecodeError DeviceError) Message} {behind : List UInt8}
    (parse : (Message.format 0).Parses (.device .closed) bytes result behind) :
    (result = .ok .ready ∧ text = [] ∧ outcome = .ok () ∧ rest = behind) ∨
    (∃ error, result = .error error ∧ text = [] ∧ outcome = .error (.ofDecode error) ∧
      rest = behind) ∨
    ∃ byte later, result = .ok (.putc byte) ∧ text = byte :: later ∧
      Preamble behind later outcome rest := by
  have lawful := Message.format_lawful 0
  cases preamble with
  | ready rest =>
    obtain ⟨rfl, rfl⟩ := parse.unique lawful (Message.parses_front 0 .ready trivial rest)
    exact .inl ⟨rfl, rfl, rfl, rfl⟩
  | unknown unknown rest =>
    obtain ⟨rfl, rfl⟩ := parse.unique lawful (.unknown unknown rest)
    exact .inr (.inl ⟨_, rfl, rfl, rfl, rfl⟩)
  | cut message zeroFree split short =>
    obtain ⟨rfl, rfl⟩ := parse.unique lawful (Message.parses_cut 0 message zeroFree split short)
    exact .inr (.inl ⟨_, rfl, rfl, rfl, rfl⟩)
  | @text byte bytes _ _ _ later =>
    obtain ⟨rfl, rfl⟩ := parse.unique lawful (Message.parses_front 0 (.putc byte) trivial bytes)
    exact .inr (.inr ⟨byte, _, rfl, rfl, later⟩)

/-- What a board sends has one preamble. -/
theorem unique {otherText otherRest : List UInt8} {otherOutcome : Except DeviceError Unit}
    (preamble : Preamble bytes text outcome rest)
    (other : Preamble bytes otherText otherOutcome otherRest) :
    otherText = text ∧ otherOutcome = outcome ∧ otherRest = rest := by
  induction preamble generalizing otherText with
  | ready rest =>
    obtain ⟨_, same⟩ | ⟨_, clash, _⟩ | ⟨_, _, clash, _⟩ :=
      other.of_parses (Message.parses_front 0 .ready trivial rest)
    · exact same
    · cases clash
    · cases clash
  | unknown unknown rest =>
    obtain ⟨clash, _⟩ | ⟨_, told, same⟩ | ⟨_, _, clash, _⟩ :=
      other.of_parses (.unknown unknown rest)
    · cases clash
    · cases told
      exact same
    · cases clash
  | cut message zeroFree split short =>
    obtain ⟨clash, _⟩ | ⟨_, told, same⟩ | ⟨_, _, clash, _⟩ :=
      other.of_parses (Message.parses_cut 0 message zeroFree split short)
    · cases clash
    · cases told
      exact same
    · cases clash
  | @text byte bytes _ _ _ later ih =>
    obtain ⟨clash, _⟩ | ⟨_, clash, _⟩ | ⟨_, _, told, rfl, others⟩ :=
      other.of_parses (Message.parses_front 0 (.putc byte) trivial bytes)
    · cases clash
    · cases clash
    · cases told
      obtain ⟨rfl, rfl, rfl⟩ := ih others
      exact ⟨rfl, rfl, rfl⟩

/-- A board that asks for a program first has no preamble. -/
theorem not_asksFirst (preamble : Preamble bytes text outcome rest) : ¬AsksFirst bytes := by
  intro asks
  induction asks generalizing text with
  | @asks name noZero rest =>
    obtain ⟨clash, _⟩ | ⟨_, clash, _⟩ | ⟨_, _, clash, _⟩ :=
      preamble.of_parses (Message.parses_front 0 (.loadProgram name) noZero rest)
    all_goals cases clash
  | @text byte bytes later ih =>
    obtain ⟨clash, _⟩ | ⟨_, clash, _⟩ | ⟨_, _, _, _, others⟩ :=
      preamble.of_parses (Message.parses_front 0 (.putc byte) trivial bytes)
    · cases clash
    · cases clash
    · exact ih others

/-- A board that does not ask for a program first has a preamble. -/
theorem exists_of_not_asksFirst (silent : ¬AsksFirst bytes) :
    ∃ text outcome rest, Preamble bytes text outcome rest := by
  induction total : bytes.length using Nat.strongRecOn generalizing bytes with
  | ind size ih =>
    cases bytes with
    | nil => exact ⟨[], _, [], cut .ready trivial rfl (List.cons_ne_nil 0x02 [])⟩
    | cons command bytes =>
      by_cases isPutc : command = 0x00
      · subst isPutc
        cases bytes with
        | nil => exact ⟨[], _, [], cut (.putc 0) trivial rfl (List.cons_ne_nil 0 [])⟩
        | cons byte bytes =>
          have fewer : bytes.length < size := by
            rw [← total, List.length_cons, List.length_cons]
            omega
          obtain ⟨text, outcome, rest, later⟩ :=
            ih _ fewer (fun asks => silent (.text byte asks)) rfl
          exact ⟨byte :: text, outcome, rest, later.text byte⟩
      by_cases isLoadProgram : command = 0x01
      · subst isLoadProgram
        -- A name with its zero byte would be a request.
        have noZero : 0 ∉ bytes := by
          intro zero
          obtain ⟨name, rest, rfl, noZero⟩ := List.eq_append_cons_of_mem zero
          have asks := AsksFirst.asks noZero rest
          rw [Message.encode, List.cons_append, List.append_assoc] at asks
          exact silent asks
        exact ⟨[], _, [],
          cut (.loadProgram bytes) noZero rfl (List.cons_ne_nil 0 [])⟩
      by_cases isReady : command = 0x02
      · subst isReady
        exact ⟨[], _, bytes, ready bytes⟩
      have isUnknown : (0x03 : UInt8) ≤ command := by grind
      exact ⟨[], _, bytes, unknown isUnknown bytes⟩

end Preamble

/-- A board and a screen that does not fail. The state stands for the text shown so far, the bytes
that the board still sends before it closes the line, and the bytes sent to it. Nothing is asked of
what sending more would do. -/
structure Console (device : Device σ) (screen : Screen σ)
    (holds : (shown : List UInt8) → σ → (unread written : List UInt8) → Prop) : Prop where
  readByte : ∀ {shown state byte unread written}, holds shown state (byte :: unread) written →
    ∃ next, device.readByte state = .ok byte next ∧ holds shown next unread written
  closed : ∀ {shown state written}, holds shown state [] written →
    ∃ next, device.readByte state = .error .closed next ∧ holds shown next [] written
  pending : ∀ {shown state unread written}, holds shown state unread written →
    unread.length ≤ device.pending state
  screen : screen.Shows holds

namespace Console

variable {device : Device σ} {screen : Screen σ}
  {holds : List UInt8 → σ → List UInt8 → List UInt8 → Prop} {state : σ}
  {shown unread written rest : List UInt8}

/-- Seen as a stream, the board supplies its bytes and then fails. -/
theorem supplies (console : Console device screen holds) (shown written : List UInt8) :
    device.link.Supplies (.failing .closed)
      fun state unread => holds shown state unread written where
  read := by
    intro state unread want held present wanted
    obtain ⟨byte, rest, rfl⟩ := List.exists_cons_of_ne_nil present
    obtain ⟨next, step, kept⟩ := console.readByte held
    refine ⟨[byte], rest, next, rfl, List.cons_ne_nil byte [], wanted, ?_, kept⟩
    show (if want = 0 then pure [] else do pure [← device.readByte] :
      EStateM DeviceError σ (List UInt8)) state = _
    rw [if_neg (Nat.pos_iff_ne_zero.1 wanted), bind_ok step]
    rfl
  ended := by
    intro state want held wanted
    obtain ⟨next, step, kept⟩ := console.closed held
    refine ⟨next, ?_, kept⟩
    show (if want = 0 then pure [] else do pure [← device.readByte] :
      EStateM DeviceError σ (List UInt8)) state = _
    rw [if_neg (Nat.pos_iff_ne_zero.1 wanted), bind_error step]
    rfl
  pending := console.pending

/-- A reader decodes messages, whatever its capacity for names is. -/
theorem decodes (console : Console device screen holds) (shown written : List UInt8)
    (capacity : Nat) :
    (Message.format capacity).Decodes (.device .closed) (Message.receive device.link capacity)
      fun state unread => holds shown state unread written :=
  Message.decodes (console.supplies shown written) capacity

/-- A message in front is received. -/
theorem receive_front (console : Console device screen holds) (capacity : Nat) (message : Message)
    (zeroFree : message.ZeroFree) (held : holds shown state (message.encode ++ rest) written) :
    ∃ next, device.receive capacity state = .ok (message.truncate capacity) next ∧
      holds shown next rest written := by
  obtain ⟨found, kept⟩ := (console.decodes shown written capacity).of_parses
    (Message.format_lawful capacity) (Message.parses_front capacity message zeroFree rest) held
  exact ⟨_, adapt_ok (eq_ok_of_attempt found) _, kept⟩

/-- An unknown command in front is told. -/
theorem receive_unknown (console : Console device screen holds) (capacity : Nat) {byte : UInt8}
    (unknown : 0x03 ≤ byte) (held : holds shown state (byte :: rest) written) :
    ∃ next, device.receive capacity state = .error (.unknownMessage byte) next ∧
      holds shown next rest written := by
  obtain ⟨next, received, kept⟩ := (console.decodes shown written capacity).front_unknown
    (Message.format_lawful capacity) unknown held
  exact ⟨next, adapt_error received _, kept⟩

/-- Where the line ends within a message, it is closed. -/
theorem receive_cut (console : Console device screen holds) (capacity : Nat) (message : Message)
    {missing : List UInt8} (zeroFree : message.ZeroFree)
    (split : message.encode = unread ++ missing) (short : missing ≠ [])
    (held : holds shown state unread written) :
    ∃ next, device.receive capacity state = .error .closed next ∧ holds shown next [] written := by
  obtain ⟨failed, kept⟩ := (console.decodes shown written capacity).of_parses
    (Message.format_lawful capacity) (Message.parses_cut capacity message zeroFree split short) held
  exact ⟨_, adapt_error (eq_error_of_attempt failed) _, kept⟩

end Console

namespace Preamble

variable {client : Client σ} {screen : Screen σ} {session : Session σ}
  {holds : List UInt8 → σ → List UInt8 → List UInt8 → Prop} {state : σ}
  {shown unread written text rest : List UInt8} {outcome : Except DeviceError Unit}

/-- With a round for each byte of text and one more, a session shows the text and ends as the
preamble does. -/
theorem handled (preamble : Preamble unread text outcome rest)
    (console : Console session.device session.screen holds) (programs : Nat) {rounds : Nat}
    (enough : text.length < rounds) (held : holds shown state unread written) :
    ∃ next, attempt (session.handle rounds) ⟨programs, state⟩ =
        (outcome.mapError .receiving, ⟨programs, next⟩) ∧
      holds (shown ++ text) next rest written := by
  obtain ⟨rounds, rfl⟩ := Nat.exists_eq_add_one_of_ne_zero (Nat.ne_zero_of_lt enough)
  induction preamble generalizing state shown rounds with
  | ready rest =>
    obtain ⟨middle, received, kept⟩ := console.receive_front Session.maxName .ready trivial held
    obtain ⟨next, flushed, kept⟩ := console.screen.flush kept
    have ended : session.handle (rounds + 1) ⟨programs, state⟩ = .ok () ⟨programs, next⟩ :=
      (bind_ok (Session.acting_ok received _) _).trans (Session.acting_ok flushed _)
    exact ⟨next, attempt_ok ended, by rwa [List.append_nil]⟩
  | @unknown byte unknown rest =>
    obtain ⟨next, failed, kept⟩ := console.receive_unknown Session.maxName unknown held
    have ended : session.handle (rounds + 1) ⟨programs, state⟩ =
        .error (.receiving (.unknownMessage byte)) ⟨programs, next⟩ :=
      bind_error (Session.acting_error failed _) _
    exact ⟨next, attempt_error ended, by rwa [List.append_nil]⟩
  | cut message zeroFree split short =>
    obtain ⟨next, failed, kept⟩ :=
      console.receive_cut Session.maxName message zeroFree split short held
    have ended : session.handle (rounds + 1) ⟨programs, state⟩ =
        .error (.receiving .closed) ⟨programs, next⟩ :=
      bind_error (Session.acting_error failed _) _
    exact ⟨next, attempt_error ended, by rwa [List.append_nil]⟩
  | text byte later ih =>
    rw [List.length_cons] at enough
    obtain ⟨rounds, rfl⟩ := Nat.exists_eq_add_one_of_ne_zero (by omega : rounds ≠ 0)
    obtain ⟨received, receive, kept⟩ :=
      console.receive_front Session.maxName (.putc byte) trivial held
    obtain ⟨middle, shows, kept⟩ := Session.showByte_shown console.screen programs byte kept
    obtain ⟨next, others, kept⟩ := ih kept rounds (by omega)
    refine ⟨next, ?_, by rwa [List.append_assoc] at kept⟩
    rw [Session.handle, attempt_bind_ok (Session.acting_ok receive _)]
    exact (attempt_bind_ok shows _).trans others

/-- With a round for each byte of text and one more, a waiting client shows the text and ends as
the preamble does. -/
theorem awaited (preamble : Preamble unread text outcome rest)
    (console : Console client.device screen holds) {rounds : Nat}
    (enough : text.length < rounds) (held : holds shown state unread written) :
    ∃ next, attempt (client.awaitReady screen rounds) state = (outcome, next) ∧
      holds (shown ++ text) next rest written := by
  obtain ⟨rounds, rfl⟩ := Nat.exists_eq_add_one_of_ne_zero (Nat.ne_zero_of_lt enough)
  induction preamble generalizing state shown rounds with
  | ready rest =>
    obtain ⟨middle, received, kept⟩ := console.receive_front Client.maxName .ready trivial held
    obtain ⟨next, flushed, kept⟩ := console.screen.flush kept
    have ended : client.awaitReady screen (rounds + 1) state = .ok () next :=
      (bind_ok received _).trans (adapt_ok flushed _)
    exact ⟨next, attempt_ok ended, by rwa [List.append_nil]⟩
  | @unknown byte unknown rest =>
    obtain ⟨next, failed, kept⟩ := console.receive_unknown Client.maxName unknown held
    have ended : client.awaitReady screen (rounds + 1) state =
        .error (.unknownMessage byte) next :=
      bind_error failed _
    exact ⟨next, attempt_error ended, by rwa [List.append_nil]⟩
  | cut message zeroFree split short =>
    obtain ⟨next, failed, kept⟩ :=
      console.receive_cut Client.maxName message zeroFree split short held
    have ended : client.awaitReady screen (rounds + 1) state = .error .closed next :=
      bind_error failed _
    exact ⟨next, attempt_error ended, by rwa [List.append_nil]⟩
  | text byte later ih =>
    rw [List.length_cons] at enough
    obtain ⟨rounds, rfl⟩ := Nat.exists_eq_add_one_of_ne_zero (by omega : rounds ≠ 0)
    obtain ⟨received, receive, kept⟩ :=
      console.receive_front Client.maxName (.putc byte) trivial held
    obtain ⟨middle, write, kept⟩ := console.screen.write kept [byte]
    have shows : Client.showing (screen.write [byte]) received = .ok () middle :=
      adapt_ok write _
    obtain ⟨next, others, kept⟩ := ih kept rounds (by omega)
    refine ⟨next, ?_, by rwa [List.append_assoc] at kept⟩
    rw [Client.awaitReady, attempt_bind_ok receive]
    exact (attempt_bind_ok shows _).trans others

end Preamble

/-- The two readers of the console agree. Whatever a board sends that does not ask for a program
first, it has a preamble, and a session and a waiting client that read it both show its text, end
as it ends and leave the bytes behind it: at the announcement both succeed, at an unknown command
both tell it, and where the line ends, in the middle of a message or not, both find it closed. To
the board neither writes anything, and no program counts as served. -/
theorem readers_agree {session : Session σ} {client : Client τ} {screen : Screen τ}
    {holds : List UInt8 → σ → List UInt8 → List UInt8 → Prop}
    {otherHolds : List UInt8 → τ → List UInt8 → List UInt8 → Prop}
    (console : Console session.device session.screen holds)
    (other : Console client.device screen otherHolds) {unread : List UInt8}
    (silent : ¬AsksFirst unread) :
    ∃ text outcome rest, Preamble unread text outcome rest ∧
      (outcome = .ok () ∨ outcome = .error .closed ∨
        ∃ byte, outcome = .error (.unknownMessage byte)) ∧
      (∀ {shown state written} (programs : Nat), holds shown state unread written →
        ∃ next, attempt session.run ⟨programs, state⟩ =
            (outcome.mapError .receiving, ⟨programs, next⟩) ∧
          holds (shown ++ text) next rest written) ∧
      ∀ {shown state written}, otherHolds shown state unread written →
        ∃ next, attempt (client.waitReady screen) state = (outcome, next) ∧
          otherHolds (shown ++ text) next rest written := by
  obtain ⟨text, outcome, rest, preamble⟩ := Preamble.exists_of_not_asksFirst silent
  have short := preamble.length_text_le
  refine ⟨text, outcome, rest, preamble, preamble.outcome_cases, ?_, ?_⟩
  · intro shown state written programs held
    have pending := console.pending held
    exact preamble.handled console programs (by omega : _ < session.device.pending state + 1) held
  · intro shown state written held
    have pending := other.pending held
    exact preamble.awaited other (by omega : _ < client.device.pending state + 1) held

namespace Host.Rehearsal

/-- A replayed board that is at its end closes the line. -/
theorem console_holds : Console device console Holds where
  readByte held := ((session_relies .empty (.directory "")).device _).readByte held
  closed := by
    rintro shown ⟨⟨_, _, _, _⟩, screen, log⟩ written ⟨⟨⟨reads, writes⟩, left, before⟩, shows⟩
    cases reads
    cases left
    exact ⟨_, rfl, ⟨⟨rfl, writes⟩, rfl, before⟩, shows⟩
  pending held := ((session_relies .empty (.directory "")).device _).pending held
  screen := (session_relies .empty (.directory "")).shows

/-- A line of text, a byte that is no command, and an announcement that comes too late. -/
def overheard : List UInt8 := [0x00, 0x68, 0x00, 0x0a, 0x05, 0x02]

/-- Both readers show the line, tell the byte and leave the announcement. -/
theorem overheard_agree :
    ∃ left right, (session .empty (.directory "")).run ⟨0, demoBoard overheard⟩ =
        .error (.receiving (.unknownMessage 0x05)) ⟨0, left⟩ ∧
      Holds [0x68, 0x0a] left [0x02] [] ∧
      client.waitReady console (demoBoard overheard) = .error (.unknownMessage 0x05) right ∧
      Holds [0x68, 0x0a] right [0x02] [] := by
  have preamble : Preamble overheard [0x68, 0x0a] (.error (.unknownMessage 0x05)) [0x02] :=
    .text 0x68 (.text 0x0a (.unknown (by decide) [0x02]))
  have sends : Holds [] (demoBoard overheard) overheard [] := ⟨Replay.loaded overheard, rfl, rfl⟩
  have heard : Console (session .empty (.directory "")).device
      (session .empty (.directory "")).screen Holds := console_holds
  have alsoHeard : Console client.device console Holds := console_holds
  obtain ⟨text, outcome, rest, same, _, ran, waited⟩ :=
    readers_agree heard alsoHeard preamble.not_asksFirst
  obtain ⟨rfl, rfl, rfl⟩ := preamble.unique same
  obtain ⟨left, ran, kept⟩ := ran 0 sends
  obtain ⟨right, waited, otherKept⟩ := waited sends
  refine ⟨left, right, ?_, kept, ?_, otherKept⟩
  · rw [eq_error_of_attempt (congrArg Prod.fst ran), ran]
  · rw [eq_error_of_attempt (congrArg Prod.fst waited), waited]

end Host.Rehearsal

end Bringup
