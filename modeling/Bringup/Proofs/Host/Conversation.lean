import Bringup.Host.Client
import Bringup.Proofs.Wire.Answers
import Bringup.Proofs.Wire.MessageCodec
/-!
# The client's side of a conversation

The client makes its calls one after the other. Whatever the board sends, the client takes from it,
for each call, exactly the bytes that an answer to the call takes, and reads them as that answer
(`Speaks.askAll_enough`); it sends every request up to the first whose answer does not arrive as a
whole, and none after it (`Speaks.askAll_short`).
-/

namespace Bringup

variable {σ : Type}

/-- In every state that stands for an input and an output, the device reads the byte in front and
keeps what is written. Past the end of its input a read fails. -/
structure Device.Carries (device : Device σ) (holds : σ → List UInt8 → List UInt8 → Prop) : Prop
    where
  readByte : ∀ {state byte unread written}, holds state (byte :: unread) written →
    ∃ next, device.readByte state = .ok byte next ∧ holds next unread written
  ended : ∀ {state written}, holds state [] written →
    ∃ error next, device.readByte state = .error error next ∧ holds next [] written
  writeBytes : ∀ {state unread written}, holds state unread written → ∀ bytes,
    ∃ next, device.writeBytes bytes state = .ok () next ∧ holds next unread (written ++ bytes)
  flush : ∀ {state unread written}, holds state unread written →
    ∃ next, device.flush state = .ok () next ∧ holds next unread written
  pending : ∀ {state unread written}, holds state unread written →
    unread.length ≤ device.pending state

namespace Device.Carries

variable {device : Device σ} {holds : σ → List UInt8 → List UInt8 → Prop} {state : σ}
  {unread written : List UInt8}

/-- Seen as a stream, such a device carries bytes. -/
theorem link (carries : device.Carries holds) : device.link.Carries holds where
  read := by
    intro state unread written want held wanted
    have positive : want ≠ 0 := Nat.pos_iff_ne_zero.1 wanted
    cases unread with
    | nil =>
      obtain ⟨error, next, step, kept⟩ := carries.ended held
      refine .inr ⟨wanted, error, next, ?_, kept⟩
      show (if want = 0 then pure [] else do pure [← device.readByte] :
        EStateM DeviceError σ (List UInt8)) state = _
      rw [if_neg positive, Action.bind_error step]
    | cons byte rest =>
      obtain ⟨next, step, kept⟩ := carries.readByte held
      refine .inl ⟨1, next, wanted, fun _ => Nat.one_pos, ?_, kept⟩
      show (if want = 0 then pure [] else do pure [← device.readByte] :
        EStateM DeviceError σ (List UInt8)) state = _
      rw [if_neg positive, Action.bind_ok step]
      rfl
  write := by
    intro state unread written bytes held present
    obtain ⟨next, step, kept⟩ := carries.writeBytes held bytes
    refine ⟨bytes.length, next, List.length_pos_iff.2 present, Nat.le_refl _, ?_, ?_⟩
    · exact Action.bind_ok step _
    · rwa [List.take_length]
  pending := carries.pending

/-- A device that carries bytes carries them as a part of a larger state, whatever else holds of the
rest of that state. -/
theorem onPart {ρ : Type} {place : Part ρ σ} (carries : device.Carries holds)
    (lawful : ∀ whole part, place.get (place.put whole part) = part) {frame : ρ → Prop}
    (framed : ∀ whole part, frame whole → frame (place.put whole part)) :
    (device.onPart place).Carries
      fun whole unread written => holds (place.get whole) unread written ∧ frame whole where
  readByte := by
    rintro whole byte unread written ⟨held, rest_held⟩
    obtain ⟨next, step, kept⟩ := carries.readByte held
    exact ⟨place.put whole next, Part.run_ok step, by rwa [lawful], framed _ _ rest_held⟩
  ended := by
    rintro whole written ⟨held, rest_held⟩
    obtain ⟨error, next, step, kept⟩ := carries.ended held
    exact ⟨error, place.put whole next, Part.run_error step, by rwa [lawful],
      framed _ _ rest_held⟩
  writeBytes := by
    rintro whole unread written ⟨held, rest_held⟩ bytes
    obtain ⟨next, step, kept⟩ := carries.writeBytes held bytes
    exact ⟨place.put whole next, Part.run_ok step, by rwa [lawful], framed _ _ rest_held⟩
  flush := by
    rintro whole unread written ⟨held, rest_held⟩
    obtain ⟨next, step, kept⟩ := carries.flush held
    exact ⟨place.put whole next, Part.run_ok step, by rwa [lawful], framed _ _ rest_held⟩
  pending := by
    rintro whole unread written ⟨held, _⟩
    exact carries.pending held

/-- Four bytes are read as the word that they write. -/
theorem readWord32_enough (carries : device.Carries holds) (held : holds state unread written)
    (enough : 4 ≤ unread.length) :
    ∃ word rest next, unread = LittleEndian.bytes32 word ++ rest ∧
      device.readWord32 state = .ok word next ∧ holds next rest written := by
  obtain _ | ⟨a, _ | ⟨b, _ | ⟨c, _ | ⟨d, rest⟩⟩⟩⟩ := unread
  case cons.cons.cons.cons =>
    obtain ⟨afterA, first, kept⟩ := carries.readByte held
    obtain ⟨afterB, second, kept⟩ := carries.readByte kept
    obtain ⟨afterC, third, kept⟩ := carries.readByte kept
    obtain ⟨next, fourth, kept⟩ := carries.readByte kept
    refine ⟨LittleEndian.word32 [a, b, c, d], rest, next, ?_, ?_, kept⟩
    · rw [LittleEndian.bytes32_word32 rfl]
      rfl
    · rw [readWord32, Action.bind_ok first, Action.bind_ok second, Action.bind_ok third,
        Action.bind_ok fourth]
      rfl
  all_goals simp at enough

/-- A word of which a byte is missing is an error. -/
theorem readWord32_short (carries : device.Carries holds) (held : holds state unread written)
    (short : unread.length < 4) :
    ∃ error next, device.readWord32 state = .error error next ∧ holds next [] written := by
  obtain _ | ⟨a, rest⟩ := unread
  case nil =>
    obtain ⟨error, next, first, kept⟩ := carries.ended held
    exact ⟨error, next, Action.bind_error first _, kept⟩
  obtain ⟨afterA, first, kept⟩ := carries.readByte held
  obtain _ | ⟨b, rest⟩ := rest
  case nil =>
    obtain ⟨error, next, second, kept⟩ := carries.ended kept
    refine ⟨error, next, ?_, kept⟩
    rw [readWord32, Action.bind_ok first, Action.bind_error second]
  obtain ⟨afterB, second, kept⟩ := carries.readByte kept
  obtain _ | ⟨c, rest⟩ := rest
  case nil =>
    obtain ⟨error, next, third, kept⟩ := carries.ended kept
    refine ⟨error, next, ?_, kept⟩
    rw [readWord32, Action.bind_ok first, Action.bind_ok second, Action.bind_error third]
  obtain ⟨afterC, third, kept⟩ := carries.readByte kept
  obtain _ | ⟨d, rest⟩ := rest
  case nil =>
    obtain ⟨error, next, fourth, kept⟩ := carries.ended kept
    refine ⟨error, next, ?_, kept⟩
    rw [readWord32, Action.bind_ok first, Action.bind_ok second, Action.bind_ok third,
      Action.bind_error fourth]
  rw [List.length_cons, List.length_cons, List.length_cons, List.length_cons] at short
  omega

/-- Words are read one after the other as long as there are bytes for them. -/
theorem readWords_enough (carries : device.Carries holds) (count : Nat)
    (held : holds state unread written) (enough : 4 * count ≤ unread.length) :
    ∃ (words : List UInt32) (rest : List UInt8) (next : σ), words.length = count ∧
      unread = words.flatMap LittleEndian.bytes32 ++ rest ∧
      Client.readWords device count state = .ok words.toArray next ∧ holds next rest written := by
  induction count with
  | zero => exact ⟨[], unread, state, rfl, rfl, rfl, held⟩
  | succ count ih =>
    obtain ⟨words, rest, middle, length, split, front, kept⟩ := ih (by omega)
    have left : 4 ≤ rest.length := by
      have total := congrArg List.length split
      rw [List.length_append, Tile.length_flatMap_bytes32, length] at total
      omega
    obtain ⟨word, rest, next, again, last, kept⟩ := carries.readWord32_enough kept left
    refine ⟨words ++ [word], rest, next, by rw [List.length_append, length]; rfl, ?_, ?_, kept⟩
    · rw [split, again, List.flatMap_append, List.flatMap_singleton, List.append_assoc]
    · rw [Client.readWords, Action.bind_ok front, Action.bind_ok last, ← List.push_toArray]
      rfl

/-- Words of which a byte is missing are an error. -/
theorem readWords_short (carries : device.Carries holds) (count : Nat)
    (held : holds state unread written) (short : unread.length < 4 * count) :
    ∃ error next, Client.readWords device count state = .error error next ∧
      holds next [] written := by
  induction count with
  | zero => omega
  | succ count ih =>
    by_cases front : unread.length < 4 * count
    · obtain ⟨error, next, failed, kept⟩ := ih front
      exact ⟨error, next, Action.bind_error failed _, kept⟩
    · obtain ⟨words, rest, middle, length, split, front, kept⟩ :=
        carries.readWords_enough count held (by omega)
      have left : rest.length < 4 := by
        have total := congrArg List.length split
        rw [List.length_append, Tile.length_flatMap_bytes32, length] at total
        omega
      obtain ⟨error, next, failed, kept⟩ := carries.readWord32_short kept left
      refine ⟨error, next, ?_, kept⟩
      rw [Client.readWords, Action.bind_ok front, Action.bind_error failed]

end Device.Carries

/-- A screen that takes everything and leaves the line alone. -/
structure Screen.Keeps (screen : Screen σ) (holds : σ → List UInt8 → List UInt8 → Prop) : Prop where
  write : ∀ {state unread written}, holds state unread written → ∀ bytes,
    ∃ next, screen.write bytes state = .ok () next ∧ holds next unread written
  flush : ∀ {state unread written}, holds state unread written →
    ∃ next, screen.flush state = .ok () next ∧ holds next unread written

namespace Replay

/-- A replayed board as a line. -/
def view : LineView Replay where
  sound replay := replay.readsLeft = none ∧ replay.writesLeft = none
  unread := Replay.unread
  written replay := replay.written.toList

/-- A board that replays these bytes brings them. -/
theorem loaded (bytes : List UInt8) : view.Holds { unread := bytes } bytes [] :=
  ⟨⟨rfl, rfl⟩, rfl, rfl⟩

/-- Bytes are kept one after the other. -/
theorem eachByte_kept {replay : Replay} {unread written : List UInt8}
    (held : view.Holds replay unread written) (bytes : List UInt8) :
    ∃ next, Device.eachByte writeByte bytes replay = .ok () next ∧
      view.Holds next unread (written ++ bytes) := by
  induction bytes generalizing replay written with
  | nil => exact ⟨replay, rfl, by rwa [List.append_nil]⟩
  | cons byte rest ih =>
    obtain ⟨⟨reads, writes⟩, left, before⟩ := held
    have kept : view.Holds { replay with written := replay.written.push byte } unread
        (written ++ [byte]) := by
      refine ⟨⟨reads, writes⟩, left, ?_⟩
      rw [← before]
      exact Array.toList_push
    obtain ⟨next, others, kept⟩ := ih kept
    refine ⟨next, ?_, by rwa [List.append_assoc] at kept⟩
    have write : writeByte byte replay =
        .ok () { replay with written := replay.written.push byte } := by
      rw [writeByte, if_neg (by rw [writes]; exact Option.some_ne_none 0 ∘ Eq.symm)]
      simp only [writes, Option.map_none]
    rw [Device.eachByte, Action.bind_ok write]
    exact others

/-- A replayed board carries bytes. -/
theorem carries : device.Carries view.Holds where
  readByte := by
    rintro ⟨_, _, _, _⟩ byte unread written ⟨⟨reads, writes⟩, left, before⟩
    cases reads
    cases left
    exact ⟨_, rfl, ⟨rfl, writes⟩, rfl, before⟩
  ended := by
    rintro ⟨_, _, _, _⟩ written ⟨⟨reads, writes⟩, left, before⟩
    cases reads
    cases left
    exact ⟨_, _, rfl, ⟨rfl, writes⟩, rfl, before⟩
  writeBytes held bytes := eachByte_kept held bytes
  flush held := ⟨_, rfl, held⟩
  pending := by
    rintro replay _ _ ⟨_, rfl, _⟩
    exact Nat.le_refl _

end Replay

namespace Client

/-- Makes the call that a request stands for. -/
def ask (client : Client σ) : Request → EStateM DeviceError σ Answer
  | .writeWord address data => do
    client.writeWord address data
    pure .done
  | .readWord address => Answer.word <$> client.readWord address
  | .writeTile tile => do
    client.writeTile tile
    pure .done
  | .readTile => Answer.tile <$> client.readTile
  | .rasterize => Answer.elapsed <$> client.rasterize
  | .endFrame => do
    client.endFrame
    pure .done

/-- Makes calls one after the other. -/
def askAll (client : Client σ) : List Request → EStateM DeviceError σ (List Answer)
  | [] => pure []
  | request :: rest => do
    let answer ← client.ask request
    let answers ← askAll client rest
    pure (answer :: answers)

/-- Waits for the monitor and makes calls. -/
def talk (client : Client σ) (screen : Screen σ) (requests : List Request) :
    EStateM DeviceError σ (List Answer) := do
  client.waitReady screen
  client.askAll requests

/-- What the client may rely on: its device carries bytes, and its log leaves them alone. -/
structure Speaks (client : Client σ) (holds : σ → List UInt8 → List UInt8 → Prop) : Prop where
  device : client.device.Carries holds
  log : ∀ {state unread written}, holds state unread written → ∀ record,
    ∃ next, client.log record state = .ok () next ∧ holds next unread written

namespace Speaks

variable {client : Client σ} {holds : σ → List UInt8 → List UInt8 → Prop} {state : σ}
  {unread written : List UInt8}

/-- A request is written as a whole, and nothing is read. -/
theorem request_sent (speaks : client.Speaks holds) (request : Request)
    (held : holds state unread written) :
    ∃ next, client.request request state = .ok () next ∧
      holds next unread (written ++ request.encode) := by
  obtain ⟨noted, note, kept⟩ :=
    speaks.log held ⟨.debug, logTarget, "request " ++ request.describe⟩
  obtain ⟨sent, send, kept⟩ := speaks.device.link.writeAll_all request.encode kept
  obtain ⟨next, flush, kept⟩ := speaks.device.flush kept
  refine ⟨next, ?_, kept⟩
  refine (Action.bind_ok (Action.adapt_ok note _) _).trans ?_
  exact (Action.bind_ok (Action.adapt_ok send _) _).trans flush

/-- With rounds for all of it, text before the announcement is shown. -/
theorem awaitReady_shown (speaks : client.Speaks holds) {screen : Screen σ}
    (keeps : screen.Keeps holds) (text : List UInt8) {rounds : Nat} (enough : text.length < rounds)
    (held : holds state (text.flatMap (Message.encode ∘ .putc) ++ Message.ready.encode ++ unread)
      written) :
    ∃ next, client.awaitReady screen rounds state = .ok () next ∧ holds next unread written := by
  induction text generalizing state rounds with
  | nil =>
    obtain ⟨rounds, rfl⟩ := Nat.exists_eq_add_one_of_ne_zero (Nat.ne_of_gt enough)
    obtain ⟨received, message, kept⟩ :=
      Message.receive_ready speaks.device.link Client.maxName held
    obtain ⟨next, flush, kept⟩ := keeps.flush kept
    exact ⟨next, (Action.bind_ok (Action.adapt_ok message _) _).trans (Action.adapt_ok flush _),
      kept⟩
  | cons byte text ih =>
    rw [List.length_cons] at enough
    obtain ⟨rounds, rfl⟩ := Nat.exists_eq_add_one_of_ne_zero (by omega : rounds ≠ 0)
    rw [List.flatMap_cons, List.append_assoc, List.append_assoc] at held
    obtain ⟨received, message, kept⟩ :=
      Message.receive_putc speaks.device.link Client.maxName byte held
    obtain ⟨shown, write, kept⟩ := keeps.write kept [byte]
    rw [← List.append_assoc] at kept
    have left : text.length < rounds := by omega
    obtain ⟨next, others, kept⟩ := ih left kept
    refine ⟨next, (Action.bind_ok (Action.adapt_ok message _) _).trans ?_, kept⟩
    exact (Action.bind_ok (Action.adapt_ok write _) _).trans others

/-- Console text before the announcement is shown, and nothing after the announcement is taken. -/
theorem waitReady_shown (speaks : client.Speaks holds) {screen : Screen σ}
    (keeps : screen.Keeps holds) (text : List UInt8)
    (held : holds state (text.flatMap (Message.encode ∘ .putc) ++ Message.ready.encode ++ unread)
      written) :
    ∃ next, client.waitReady screen state = .ok () next ∧ holds next unread written := by
  refine speaks.awaitReady_shown keeps text ?_ held
  have pending := speaks.device.pending held
  rw [List.length_append, List.length_append, Message.length_flatMap_putc] at pending
  omega

/-- A call whose answer has arrived gives that answer back and takes its bytes. -/
theorem ask_enough (speaks : client.Speaks holds) (request : Request)
    (held : holds state unread written) (enough : request.replyLength ≤ unread.length) :
    ∃ answer rest next, request.Fits answer ∧ unread = answer.encode ++ rest ∧
      client.ask request state = .ok answer next ∧
      holds next rest (written ++ request.encode) := by
  obtain ⟨sent, send, kept⟩ := speaks.request_sent request held
  cases request with
  | writeWord address data =>
    exact ⟨.done, unread, sent, .writeWord address data, rfl, Action.bind_ok send _, kept⟩
  | writeTile tile =>
    exact ⟨.done, unread, sent, .writeTile tile, rfl, Action.bind_ok send _, kept⟩
  | endFrame => exact ⟨.done, unread, sent, .endFrame, rfl, Action.bind_ok send _, kept⟩
  | readWord address =>
    obtain ⟨word, rest, next, split, read, kept⟩ := speaks.device.readWord32_enough kept enough
    refine ⟨.word word, rest, next, .readWord address word, split, ?_, kept⟩
    exact Action.map_ok ((Action.bind_ok send _).trans read) _
  | readTile =>
    obtain ⟨words, rest, next, length, split, read, kept⟩ :=
      speaks.device.readWords_enough tilePixels kept enough
    have tile : ∃ tile : Tile, tile.toArray = words.toArray := ⟨⟨words.toArray, length⟩, rfl⟩
    obtain ⟨tile, same⟩ := tile
    have again : tile.encode = words.flatMap LittleEndian.bytes32 := by
      rw [Tile.encode, Vector.toList, same]
    refine ⟨.tile tile, rest, next, .readTile tile, ?_, ?_, kept⟩
    · rw [Answer.encode, again]
      exact split
    · refine Action.map_ok ((Action.bind_ok send _).trans ?_) _
      rw [Action.bind_ok read, ← same, Tile.ofWords_toArray]
      rfl
  | rasterize =>
    obtain ⟨next, read, kept⟩ := speaks.device.link.readField_enough 8 kept enough
    have eight : (unread.take 8).length = 8 := by
      rw [List.length_take]
      exact Nat.min_eq_left enough
    refine ⟨.elapsed (LittleEndian.word64 (unread.take 8)), unread.drop 8, next, .rasterize _, ?_,
      ?_, kept⟩
    · rw [Answer.encode, LittleEndian.bytes64_word64 eight, List.take_append_drop]
    · refine Action.map_ok ((Action.bind_ok send _).trans ?_) _
      exact Action.adapt_ok (Action.map_ok read _) _

/-- A call whose answer does not arrive as a whole fails once its request is written, and takes
what has arrived. -/
theorem ask_short (speaks : client.Speaks holds) (request : Request)
    (held : holds state unread written) (short : unread.length < request.replyLength) :
    ∃ error next, client.ask request state = .error error next ∧
      holds next [] (written ++ request.encode) := by
  obtain ⟨sent, send, kept⟩ := speaks.request_sent request held
  cases request with
  | writeWord | writeTile | endFrame => exact absurd short (Nat.not_lt_zero _)
  | readWord address =>
    obtain ⟨error, next, failed, kept⟩ := speaks.device.readWord32_short kept short
    exact ⟨error, next, Action.map_error ((Action.bind_ok send _).trans failed) _, kept⟩
  | readTile =>
    obtain ⟨error, next, failed, kept⟩ := speaks.device.readWords_short tilePixels kept short
    refine ⟨error, next, Action.map_error ((Action.bind_ok send _).trans ?_) _, kept⟩
    exact Action.bind_error failed _
  | rasterize =>
    obtain ⟨error, next, failed, kept⟩ := speaks.device.link.readField_short 8 kept short
    refine ⟨.ofTransfer error, next, Action.map_error ((Action.bind_ok send _).trans ?_) _, kept⟩
    exact Action.adapt_error (Action.map_error failed _) _

/-- On a line that brings enough bytes all calls are made. Their answers are the bytes in front,
read for each request as an answer to it. -/
theorem askAll_enough (speaks : client.Speaks holds) (requests : List Request)
    (held : holds state unread written) (enough : replyLength requests ≤ unread.length) :
    ∃ (answers : List Answer) (rest : List UInt8) (next : σ),
      List.Forall₂ Request.Fits requests answers ∧
      unread = answers.flatMap Answer.encode ++ rest ∧
      client.askAll requests state = .ok answers next ∧
      holds next rest (written ++ encodeRequests requests) := by
  induction requests generalizing state unread written with
  | nil => exact ⟨[], unread, state, .nil, rfl, rfl, by rwa [encodeRequests_nil, List.append_nil]⟩
  | cons request requests ih =>
    rw [replyLength_cons] at enough
    obtain ⟨answer, rest, middle, fits, split, first, kept⟩ :=
      speaks.ask_enough request held (by omega)
    have left : replyLength requests ≤ rest.length := by
      have total := congrArg List.length split
      rw [List.length_append, fits.length_encode] at total
      omega
    obtain ⟨answers, rest, next, others, again, asked, kept⟩ := ih kept left
    refine ⟨answer :: answers, rest, next, .cons fits others, ?_, ?_, ?_⟩
    · rw [split, again, List.flatMap_cons, List.append_assoc]
    · rw [Client.askAll, Action.bind_ok first, Action.bind_ok asked]
      rfl
    · rw [encodeRequests_cons, ← List.append_assoc]
      exact kept

/-- On a line that brings too few bytes a call fails whose answer is cut off, with all bytes taken.
What was written are the requests up to that call. -/
theorem askAll_short (speaks : client.Speaks holds) (requests : List Request)
    (held : holds state unread written) (short : unread.length < replyLength requests) :
    ∃ (made : List Request) (error : DeviceError) (next : σ), made <+: requests ∧
      unread.length < replyLength made ∧
      client.askAll requests state = .error error next ∧
      holds next [] (written ++ encodeRequests made) := by
  induction requests generalizing state unread written with
  | nil => exact absurd short (Nat.not_lt_zero _)
  | cons request requests ih =>
    rw [replyLength_cons] at short
    by_cases cut : unread.length < request.replyLength
    · obtain ⟨error, next, failed, kept⟩ := speaks.ask_short request held cut
      refine ⟨[request], error, next, ⟨requests, rfl⟩, ?_, Action.bind_error failed _, ?_⟩
      · rwa [replyLength_cons, replyLength_nil]
      · rwa [encodeRequests_cons, encodeRequests_nil, List.append_nil]
    · obtain ⟨answer, rest, middle, fits, split, first, kept⟩ :=
        speaks.ask_enough request held (by omega)
      have total := congrArg List.length split
      rw [List.length_append, fits.length_encode] at total
      obtain ⟨made, error, next, before, cut, failed, kept⟩ := ih kept (by omega)
      refine ⟨request :: made, error, next, ?_, ?_, ?_, ?_⟩
      · exact (List.prefix_cons_inj request).2 before
      · rw [replyLength_cons]
        omega
      · rw [Client.askAll, Action.bind_ok first, Action.bind_error failed]
      · rw [encodeRequests_cons, ← List.append_assoc]
        exact kept

end Speaks

end Client

/-- A replayed board speaks to a client that keeps no log. -/
theorem Replay.speaks :
    (⟨Replay.device, Logger.silent⟩ : Client Replay).Speaks Replay.view.Holds where
  device := Replay.carries
  log held _ := ⟨_, rfl, held⟩

/-- A screen that shows nothing. -/
def Screen.dark : Screen σ := ⟨fun _ => pure (), pure ()⟩

/-- A screen that shows nothing leaves every line alone. -/
theorem Screen.dark_keeps (holds : σ → List UInt8 → List UInt8 → Prop) :
    (Screen.dark : Screen σ).Keeps holds where
  write held _ := ⟨_, rfl, held⟩
  flush held := ⟨_, rfl, held⟩

end Bringup
