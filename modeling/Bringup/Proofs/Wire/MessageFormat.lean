import Bringup.Proofs.Stream.ScriptedBounds
import Bringup.Proofs.Wire.Format
import Bringup.Proofs.Wire.MessageCodec
/-!
# The format of messages

A message is three kinds of command, one of which has a name up to a zero byte behind it. A reader
keeps as much of a name as it has capacity for, but takes all of it, so that it stands before the
next message whatever its capacity is. Main statement: over whole streams, in whatever way reads are
cut up, the messages are decoded that were sent, with their names cut, and a message whose name did
not fill the capacity is the one that was sent (`Message.codec_in_sync`).
-/

namespace Bringup.Message

open Bringup.Action

variable {σ τ ε : Type} {stream : ByteStream σ ε} {ending : StreamEnd ε}
  {holds : σ → List UInt8 → Prop} {state middle : σ} {rest : List UInt8} {capacity : Nat}

/-- The name of the message, if it has one, holds no zero byte. -/
def ZeroFree : Message → Prop
  | .loadProgram name => 0 ∉ name
  | .putc _ | .ready => True

/-- The message with its name cut at a capacity. -/
def truncate (capacity : Nat) : Message → Message
  | .loadProgram name => .loadProgram (name.take capacity)
  | .putc byte => .putc byte
  | .ready => .ready

/-- The name of the message, if it has one, is shorter than the capacity. -/
def Below (capacity : Nat) : Message → Prop
  | .loadProgram name => name.length < capacity
  | .putc _ | .ready => True

/-- Messages as they are sent: those whose name can be ended by a zero byte, each decoded with its
name cut at the capacity of the reader. -/
def format (capacity : Nat) : WireFormat Message Message :=
  ⟨encode, ZeroFree, truncate capacity, 0x03⟩

/-- A name that does not fill the capacity was not cut. -/
theorem eq_of_truncate_below {message : Message}
    (below : (message.truncate capacity).Below capacity) :
    message.truncate capacity = message := by
  cases message with
  | putc byte => rfl
  | ready => rfl
  | loadProgram name =>
    rw [truncate, Below, List.length_take] at below
    rw [truncate, List.take_of_length_le (by omega)]

/-- Names without a zero byte end at the first one. -/
theorem name_inj {name other rest left : List UInt8} (noZero : 0 ∉ name) (otherNoZero : 0 ∉ other)
    (same : name ++ 0 :: rest = other ++ 0 :: left) : name = other ∧ rest = left := by
  induction name generalizing other with
  | nil =>
    cases other with
    | nil => exact ⟨rfl, (List.cons.inj same).2⟩
    | cons first other =>
      obtain ⟨rfl, _⟩ := List.cons.inj same
      exact absurd List.mem_cons_self otherNoZero
  | cons first name ih =>
    cases other with
    | nil =>
      obtain ⟨rfl, _⟩ := List.cons.inj same
      exact absurd List.mem_cons_self noZero
    | cons second other =>
      obtain ⟨rfl, others⟩ := List.cons.inj same
      rw [List.mem_cons, not_or] at noZero otherNoZero
      obtain ⟨rfl, behind⟩ := ih noZero.2 otherNoZero.2 others
      exact ⟨rfl, behind⟩

/-- The format of messages is lawful. -/
theorem format_lawful (capacity : Nat) : (format capacity).Lawful where
  begins := by
    intro message _
    cases message <;> exact ⟨_, _, rfl, (by decide : _ < (0x03 : UInt8))⟩
  separates := by
    intro message other rest left zeroFree otherZeroFree same
    cases message <;> cases other <;> obtain ⟨command, fields⟩ := List.cons.inj same
    case putc.putc byte other =>
      obtain ⟨rfl, behind⟩ := List.cons.inj fields
      exact ⟨rfl, behind⟩
    case loadProgram.loadProgram name other =>
      rw [List.append_eq, List.append_eq, List.append_assoc, List.append_assoc] at fields
      obtain ⟨rfl, behind⟩ := name_inj zeroFree otherZeroFree fields
      exact ⟨rfl, behind⟩
    case ready.ready => exact ⟨rfl, fields⟩
    all_goals cases command

/-- Behind the command of a console byte the decoder finds it, or the end. -/
theorem finds_putc (supplies : stream.Supplies ending holds)
    (command : stream.readByte state = .ok 0x00 middle) (kept : holds middle rest) :
    (format capacity).Finds ending.error (receive stream capacity) holds state (0x00 :: rest) := by
  have begun : receive stream capacity state =
      (putc <$> EStateM.adaptExcept DecodeError.transfer stream.readByte) middle := by
    rw [receive, bind_ok (adapt_ok command _), if_pos rfl]
  obtain ⟨byte, left, next, rfl, text, kept⟩ | ⟨rfl, next, failed, kept⟩ :=
    supplies.readByte_cases kept
  · have ran : receive stream capacity state = .ok (putc byte) next := by
      rw [begun]
      exact map_ok (adapt_ok text _) _
    exact .item (putc byte) trivial ran kept
  · have ran : receive stream capacity state = .error (.transfer ending.error) next := by
      rw [begun]
      exact map_error (adapt_error failed _) _
    exact .cut (putc 0) trivial rfl (List.cons_ne_nil 0 []) ran kept

/-- Behind the command to load a program the decoder finds its name, or the end. -/
theorem finds_loadProgram (supplies : stream.Supplies ending holds)
    (command : stream.readByte state = .ok 0x01 middle) (kept : holds middle rest) :
    (format capacity).Finds ending.error (receive stream capacity) holds state (0x01 :: rest) := by
  have begun : receive stream capacity state =
      (loadProgram <$> EStateM.adaptExcept (fun short => DecodeError.transfer short.error)
        (stream.readCString capacity)) middle := by
    rw [receive, bind_ok (adapt_ok command _), if_neg (by decide), if_pos rfl]
  obtain ⟨name, left, next, rfl, noZero, read, kept⟩ | ⟨noZero, next, failed, kept⟩ :=
    supplies.readCString_cases capacity kept
  · have ran : receive stream capacity state = .ok (loadProgram (name.take capacity)) next := by
      rw [begun]
      exact map_ok (adapt_ok read _) _
    have found : (format capacity).Finds ending.error (receive stream capacity) holds state
        ((loadProgram name).encode ++ left) := .item (loadProgram name) noZero ran kept
    rw [encode, List.cons_append, List.append_assoc] at found
    exact found
  · have ran : receive stream capacity state = .error (.transfer ending.error) next := by
      rw [begun]
      exact map_error (adapt_error failed _) _
    exact .cut (loadProgram rest) noZero rfl (List.cons_ne_nil 0 []) ran kept

/-- The decoder of messages finds what is in front, on every stream that supplies bytes. -/
theorem decodes (supplies : stream.Supplies ending holds) (capacity : Nat) :
    (format capacity).Decodes ending.error (receive stream capacity) holds := by
  intro state unread held
  obtain ⟨byte, rest, middle, rfl, command, kept⟩ | ⟨rfl, next, failed, kept⟩ :=
    supplies.readByte_cases held
  · by_cases isPutc : byte = 0x00
    · subst isPutc
      exact finds_putc supplies command kept
    by_cases isLoadProgram : byte = 0x01
    · subst isLoadProgram
      exact finds_loadProgram supplies command kept
    have begun := adapt_ok command DecodeError.transfer
    by_cases isReady : byte = 0x02
    · subst isReady
      exact .item ready trivial (by rw [receive, bind_ok begun]; rfl) kept
    have unknown : (0x03 : UInt8) ≤ byte := by grind
    refine .unknown unknown ?_ kept
    rw [receive, bind_ok begun, if_neg isPutc, if_neg isLoadProgram, if_neg isReady]
    rfl
  · have ran : receive stream capacity state = .error (.transfer ending.error) next :=
      bind_error (adapt_error failed _) _
    exact .cut ready trivial rfl (List.cons_ne_nil 0x02 []) ran kept

/-- Messages stay in sync under whatever capacity a reader has for names, over whole streams. What
is sent for messages is their encodings in order. If no name holds a zero byte, a stream of these
decodes to the messages, each with its name cut at the capacity and each taking the bytes of one
message as it was sent, and then to the error at its end, however reads are cut up. On any stream,
what was taken for a message that was received is the encoding of a message that is cut to it, and
of itself if its name did not fill the capacity. An unknown command takes its byte alone. -/
theorem codec_in_sync {outward : τ → List UInt8 → List UInt8 → Prop} {sender : ByteStream τ ε}
    (carries : sender.Carries outward) (supplies : stream.Supplies ending holds) (capacity : Nat) :
    (∀ (messages : List Message) speaker incoming sent, outward speaker incoming sent →
      ∃ next, messages.forM (send sender) speaker = .ok () next ∧
        outward next incoming (sent ++ messages.flatMap encode)) ∧
    (∀ (messages : List Message) state, (∀ message ∈ messages, ZeroFree message) →
      holds state (messages.flatMap encode) →
      Decoded holds (format capacity) ending.error messages
        (decodeStream stream (receive stream capacity) state)) ∧
    (∀ state unread message next, holds state unread →
      receive stream capacity state = .ok message next →
      ∃ whole rest, whole.ZeroFree ∧ whole.truncate capacity = message ∧
        (message.Below capacity → whole = message) ∧
        unread = whole.encode ++ rest ∧ holds next rest) ∧
    (∀ state byte rest, 0x03 ≤ byte → holds state (byte :: rest) →
      ∃ next, receive stream capacity state = .error (.unknown byte) next ∧ holds next rest) := by
  have decodes : (format capacity).Decodes ending.error (receive stream capacity) holds :=
    decodes supplies capacity
  have lawful := format_lawful capacity
  refine ⟨?_, ?_, ?_, ?_⟩
  · intro messages speaker incoming sent held
    exact carries.writeEach_all encode messages held
  · intro messages state zeroFree held
    exact decodes.stream lawful supplies zeroFree held
  · intro state unread message next held received
    obtain ⟨whole, rest, zeroFree, rfl, split, kept⟩ := decodes.of_ok held received
    refine ⟨whole, rest, zeroFree, rfl, ?_, split, kept⟩
    intro below
    exact (eq_of_truncate_below below).symm
  · intro state byte rest unknown held
    exact decodes.front_unknown lawful unknown held

/-- A console byte, a name of four bytes, a name of two, and an announcement. -/
def bootMessages : List Message :=
  [.putc 0x68, .loadProgram [0x62, 0x6f, 0x6f, 0x74], .loadProgram [0x67, 0x6f], .ready]

/-- With room for two bytes of a name, the long name is cut, the short one is not, and the messages
behind them are decoded. -/
theorem bootMessages_decoded :
    (∃ next, bootMessages.forM (send Scripted.stream) (.ofInput {} []) = .ok () next ∧
      Scripted.view.Holds next [] (bootMessages.flatMap encode)) ∧
    (decodeStream Scripted.stream (receive Scripted.stream 2)
      (.ofInput { readLimit := some 3 } (bootMessages.flatMap encode))).map Prod.fst =
      [.ok (.putc 0x68), .ok (.loadProgram [0x62, 0x6f]), .ok (.loadProgram [0x67, 0x6f]),
        .ok .ready, .error (.transfer .unexpectedEnd)] := by
  have moves : Script.Moves { readLimit := some 3 } := by simp [Script.Moves]
  have zeroFree : ∀ message ∈ bootMessages, message.ZeroFree := by
    simp [bootMessages, ZeroFree]
  have supplies := Scripted.supplies moves (bootMessages.flatMap encode).length []
  obtain ⟨sends, decoded, _⟩ := codec_in_sync Scripted.carries supplies 2
  constructor
  · exact sends bootMessages (.ofInput {} []) [] [] (Scripted.view_holds_ofInput [])
  · exact (decoded bootMessages _ zeroFree (Scripted.ofInput_holds _ _)).results_eq

end Bringup.Message
