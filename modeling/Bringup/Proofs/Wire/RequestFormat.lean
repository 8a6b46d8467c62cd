import Bringup.Proofs.Stream.ScriptedBounds
import Bringup.Proofs.Wire.Answers
import Bringup.Proofs.Wire.Format
/-!
# The format of requests

A request is six kinds of command with fields of fixed lengths. Every sequence of bytes that is as
long as the fields of a command is the fields of some request, so that the decoder accepts exactly
the encodings of requests, and takes exactly their bytes (`Request.decodes`). Main statement: over
whole streams, in whatever way reads are cut up, the list of requests is decoded that was sent
(`Request.codec_exact`).
-/

namespace Bringup

open Bringup.Action

namespace Tile

/-- The words of a sequence of bytes are as many as a quarter of them, and give them back. -/
theorem wordsOfBytes_whole {count : Nat} {bytes : List UInt8} (length : bytes.length = 4 * count) :
    (wordsOfBytes bytes).length = count ∧
      (wordsOfBytes bytes).flatMap LittleEndian.bytes32 = bytes := by
  induction count generalizing bytes with
  | zero =>
    obtain rfl : bytes = [] := List.eq_nil_of_length_eq_zero length
    exact ⟨rfl, rfl⟩
  | succ count ih =>
    match bytes with
    | [] | [_] | [_, _] | [_, _, _] => simp at length <;> omega
    | a :: b :: c :: d :: rest =>
      have rest_length : rest.length = 4 * count := by
        simp only [List.length_cons] at length
        omega
      obtain ⟨words, whole⟩ := ih rest_length
      have first : LittleEndian.bytes32 (LittleEndian.word32 [a, b, c, d]) = [a, b, c, d] :=
        LittleEndian.bytes32_word32 rfl
      constructor
      · rw [wordsOfBytes, List.length_cons, words]
      · rw [wordsOfBytes, List.flatMap_cons, first, whole]
        rfl

/-- A tile made of as many words as it has pixels is these words. -/
theorem toList_ofWords {words : List UInt32} (length : words.length = tilePixels) :
    (ofWords words.toArray).toList = words := by
  apply List.ext_getElem
  · rw [Vector.length_toList, length]
  · intro index inside within
    simp [ofWords, within]

/-- As many bytes as a tile takes are the bytes of the tile that is received as them. -/
theorem encode_ofBytes {bytes : List UInt8} (length : bytes.length = 4 * tilePixels) :
    (ofBytes bytes).encode = bytes := by
  obtain ⟨count, whole⟩ := wordsOfBytes_whole length
  rw [ofBytes, encode, toList_ofWords count]
  exact whole

end Tile

namespace Request

variable {σ τ ε : Type} {stream : ByteStream σ ε} {ending : StreamEnd ε}
  {holds : σ → List UInt8 → Prop} {state middle : σ} {rest : List UInt8}

/-- Requests as they are sent: all of them, each decoded as itself. -/
def format : WireFormat Request Request := ⟨encode, fun _ => True, id, 0x06⟩

/-- Every request is decoded on a stream as itself, so that none begins another. -/
theorem encode_inj {request other : Request} {rest left : List UInt8}
    (same : request.encode ++ rest = other.encode ++ left) : request = other ∧ rest = left := by
  -- Both are received from one state of one stream, and the decoder is a function.
  have held := Scripted.view_holds_ofInput (request.encode ++ rest)
  obtain ⟨next, received, _, left_is, _⟩ := receive_front Scripted.carries request held
  rw [same] at held
  obtain ⟨last, otherReceived, _, other_is, _⟩ := receive_front Scripted.carries other held
  rw [same] at received
  obtain ⟨rfl, rfl⟩ := EStateM.Result.ok.inj (received.symm.trans otherReceived)
  exact ⟨rfl, left_is.symm.trans other_is⟩

/-- The format of requests is lawful. -/
theorem format_lawful : format.Lawful where
  begins := by
    intro request _
    cases request <;> exact ⟨_, _, rfl, by decide⟩
  separates _ _ same := encode_inj same

/-- Eight bytes are the fields of a request to write a word. -/
theorem exists_writeWord {fields : List UInt8} (eight : fields.length = 8) :
    ∃ request : Request, request.encode = 0x00 :: fields := by
  have first : (fields.take 4).length = 4 := by
    rw [List.length_take]
    omega
  have second : (fields.drop 4).length = 4 := by
    rw [List.length_drop]
    omega
  refine ⟨.writeWord (LittleEndian.word32 (fields.take 4)) (LittleEndian.word32 (fields.drop 4)),
    ?_⟩
  rw [encode, LittleEndian.bytes32_word32 first, LittleEndian.bytes32_word32 second,
    List.take_append_drop]

/-- Four bytes are the field of a request to read a word. -/
theorem exists_readWord {fields : List UInt8} (four : fields.length = 4) :
    ∃ request : Request, request.encode = 0x01 :: fields :=
  ⟨.readWord (LittleEndian.word32 fields), by rw [encode, LittleEndian.bytes32_word32 four]⟩

/-- As many bytes as a tile takes are the field of a request to write a tile. -/
theorem exists_writeTile {fields : List UInt8} (length : fields.length = 4 * tilePixels) :
    ∃ request : Request, request.encode = 0x02 :: fields :=
  ⟨.writeTile (Tile.ofBytes fields), by rw [encode, Tile.encode_ofBytes length]⟩

/-- A request of which a part of the fields has arrived is cut off. -/
theorem finds_cut {count : Nat} {command : UInt8} {part : List UInt8} {next : σ}
    (fields : ∀ {bytes : List UInt8}, bytes.length = count →
      ∃ request : Request, request.encode = command :: bytes)
    (short : part.length < count)
    (ran : receive stream state = .error (.transfer ending.error) next) (kept : holds next []) :
    format.Finds ending.error (receive stream) holds state (command :: part) := by
  have filled : (part ++ List.replicate (count - part.length) 0).length = count := by
    rw [List.length_append, List.length_replicate]
    omega
  obtain ⟨request, split⟩ := fields filled
  have missing : List.replicate (count - part.length) (0 : UInt8) ≠ [] := by
    rw [Ne, List.replicate_eq_nil_iff]
    omega
  exact .cut request trivial split missing ran kept

/-- Behind the command to write a word the decoder finds it, or the end. -/
theorem finds_writeWord (supplies : stream.Supplies ending holds)
    (command : stream.readByte state = .ok 0x00 middle) (kept : holds middle rest) :
    format.Finds ending.error (receive stream) holds state (0x00 :: rest) := by
  have begun : receive stream state = EStateM.adaptExcept DecodeError.transfer (do
      let address ← stream.readWord32
      let data ← stream.readWord32
      pure (writeWord address data)) middle := by
    rw [receive, bind_ok (adapt_ok command _), if_pos rfl]
  obtain ⟨address, left, between, rfl, field, kept⟩ | ⟨short, next, failed, kept⟩ :=
    supplies.readWord32_cases kept
  · obtain ⟨data, left, next, rfl, word, kept⟩ | ⟨short, next, failed, kept⟩ :=
      supplies.readWord32_cases kept
    · have ran : receive stream state = .ok (writeWord address data) next := by
        rw [begun]
        apply adapt_ok
        rw [bind_ok field, bind_ok word]
        rfl
      rw [← List.append_assoc]
      exact .item (writeWord address data) trivial ran kept
    · have ran : receive stream state = .error (.transfer ending.error) next := by
        rw [begun]
        apply adapt_error
        rw [bind_ok field, bind_error failed]
      have fewer : (LittleEndian.bytes32 address ++ left).length < 8 := by
        rw [List.length_append, LittleEndian.length_bytes32]
        omega
      exact finds_cut exists_writeWord fewer ran kept
  · have ran : receive stream state = .error (.transfer ending.error) next := by
      rw [begun]
      exact adapt_error (bind_error failed _) _
    exact finds_cut exists_writeWord (by omega) ran kept

/-- Behind the command to read a word the decoder finds it, or the end. -/
theorem finds_readWord (supplies : stream.Supplies ending holds)
    (command : stream.readByte state = .ok 0x01 middle) (kept : holds middle rest) :
    format.Finds ending.error (receive stream) holds state (0x01 :: rest) := by
  have begun : receive stream state =
      (readWord <$> EStateM.adaptExcept DecodeError.transfer stream.readWord32) middle := by
    rw [receive, bind_ok (adapt_ok command _), if_neg (by decide), if_pos rfl]
  obtain ⟨address, left, next, rfl, field, kept⟩ | ⟨short, next, failed, kept⟩ :=
    supplies.readWord32_cases kept
  · have ran : receive stream state = .ok (readWord address) next := by
      rw [begun]
      exact map_ok (adapt_ok field _) _
    exact .item (readWord address) trivial ran kept
  · have ran : receive stream state = .error (.transfer ending.error) next := by
      rw [begun]
      exact map_error (adapt_error failed _) _
    exact finds_cut exists_readWord short ran kept

/-- Behind the command to write a tile the decoder finds it, or the end. -/
theorem finds_writeTile (supplies : stream.Supplies ending holds)
    (command : stream.readByte state = .ok 0x02 middle) (kept : holds middle rest) :
    format.Finds ending.error (receive stream) holds state (0x02 :: rest) := by
  have begun : receive stream state =
      ((fun bytes => writeTile (Tile.ofBytes bytes)) <$>
        EStateM.adaptExcept DecodeError.transfer (stream.readField (4 * tilePixels))) middle := by
    rw [receive, bind_ok (adapt_ok command _), if_neg (by decide), if_neg (by decide), if_pos rfl]
  obtain ⟨field, left, next, rfl, length, arrived, kept⟩ | ⟨short, next, failed, kept⟩ :=
    supplies.readField_cases (4 * tilePixels) kept
  · have ran : receive stream state = .ok (writeTile (Tile.ofBytes field)) next := by
      rw [begun]
      exact map_ok (adapt_ok arrived _) _
    have whole : format.encode (writeTile (Tile.ofBytes field)) = 0x02 :: field :=
      congrArg (List.cons 0x02) (Tile.encode_ofBytes length)
    rw [← List.cons_append, ← whole]
    exact .item (writeTile (Tile.ofBytes field)) trivial ran kept
  · have ran : receive stream state = .error (.transfer ending.error) next := by
      rw [begun]
      exact map_error (adapt_error failed _) _
    exact finds_cut exists_writeTile short ran kept

/-- The decoder of requests finds what is in front, on every stream that supplies bytes. -/
theorem decodes (supplies : stream.Supplies ending holds) :
    format.Decodes ending.error (receive stream) holds := by
  intro state unread held
  obtain ⟨byte, rest, middle, rfl, command, kept⟩ | ⟨rfl, next, failed, kept⟩ :=
    supplies.readByte_cases held
  · by_cases isWriteWord : byte = 0x00
    · subst isWriteWord
      exact finds_writeWord supplies command kept
    by_cases isReadWord : byte = 0x01
    · subst isReadWord
      exact finds_readWord supplies command kept
    by_cases isWriteTile : byte = 0x02
    · subst isWriteTile
      exact finds_writeTile supplies command kept
    have begun := adapt_ok command DecodeError.transfer
    by_cases isReadTile : byte = 0x03
    · subst isReadTile
      exact .item readTile trivial (by rw [receive, bind_ok begun]; rfl) kept
    by_cases isRasterize : byte = 0x04
    · subst isRasterize
      exact .item rasterize trivial (by rw [receive, bind_ok begun]; rfl) kept
    by_cases isEndFrame : byte = 0x05
    · subst isEndFrame
      exact .item endFrame trivial (by rw [receive, bind_ok begun]; rfl) kept
    have unknown : (0x06 : UInt8) ≤ byte := by grind
    refine .unknown unknown ?_ kept
    rw [receive, bind_ok begun, if_neg isWriteWord, if_neg isReadWord, if_neg isWriteTile,
      if_neg isReadTile, if_neg isRasterize, if_neg isEndFrame]
    rfl
  · have ran : receive stream state = .error (.transfer ending.error) next :=
      bind_error (adapt_error failed _) _
    exact .cut endFrame trivial rfl (List.cons_ne_nil 0x05 []) ran kept

/-- Requests and the bytes that they are sent as stand for each other, over whole streams. What is
sent for requests is their encodings in order. A stream of these decodes to the requests, each
decode taking the bytes of its request and no others, and then to the error at its end, however
reads are cut up. On any stream, what was taken for a request that was received is the encoding of
this request, and what was taken for an unknown command is its byte alone, which is one that no
request begins with. -/
theorem codec_exact {outward : τ → List UInt8 → List UInt8 → Prop} {sender : ByteStream τ ε}
    (carries : sender.Carries outward) (supplies : stream.Supplies ending holds) :
    (∀ requests speaker incoming sent, outward speaker incoming sent →
      ∃ next, requests.forM (send sender) speaker = .ok () next ∧
        outward next incoming (sent ++ encodeRequests requests)) ∧
    (∀ requests state, holds state (encodeRequests requests) →
      Decoded holds format ending.error requests (decodeStream stream (receive stream) state)) ∧
    (∀ state unread request next, holds state unread → receive stream state = .ok request next →
      ∃ rest, unread = request.encode ++ rest ∧ holds next rest) ∧
    (∀ state unread byte next, holds state unread →
      receive stream state = .error (.unknown byte) next →
      0x06 ≤ byte ∧ ∃ rest, unread = byte :: rest ∧ holds next rest) := by
  have decodes : format.Decodes ending.error (receive stream) holds := decodes supplies
  refine ⟨?_, ?_, ?_, ?_⟩
  · intro requests speaker incoming sent held
    exact carries.writeEach_all encode requests held
  · intro requests state held
    exact decodes.stream format_lawful supplies (fun _ _ => trivial) held
  · intro state unread request next held received
    obtain ⟨_, rest, _, rfl, split, kept⟩ := decodes.of_ok held received
    exact ⟨rest, split, kept⟩
  · intro state unread byte next held refused
    exact decodes.of_unknown held refused

/-- Requests whose fields look like commands. -/
def lookalikes : List Request :=
  [.writeWord 0x05040302 0x00010203, .readWord 0x05050505, .readTile, .endFrame]

/-- Read three bytes at a time, these requests are decoded as they are. -/
theorem lookalikes_decoded :
    (∃ next, lookalikes.forM (send Scripted.stream) (.ofInput {} []) = .ok () next ∧
      Scripted.view.Holds next [] (encodeRequests lookalikes)) ∧
    (decodeStream Scripted.stream (receive Scripted.stream)
      (.ofInput { readLimit := some 3 } (encodeRequests lookalikes))).map Prod.fst =
      [.ok (.writeWord 0x05040302 0x00010203), .ok (.readWord 0x05050505), .ok .readTile,
        .ok .endFrame, .error (.transfer .unexpectedEnd)] := by
  have moves : Script.Moves { readLimit := some 3 } := by simp [Script.Moves]
  have supplies := Scripted.supplies moves (encodeRequests lookalikes).length []
  obtain ⟨sends, decoded, _⟩ := codec_exact Scripted.carries supplies
  constructor
  · exact sends lookalikes (.ofInput {} []) [] [] (Scripted.view_holds_ofInput [])
  · exact (decoded lookalikes _ (Scripted.ofInput_holds _ _)).results_eq

end Request

end Bringup
