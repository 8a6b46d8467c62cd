import Bringup.Proofs.Stream.Carrying
import Bringup.Wire.Request
/-!
# Requests on a stream

A request is read back as it was written, whatever follows it, and takes exactly its own bytes.
The fields are little-endian words, so all that remains to be said is that a tile is the sequence
of its words. Main statement: `Request.receive_front`.
-/

namespace Bringup

namespace Tile

/-- The words of a sequence of words are these words. -/
theorem wordsOfBytes_flatMap (words : List UInt32) :
    wordsOfBytes (words.flatMap LittleEndian.bytes32) = words := by
  induction words with
  | nil => rfl
  | cons word rest ih =>
    rw [List.flatMap_cons]
    show LittleEndian.word32 (LittleEndian.bytes32 word) ::
      wordsOfBytes (rest.flatMap LittleEndian.bytes32) = word :: rest
    rw [LittleEndian.word32_bytes32, ih]

/-- A tile made of the words of a tile is that tile. -/
theorem ofWords_toArray (tile : Tile) : ofWords tile.toArray = tile := by
  apply Vector.ext
  intro index inside
  have size : index < tile.toArray.size := by rw [tile.size_toArray]; exact inside
  rw [ofWords, Vector.getElem_ofFn, ← Array.getElem_eq_getD (h := size) 0]
  rfl

/-- A tile survives being sent and received. -/
theorem ofBytes_encode (tile : Tile) : ofBytes tile.encode = tile := by
  rw [ofBytes, encode, wordsOfBytes_flatMap, Vector.toList, Array.toArray_toList]
  exact ofWords_toArray tile

/-- A sequence of words takes four bytes for each. -/
theorem length_flatMap_bytes32 (words : List UInt32) :
    (words.flatMap LittleEndian.bytes32).length = 4 * words.length := by
  induction words with
  | nil => rfl
  | cons word rest ih =>
    rw [List.flatMap_cons, List.length_append, LittleEndian.length_bytes32, ih, List.length_cons]
    omega

/-- A tile takes four bytes for each of its pixels. -/
theorem length_encode (tile : Tile) : tile.encode.length = 4 * tilePixels := by
  rw [encode, length_flatMap_bytes32, Vector.length_toList]

end Tile

namespace Request

variable {σ ε : Type} {stream : ByteStream σ ε} {holds : σ → List UInt8 → List UInt8 → Prop}
  {state : σ} {written : List UInt8}

/-- A request takes at least its command byte. -/
theorem length_encode_pos (request : Request) : 0 < request.encode.length := by
  cases request <;> exact Nat.succ_pos _

/-- The request in front is received and what follows is left. -/
theorem receive_front (carries : stream.Carries holds) (request : Request) {rest : List UInt8}
    (held : holds state (request.encode ++ rest) written) :
    ∃ next, receive stream state = .ok request next ∧ holds next rest written := by
  cases request with
  | writeWord address data =>
    rw [encode, List.cons_append, List.append_assoc] at held
    obtain ⟨afterCommand, command, kept⟩ := carries.fronts.byte held
    obtain ⟨afterAddress, field, kept⟩ := carries.fronts.word32 kept
    obtain ⟨last, word, kept⟩ := carries.fronts.word32 kept
    refine ⟨last, ?_, kept⟩
    rw [receive, Action.bind_ok (Action.adapt_ok command _), if_pos rfl]
    apply Action.adapt_ok
    rw [Action.bind_ok field, Action.bind_ok word]
    rfl
  | readWord address =>
    obtain ⟨afterCommand, command, kept⟩ := carries.fronts.byte held
    obtain ⟨last, field, kept⟩ := carries.fronts.word32 kept
    refine ⟨last, ?_, kept⟩
    rw [receive, Action.bind_ok (Action.adapt_ok command _), if_neg (by decide), if_pos rfl]
    exact Action.map_ok (Action.adapt_ok field _) _
  | writeTile tile =>
    obtain ⟨afterCommand, command, kept⟩ := carries.fronts.byte held
    obtain ⟨last, field, kept⟩ := carries.fronts.field _ kept
    rw [Tile.length_encode] at field
    refine ⟨last, ?_, kept⟩
    rw [receive, Action.bind_ok (Action.adapt_ok command _), if_neg (by decide),
      if_neg (by decide), if_pos rfl, Action.map_ok (Action.adapt_ok field _),
      Tile.ofBytes_encode]
  | readTile =>
    obtain ⟨last, command, kept⟩ := carries.fronts.byte held
    exact ⟨last, by rw [receive, Action.bind_ok (Action.adapt_ok command _)]; rfl, kept⟩
  | rasterize =>
    obtain ⟨last, command, kept⟩ := carries.fronts.byte held
    exact ⟨last, by rw [receive, Action.bind_ok (Action.adapt_ok command _)]; rfl, kept⟩
  | endFrame =>
    obtain ⟨last, command, kept⟩ := carries.fronts.byte held
    exact ⟨last, by rw [receive, Action.bind_ok (Action.adapt_ok command _)]; rfl, kept⟩

/-- Where nothing is left no request is received. -/
theorem receive_ended (carries : stream.Carries holds) (held : holds state [] written) :
    ∃ error next, receive stream state = .error (.transfer error) next ∧
      holds next [] written := by
  obtain ⟨error, next, command, kept⟩ := carries.readByte_ended held
  exact ⟨error, next, Action.bind_error (Action.adapt_error command _) _, kept⟩

/-- A command byte that stands for no request is told, and nothing behind it is taken. -/
theorem receive_unknown (carries : stream.Carries holds) {byte : UInt8} (unknown : 0x06 ≤ byte)
    {rest : List UInt8} (held : holds state (byte :: rest) written) :
    ∃ next, receive stream state = .error (.unknown byte) next ∧ holds next rest written := by
  obtain ⟨next, command, kept⟩ := carries.fronts.byte held
  have other : ∀ known : UInt8, known < 0x06 → byte ≠ known := by
    intro known small same
    exact absurd unknown (UInt8.not_le.2 (same ▸ small))
  refine ⟨next, ?_, kept⟩
  rw [receive, Action.bind_ok (Action.adapt_ok command _), if_neg (other 0x00 (by decide)),
    if_neg (other 0x01 (by decide)), if_neg (other 0x02 (by decide)),
    if_neg (other 0x03 (by decide)), if_neg (other 0x04 (by decide)),
    if_neg (other 0x05 (by decide))]
  rfl

/-- A request of which a byte is missing is not received, and what there is of it is taken. -/
theorem receive_short (carries : stream.Carries holds) (request : Request)
    {part missing : List UInt8} (split : request.encode = part ++ missing) (cut : missing ≠ [])
    (held : holds state part written) :
    ∃ error next, receive stream state = .error (.transfer error) next ∧ holds next [] written := by
  obtain _ | ⟨byte, part⟩ := part
  · exact receive_ended carries held
  have positive : 0 < missing.length := List.length_pos_iff.2 cut
  have length := congrArg List.length split
  rw [List.cons_append, List.length_cons, List.length_append] at length
  obtain ⟨afterCommand, command, kept⟩ := carries.fronts.byte held
  cases request with
  | writeWord address data =>
    obtain ⟨rfl, _⟩ := List.cons.inj split
    rw [encode, List.length_cons, List.length_append, LittleEndian.length_bytes32,
      LittleEndian.length_bytes32] at length
    rw [receive, Action.bind_ok (Action.adapt_ok command _), if_pos rfl]
    by_cases front : 4 ≤ part.length
    · obtain ⟨word, afterAddress, field, kept⟩ := carries.readWord32_enough kept front
      obtain ⟨error, next, failed, kept⟩ :=
        carries.readWord32_short kept (by rw [List.length_drop]; omega)
      refine ⟨error, next, Action.adapt_error ?_ _, kept⟩
      rw [Action.bind_ok field, Action.bind_error failed]
    · obtain ⟨error, next, failed, kept⟩ := carries.readWord32_short kept (by omega)
      exact ⟨error, next, Action.adapt_error (Action.bind_error failed _) _, kept⟩
  | readWord address =>
    obtain ⟨rfl, _⟩ := List.cons.inj split
    rw [encode, List.length_cons, LittleEndian.length_bytes32] at length
    obtain ⟨error, next, failed, kept⟩ := carries.readWord32_short kept (by omega)
    refine ⟨error, next, ?_, kept⟩
    rw [receive, Action.bind_ok (Action.adapt_ok command _), if_neg (by decide), if_pos rfl]
    exact Action.map_error (Action.adapt_error failed _) _
  | writeTile tile =>
    obtain ⟨rfl, _⟩ := List.cons.inj split
    rw [encode, List.length_cons, Tile.length_encode] at length
    obtain ⟨error, next, failed, kept⟩ :=
      carries.readField_short (4 * tilePixels) kept (by omega)
    refine ⟨error, next, ?_, kept⟩
    rw [receive, Action.bind_ok (Action.adapt_ok command _), if_neg (by decide),
      if_neg (by decide), if_pos rfl]
    exact Action.map_error (Action.adapt_error failed _) _
  | readTile | rasterize | endFrame =>
    -- A request of a single byte has no beginning that holds a byte and misses one.
    rw [encode, List.length_singleton] at length
    omega

end Request

end Bringup
