import Bringup.Proofs.Wire.RequestCodec
import Mathlib.Data.List.Forall2
/-!
# Answers to requests

Every request asks for an answer of one kind, and the bytes of an answer are as many as the request
alone says: none for a write and for the end of a frame, four for a word, eight for a time, and four
for each pixel of a tile. Answers are not marked on the line, so that a reader must know which
request each belongs to; given the requests, the bytes tell the answers (`eq_of_flatMap_encode`).
-/

namespace Bringup

/-- What a request gives back. -/
inductive Answer where
  | done
  | word (data : UInt32)
  | tile (tile : Tile)
  | elapsed (cycles : UInt64)
  deriving DecidableEq

/-- The bytes that carry an answer. -/
def Answer.encode : Answer → List UInt8
  | .done => []
  | .word data => LittleEndian.bytes32 data
  | .tile pixels => pixels.encode
  | .elapsed cycles => LittleEndian.bytes64 cycles

namespace Request

/-- The bytes that the answer to a request takes. -/
def replyLength : Request → Nat
  | .writeWord _ _ | .writeTile _ | .endFrame => 0
  | .readWord _ => 4
  | .readTile => 1024
  | .rasterize => 8

/-- The answer is of the kind that the request asks for. -/
inductive Fits : Request → Answer → Prop where
  | writeWord (address data : UInt32) : Fits (.writeWord address data) .done
  | readWord (address data : UInt32) : Fits (.readWord address) (.word data)
  | writeTile (tile : Tile) : Fits (.writeTile tile) .done
  | readTile (tile : Tile) : Fits .readTile (.tile tile)
  | rasterize (cycles : UInt64) : Fits .rasterize (.elapsed cycles)
  | endFrame : Fits .endFrame .done

/-- An answer takes as many bytes as its request says. -/
theorem Fits.length_encode {request : Request} {answer : Answer} (fits : request.Fits answer) :
    answer.encode.length = request.replyLength := by
  cases fits with
  | writeWord | writeTile | endFrame => rfl
  | readWord address data => exact LittleEndian.length_bytes32 data
  | readTile tile => exact tile.length_encode
  | rasterize cycles => exact LittleEndian.length_bytes64 cycles

/-- The bytes of an answer tell which it is among those of its kind. -/
theorem Fits.eq_of_encode {request : Request} {answer other : Answer} (fits : request.Fits answer)
    (otherFits : request.Fits other) (same : answer.encode = other.encode) : answer = other := by
  cases fits <;> cases otherFits
  case writeWord.writeWord | writeTile.writeTile | endFrame.endFrame => rfl
  case readWord.readWord address data other =>
    have words := congrArg LittleEndian.word32 same
    rw [Answer.encode, Answer.encode, LittleEndian.word32_bytes32,
      LittleEndian.word32_bytes32] at words
    rw [words]
  case readTile.readTile tile other =>
    have tiles := congrArg Tile.ofBytes same
    rw [Answer.encode, Answer.encode, Tile.ofBytes_encode, Tile.ofBytes_encode] at tiles
    rw [tiles]
  case rasterize.rasterize cycles other =>
    have words := congrArg LittleEndian.word64 same
    rw [Answer.encode, Answer.encode, LittleEndian.word64_bytes64,
      LittleEndian.word64_bytes64] at words
    rw [words]

end Request

/-- The bytes that the answers to requests take together. -/
def replyLength : List Request → Nat
  | [] => 0
  | request :: rest => request.replyLength + replyLength rest

/-- The bytes of requests in order. -/
def encodeRequests (requests : List Request) : List UInt8 := requests.flatMap Request.encode

/-- No answer is expected where there is no request. -/
@[simp] theorem replyLength_nil : replyLength [] = 0 := rfl

/-- The answer to the first request comes before the others. -/
@[simp] theorem replyLength_cons (request : Request) (rest : List Request) :
    replyLength (request :: rest) = request.replyLength + replyLength rest := rfl

/-- No bytes are expected where no request asks for any. -/
theorem replyLength_eq_zero {requests : List Request} :
    replyLength requests = 0 ↔ ∀ request ∈ requests, request.replyLength = 0 := by
  induction requests with
  | nil => simp
  | cons request rest ih =>
    rw [replyLength_cons, List.forall_mem_cons, ← ih]
    omega

/-- No request takes no bytes. -/
@[simp] theorem encodeRequests_nil : encodeRequests [] = [] := rfl

/-- The bytes of the first request come before the others. -/
@[simp] theorem encodeRequests_cons (request : Request) (rest : List Request) :
    encodeRequests (request :: rest) = request.encode ++ encodeRequests rest :=
  List.flatMap_cons

/-- The bytes of requests after others. -/
@[simp] theorem encodeRequests_append (first second : List Request) :
    encodeRequests (first ++ second) = encodeRequests first ++ encodeRequests second :=
  List.flatMap_append

/-- Every request takes at least a byte. -/
theorem length_le_encodeRequests (requests : List Request) :
    requests.length ≤ (encodeRequests requests).length := by
  induction requests with
  | nil => exact Nat.le_refl _
  | cons request rest ih =>
    have positive := request.length_encode_pos
    rw [encodeRequests_cons, List.length_append, List.length_cons]
    omega

/-- Answers of the right kinds take as many bytes as the requests say. -/
theorem length_flatMap_encode {requests : List Request} {answers : List Answer}
    (fits : List.Forall₂ Request.Fits requests answers) :
    (answers.flatMap Answer.encode).length = replyLength requests := by
  induction fits with
  | nil => rfl
  | cons first _ ih =>
    rw [List.flatMap_cons, List.length_append, first.length_encode, ih, replyLength_cons]

/-- The bytes in front tell the answers to requests, and what follows them. -/
theorem eq_of_flatMap_encode {requests : List Request} {answers others : List Answer}
    {rest otherRest : List UInt8} (fits : List.Forall₂ Request.Fits requests answers)
    (otherFits : List.Forall₂ Request.Fits requests others)
    (same : answers.flatMap Answer.encode ++ rest = others.flatMap Answer.encode ++ otherRest) :
    answers = others ∧ rest = otherRest := by
  induction fits generalizing others with
  | nil =>
    cases otherFits
    exact ⟨rfl, same⟩
  | cons first _ ih =>
    cases otherFits with
    | cons otherFirst otherFits =>
      rw [List.flatMap_cons, List.flatMap_cons, List.append_assoc, List.append_assoc] at same
      obtain ⟨front, back⟩ :=
        List.append_inj same (by rw [first.length_encode, otherFirst.length_encode])
      obtain ⟨rfl, rfl⟩ := ih otherFits back
      rw [first.eq_of_encode otherFirst front]
      exact ⟨rfl, rfl⟩

end Bringup
