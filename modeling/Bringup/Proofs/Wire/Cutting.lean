import Bringup.Proofs.Wire.MessageFormat
import Bringup.Proofs.Wire.RequestFormat
/-!
# Two streams that cut transfers up differently

Two streams with the same bounds, each of which cuts transfers up in its own way, are compared over
states that hold the same: the same bytes to be read, the same bytes written, and the same of
whatever else belongs to the states (`Alike`). Transfers of fields run in step on them, and so does
what is put together from these: sending and receiving messages and requests.
-/

namespace Bringup

open Bringup.Action

variable {σ τ κ ε : Type}

/-- Two states hold these bytes to be read, and besides the same. -/
def Alike (held : κ → σ → List UInt8 → List UInt8 → Prop)
    (otherHeld : κ → τ → List UInt8 → List UInt8 → Prop) (unread : List UInt8) (left : σ)
    (right : τ) : Prop :=
  ∃ rest written, held rest left unread written ∧ otherHeld rest right unread written

/-- Two states hold the same. -/
def AllAlike (held : κ → σ → List UInt8 → List UInt8 → Prop)
    (otherHeld : κ → τ → List UInt8 → List UInt8 → Prop) (left : σ) (right : τ) : Prop :=
  ∃ unread, Alike held otherHeld unread left right

/-- Two streams have the same bounds. -/
structure ByteStream.Twins (one : ByteStream σ ε) (other : ByteStream τ ε) (bounds : Bounds ε)
    (held : κ → σ → List UInt8 → List UInt8 → Prop)
    (otherHeld : κ → τ → List UInt8 → List UInt8 → Prop) : Prop where
  bounded : ∀ rest, one.Bounded bounds (held rest)
  otherBounded : ∀ rest, other.Bounded bounds (otherHeld rest)

namespace ByteStream.Twins

variable {one : ByteStream σ ε} {other : ByteStream τ ε} {bounds : Bounds ε}
  {held : κ → σ → List UInt8 → List UInt8 → Prop}
  {otherHeld : κ → τ → List UInt8 → List UInt8 → Prop}
  (twins : Twins one other bounds held otherHeld)

include twins

/-- Fields are read in step. -/
theorem readField (count : Nat) :
    InStep (AllAlike held otherHeld) (one.readField count) (other.readField count) := by
  rintro left right ⟨unread, rest, written, kept, otherKept⟩
  obtain ⟨field, behind, next, split, length, read, kept⟩ | ⟨short, next, failed, kept⟩ :=
    ((twins.bounded rest).supplies written).readField_cases count kept
  · obtain ⟨otherField, otherBehind, otherNext, otherSplit, otherLength, otherRead, otherKept⟩ |
      ⟨short, _⟩ := ((twins.otherBounded rest).supplies written).readField_cases count otherKept
    · obtain ⟨rfl, rfl⟩ :=
        List.append_inj (split.symm.trans otherSplit) (length.trans otherLength.symm)
      exact .of_ok read otherRead ⟨behind, rest, written, kept, otherKept⟩
    · rw [split, List.length_append] at short
      omega
  · obtain ⟨field, behind, _, split, length, _⟩ | ⟨_, otherNext, otherFailed, otherKept⟩ :=
      ((twins.otherBounded rest).supplies written).readField_cases count otherKept
    · rw [split, List.length_append] at short
      omega
    · exact .of_error failed otherFailed ⟨[], rest, written, kept, otherKept⟩

/-- Bytes are read in step. -/
theorem readByte : InStep (AllAlike held otherHeld) one.readByte other.readByte :=
  (twins.readField 1).map _

/-- 32-bit words are read in step. -/
theorem readWord32 : InStep (AllAlike held otherHeld) one.readWord32 other.readWord32 :=
  (twins.readField 4).map _

/-- Bytes are written in step, and what is unread stays. -/
theorem writeAll_alike (unread bytes : List UInt8) :
    InStep (Alike held otherHeld unread) (one.writeAll bytes) (other.writeAll bytes) := by
  rintro left right ⟨rest, written, kept, otherKept⟩
  obtain ⟨room, next, ran, kept⟩ | ⟨room, next, failed, kept⟩ :=
    ((twins.bounded rest).accepts unread).writeAll_cases bytes kept
  · obtain ⟨_, otherNext, otherRan, otherKept⟩ | ⟨full, _⟩ :=
      ((twins.otherBounded rest).accepts unread).writeAll_cases bytes otherKept
    · exact .of_ok ran otherRan ⟨rest, _, kept, otherKept⟩
    · omega
  · obtain ⟨full, _⟩ | ⟨_, otherNext, otherFailed, otherKept⟩ :=
      ((twins.otherBounded rest).accepts unread).writeAll_cases bytes otherKept
    · omega
    · exact .of_error failed otherFailed ⟨rest, _, kept, otherKept⟩

/-- Bytes are written in step. -/
theorem writeAll (bytes : List UInt8) :
    InStep (AllAlike held otherHeld) (one.writeAll bytes) (other.writeAll bytes) :=
  .some_index fun unread => twins.writeAll_alike unread bytes

/-- Messages are received in step. -/
theorem receive_message (capacity : Nat) :
    InStep (AllAlike held otherHeld) (Message.receive one capacity)
      (Message.receive other capacity) := by
  rintro left right ⟨unread, rest, written, kept, otherKept⟩
  have decodes := Message.decodes ((twins.bounded rest).supplies written) capacity
  have otherDecodes := Message.decodes ((twins.otherBounded rest).supplies written) capacity
  obtain ⟨behind, _, agree⟩ :=
    decodes.agree (Message.format_lawful capacity) otherDecodes kept otherKept
  exact agree.imp fun _ _ same => ⟨behind, rest, written, same⟩

/-- Requests are received in step, each as what is in front of the bytes to be read. -/
theorem receive_request_alike {unread : List UInt8} {left : σ} {right : τ}
    (alike : Alike held otherHeld unread left right) :
    ∃ behind, Request.format.Parses bounds.inputEnd.error unread
        (attempt (Request.receive one) left).1 behind ∧
      Agree (Alike held otherHeld behind) (attempt (Request.receive one) left)
        (attempt (Request.receive other) right) := by
  obtain ⟨rest, written, kept, otherKept⟩ := alike
  have decodes := Request.decodes ((twins.bounded rest).supplies written)
  have otherDecodes := Request.decodes ((twins.otherBounded rest).supplies written)
  obtain ⟨behind, parse, agree⟩ := decodes.agree Request.format_lawful otherDecodes kept otherKept
  exact ⟨behind, parse, agree.imp fun _ _ same => ⟨rest, written, same⟩⟩

/-- Requests are received in step. -/
theorem receive_request :
    InStep (AllAlike held otherHeld) (Request.receive one) (Request.receive other) := by
  rintro left right ⟨unread, alike⟩
  obtain ⟨behind, _, agree⟩ := twins.receive_request_alike alike
  exact agree.imp fun _ _ same => ⟨behind, same⟩

end ByteStream.Twins

end Bringup
