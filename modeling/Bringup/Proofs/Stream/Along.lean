import Bringup.Proofs.Action
import Bringup.Wire.Request
/-!
# Transfers along a relation

What single reads and writes of a stream do to its state, transfers of fields, words and requests
do to it as well: a relation between states that each read and write keeps to is kept to by all of
them, whatever arrives and however they end.
-/

namespace Bringup

open Bringup.Action

variable {σ ε : Type} {relation : σ → σ → Prop} [IsPreorder σ relation]

/-- Every read and every write of the stream runs along the relation. -/
structure ByteStream.Along (relation : σ → σ → Prop) (stream : ByteStream σ ε) : Prop where
  read : ∀ want, Action.Along relation (stream.read want)
  write : ∀ bytes, Action.Along relation (stream.write bytes)

/-- Writing until all bytes are taken. -/
theorem ByteStream.putAll_along (stream : ByteStream σ ε)
    (writes : ∀ bytes, Action.Along relation (stream.write bytes)) (rounds : Nat)
    (bytes : List UInt8) : Action.Along relation (stream.putAll rounds bytes) := by
  induction rounds generalizing bytes with
  | zero => exact .pure ()
  | succ rounds ih =>
    rw [ByteStream.putAll]
    split
    · exact .pure ()
    · refine .bind ((writes bytes).adapt _) fun count => ?_
      split
      · exact .bind (.throw _) fun _ => ih _
      · exact ih _

/-- Writing all bytes. -/
theorem ByteStream.writeAll_along (stream : ByteStream σ ε)
    (writes : ∀ bytes, Action.Along relation (stream.write bytes)) (bytes : List UInt8) :
    Action.Along relation (stream.writeAll bytes) :=
  stream.putAll_along writes bytes.length bytes

namespace ByteStream.Along

variable {stream : ByteStream σ ε}

/-- Reading until enough bytes have arrived. -/
theorem gather (along : stream.Along relation) (rounds want : Nat) :
    Action.Along relation (stream.gather rounds want) := by
  induction rounds generalizing want with
  | zero => exact .pure []
  | succ rounds ih =>
    rw [ByteStream.gather]
    by_cases nothing : want = 0
    · rw [if_pos nothing]
      exact .pure []
    · rw [if_neg nothing]
      refine .bind ((along.read want).adapt _) fun bytes => ?_
      have others : Action.Along relation (do
          let rest ← EStateM.adaptExcept (Shortfall.after bytes)
            (stream.gather rounds (want - bytes.length))
          pure (bytes ++ rest) : EStateM (Shortfall ε) σ (List UInt8)) :=
        .bind ((ih _).adapt _) fun rest => .pure _
      split
      · exact .bind (.throw _) fun _ => others
      · exact others

/-- Reading a field. -/
theorem readField (along : stream.Along relation) (count : Nat) :
    Action.Along relation (stream.readField count) :=
  (along.gather count count).adapt _

/-- Reading a byte. -/
theorem readByte (along : stream.Along relation) : Action.Along relation stream.readByte :=
  (along.readField 1).map _

/-- Reading a 32-bit word. -/
theorem readWord32 (along : stream.Along relation) : Action.Along relation stream.readWord32 :=
  (along.readField 4).map _

/-- Writing all bytes. -/
theorem writeAll (along : stream.Along relation) (bytes : List UInt8) :
    Action.Along relation (stream.writeAll bytes) :=
  stream.writeAll_along along.write bytes

/-- Receiving a request. -/
theorem receive (along : stream.Along relation) :
    Action.Along relation (Request.receive stream) := by
  rw [Request.receive]
  refine .bind (along.readByte.adapt _) fun command => ?_
  by_cases writeWord : command = 0x00
  · rw [if_pos writeWord]
    exact (Along.bind along.readWord32 fun address =>
      .bind along.readWord32 fun data => .pure _).adapt _
  rw [if_neg writeWord]
  by_cases readWord : command = 0x01
  · rw [if_pos readWord]
    exact (along.readWord32.adapt _).map _
  rw [if_neg readWord]
  by_cases writeTile : command = 0x02
  · rw [if_pos writeTile]
    exact ((along.readField _).adapt _).map _
  rw [if_neg writeTile]
  split
  · exact .pure _
  · split
    · exact .pure _
    · split
      · exact .pure _
      · exact .throw _

end ByteStream.Along

end Bringup
