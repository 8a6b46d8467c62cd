import Bringup.Proofs.Stream.Carrying
import Bringup.Wire.Message
/-!
# Messages on a stream

A console byte, a request for a program and the announcement of the monitor are read back as they
were written, and what follows them is left.
-/

namespace Bringup.Message

variable {σ ε : Type} {stream : ByteStream σ ε} {holds : σ → List UInt8 → List UInt8 → Prop}
  {state : σ} {rest written : List UInt8}

/-- A message is sent as its bytes. -/
theorem send_all (carries : stream.Carries holds) (message : Message)
    (held : holds state rest written) :
    ∃ next, send stream message state = .ok () next ∧ holds next rest (written ++ message.encode) :=
  carries.writeAll_all message.encode held

/-- Console text takes two bytes for each of its own. -/
theorem length_flatMap_putc (text : List UInt8) :
    (text.flatMap (encode ∘ .putc)).length = 2 * text.length := by
  induction text with
  | nil => rfl
  | cons byte text ih =>
    rw [List.flatMap_cons, List.length_append, ih, List.length_cons]
    show 2 + 2 * text.length = _
    omega

/-- A console byte in front is received. -/
theorem receive_putc (carries : stream.Carries holds) (capacity : Nat) (byte : UInt8)
    (held : holds state ((putc byte).encode ++ rest) written) :
    ∃ next, receive stream capacity state = .ok (putc byte) next ∧ holds next rest written := by
  obtain ⟨middle, command, kept⟩ := carries.fronts.byte held
  obtain ⟨next, text, kept⟩ := carries.fronts.byte kept
  refine ⟨next, ?_, kept⟩
  rw [receive, Action.bind_ok (Action.adapt_ok command _), if_pos rfl]
  exact Action.map_ok (Action.adapt_ok text _) _

/-- A request for a program in front is received, if its name has no zero byte and is within the
capacity. -/
theorem receive_loadProgram (carries : stream.Carries holds) {capacity : Nat} (name : List UInt8)
    (noZero : 0 ∉ name) (fits : name.length ≤ capacity)
    (held : holds state ((loadProgram name).encode ++ rest) written) :
    ∃ next, receive stream capacity state = .ok (loadProgram name) next ∧
      holds next rest written := by
  rw [encode, List.cons_append, List.append_assoc, List.singleton_append] at held
  obtain ⟨middle, command, kept⟩ := carries.fronts.byte held
  obtain ⟨next, read, kept⟩ := carries.readCString_front name noZero fits kept
  refine ⟨next, ?_, kept⟩
  rw [receive, Action.bind_ok (Action.adapt_ok command _), if_neg (by decide), if_pos rfl]
  exact Action.map_ok (Action.adapt_ok read _) _

/-- An announcement in front is received. -/
theorem receive_ready (carries : stream.Carries holds) (capacity : Nat)
    (held : holds state (ready.encode ++ rest) written) :
    ∃ next, receive stream capacity state = .ok ready next ∧ holds next rest written := by
  obtain ⟨next, command, kept⟩ := carries.fronts.byte held
  exact ⟨next, by rw [receive, Action.bind_ok (Action.adapt_ok command _)]; rfl, kept⟩

end Bringup.Message
