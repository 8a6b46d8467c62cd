import Bringup.Proofs.InStep
import Bringup.Proofs.Stream.Ending
/-!
# Formats of items on a line

A format writes each item as a command byte and what belongs to it, and says what a decoder makes of
an item. What a decoder has to find in front of a byte sequence is said without the decoder
(`WireFormat.Parses`): an item, a byte that begins none, or the beginning of an item that is cut
off. Where no item begins another and all begin with known commands, this is one thing only
(`WireFormat.Parses.unique`).

A decoder that finds it on every stream that supplies bytes up to an end (`WireFormat.Decodes`)
takes exactly the bytes of each item, whatever follows; decodes the items of a whole stream and then
its end (`WireFormat.Decodes.stream`); accepts nothing that is not the encoding of an item
(`WireFormat.Decodes.of_ok`); and does not depend on how reads are cut up
(`WireFormat.Decodes.agree`).
-/

namespace Bringup

open Bringup.Action

/-- Byte sequences that are written one after the other are written in order. -/
theorem ByteStream.Carries.writeEach_all {τ ε α : Type} {sender : ByteStream τ ε}
    {outward : τ → List UInt8 → List UInt8 → Prop} (carries : sender.Carries outward)
    (encode : α → List UInt8) (items : List α) {speaker : τ} {incoming sent : List UInt8}
    (held : outward speaker incoming sent) :
    ∃ next, items.forM (fun item => sender.writeAll (encode item)) speaker = .ok () next ∧
      outward next incoming (sent ++ items.flatMap encode) := by
  induction items generalizing speaker sent with
  | nil => exact ⟨speaker, rfl, by rwa [List.flatMap_nil, List.append_nil]⟩
  | cons item items ih =>
    obtain ⟨middle, first, kept⟩ := carries.writeAll_all (encode item) held
    obtain ⟨next, others, kept⟩ := ih kept
    refine ⟨next, (bind_ok first _).trans others, ?_⟩
    rwa [List.flatMap_cons, ← List.append_assoc]

/-- How items are written on a line, and what a decoder makes of them. -/
structure WireFormat (α β : Type) where
  /-- The bytes of an item. -/
  encode : α → List UInt8
  /-- The items that can be written. -/
  Valid : α → Prop
  /-- What an item is decoded as. -/
  decoded : α → β
  /-- The first command byte that begins no item. -/
  commands : UInt8

/-- The results of decoding a stream to its end: the items in order, each with a state in which the
encodings of the items after it are left, and then the error at the end. -/
inductive Decoded {σ ε α β : Type} (holds : σ → List UInt8 → Prop) (format : WireFormat α β)
    (error : TransferError ε) : List α → List (Except (DecodeError ε) β × σ) → Prop where
  | ended {state : σ} : holds state [] →
    Decoded holds format error [] [(.error (.transfer error), state)]
  | item {item : α} {items : List α} {state : σ} {results : List (Except (DecodeError ε) β × σ)} :
    holds state (items.flatMap format.encode) → Decoded holds format error items results →
    Decoded holds format error (item :: items) ((.ok (format.decoded item), state) :: results)

/-- The results of decoding a whole stream are its items and the error at its end. -/
theorem Decoded.results_eq {σ ε α β : Type} {holds : σ → List UInt8 → Prop}
    {format : WireFormat α β} {error : TransferError ε} {items : List α}
    {results : List (Except (DecodeError ε) β × σ)}
    (decoded : Decoded holds format error items results) :
    results.map Prod.fst =
      items.map (fun item => .ok (format.decoded item)) ++ [.error (.transfer error)] := by
  induction decoded with
  | ended _ => rfl
  | item _ _ ih => rw [List.map_cons, ih, List.map_cons, List.cons_append]

namespace WireFormat

variable {σ τ ε α β : Type} {format : WireFormat α β} {error : TransferError ε}

/-- What is to be found in front of a byte sequence, and the bytes behind it. -/
inductive Parses (format : WireFormat α β) (error : TransferError ε) :
    List UInt8 → Except (DecodeError ε) β → List UInt8 → Prop where
  /-- An item, whatever follows. -/
  | item {item : α} (valid : format.Valid item) (rest : List UInt8) :
    Parses format error (format.encode item ++ rest) (.ok (format.decoded item)) rest
  /-- A byte that begins no item. Only this byte is taken. -/
  | unknown {byte : UInt8} (unknown : format.commands ≤ byte) (rest : List UInt8) :
    Parses format error (byte :: rest) (.error (.unknown byte)) rest
  /-- An item of which at least a byte is missing. All there is of it is taken. -/
  | cut {item : α} {part missing : List UInt8} (valid : format.Valid item)
    (split : format.encode item = part ++ missing) (short : missing ≠ []) :
    Parses format error part (.error (.transfer error)) []

/-- Every item begins with a known command, and none begins another. -/
structure Lawful (format : WireFormat α β) : Prop where
  begins : ∀ {item}, format.Valid item →
    ∃ command fields, format.encode item = command :: fields ∧ command < format.commands
  separates : ∀ {item other rest left}, format.Valid item → format.Valid other →
    format.encode item ++ rest = format.encode other ++ left → item = other ∧ rest = left

namespace Lawful

variable (lawful : format.Lawful) {item : α} (valid : format.Valid item)

include lawful valid

/-- An item takes at least a byte. -/
theorem length_pos : 0 < (format.encode item).length := by
  obtain ⟨command, fields, begins, _⟩ := lawful.begins valid
  rw [begins]
  exact Nat.succ_pos _

/-- No item begins with an unknown byte. -/
theorem not_unknown {byte : UInt8} {part rest : List UInt8} (unknown : format.commands ≤ byte) :
    format.encode item ++ rest ≠ byte :: part := by
  intro same
  obtain ⟨command, fields, begins, known⟩ := lawful.begins valid
  rw [begins, List.cons_append] at same
  obtain ⟨rfl, _⟩ := List.cons.inj same
  exact absurd unknown (UInt8.not_le.2 known)

/-- No item is cut off where another is whole. -/
theorem not_cut {other : α} {rest missing : List UInt8} (otherValid : format.Valid other)
    (short : missing ≠ []) : format.encode other ≠ format.encode item ++ rest ++ missing := by
  intro split
  rw [← List.append_nil (format.encode other), List.append_assoc] at split
  have nothing := (lawful.separates otherValid valid split).2
  exact short (List.append_eq_nil_iff.1 nothing.symm).2

end Lawful

/-- A byte sequence has one thing in front. -/
theorem Parses.unique (lawful : format.Lawful) {bytes rest left : List UInt8}
    {result other : Except (DecodeError ε) β} (parse : format.Parses error bytes result rest)
    (otherParse : format.Parses error bytes other left) : result = other ∧ rest = left := by
  generalize same : bytes = sequence at otherParse
  cases parse with
  | item valid rest =>
    cases otherParse with
    | item otherValid left =>
      obtain ⟨rfl, rfl⟩ := lawful.separates valid otherValid same
      exact ⟨rfl, rfl⟩
    | unknown unknown left => exact absurd same (lawful.not_unknown valid unknown)
    | cut otherValid split short =>
      subst same
      exact absurd split (lawful.not_cut valid otherValid short)
  | unknown unknown rest =>
    cases otherParse with
    | item otherValid left => exact absurd same.symm (lawful.not_unknown otherValid unknown)
    | unknown otherUnknown left =>
      obtain ⟨rfl, rfl⟩ := List.cons.inj same
      exact ⟨rfl, rfl⟩
    | cut otherValid split short =>
      subst same
      rw [← List.append_nil (format.encode _)] at split
      exact absurd split (lawful.not_unknown otherValid unknown)
  | cut valid split short =>
    cases otherParse with
    | item otherValid left =>
      subst same
      exact absurd split (lawful.not_cut otherValid valid short)
    | unknown unknown left =>
      subst same
      rw [← List.append_nil (format.encode _)] at split
      exact absurd split (lawful.not_unknown valid unknown)
    | cut otherValid otherSplit otherShort => exact ⟨rfl, rfl⟩

/-- From this state the decoder finds what is in front of these bytes, and leaves the bytes behind
it. -/
def Finds (format : WireFormat α β) (error : TransferError ε)
    (receive : EStateM (DecodeError ε) σ β) (holds : σ → List UInt8 → Prop) (state : σ)
    (unread : List UInt8) : Prop :=
  ∃ rest, format.Parses error unread (attempt receive state).1 rest ∧
    holds (attempt receive state).2 rest

namespace Finds

variable {receive : EStateM (DecodeError ε) σ β} {holds : σ → List UInt8 → Prop} {state next : σ}

/-- The decoder finds an item that it decodes. -/
theorem item (item : α) (valid : format.Valid item) {rest : List UInt8}
    (ran : receive state = .ok (format.decoded item) next) (kept : holds next rest) :
    format.Finds error receive holds state (format.encode item ++ rest) := by
  refine ⟨rest, ?_, ?_⟩ <;> rw [attempt, ran]
  · exact .item valid rest
  · exact kept

/-- The decoder finds an unknown byte that it reports. -/
theorem unknown {byte : UInt8} (unknown : format.commands ≤ byte) {rest : List UInt8}
    (ran : receive state = .error (.unknown byte) next) (kept : holds next rest) :
    format.Finds error receive holds state (byte :: rest) := by
  refine ⟨rest, ?_, ?_⟩ <;> rw [attempt, ran]
  · exact .unknown unknown rest
  · exact kept

/-- The decoder finds the end where a part of an item is missing. -/
theorem cut (item : α) (valid : format.Valid item) {part missing : List UInt8}
    (split : format.encode item = part ++ missing) (short : missing ≠ [])
    (ran : receive state = .error (.transfer error) next) (kept : holds next []) :
    format.Finds error receive holds state part := by
  refine ⟨[], ?_, ?_⟩ <;> rw [attempt, ran]
  · exact .cut valid split short
  · exact kept

end Finds

/-- From every state that holds bytes to be read, the decoder finds what is in front of them. -/
def Decodes (format : WireFormat α β) (error : TransferError ε)
    (receive : EStateM (DecodeError ε) σ β) (holds : σ → List UInt8 → Prop) : Prop :=
  ∀ ⦃state unread⦄, holds state unread → format.Finds error receive holds state unread

namespace Decodes

variable {receive : EStateM (DecodeError ε) σ β} {holds : σ → List UInt8 → Prop} {state next : σ}
  {unread : List UInt8}

/-- A decoder finds an item, an unknown byte, or the end in the middle of an item. -/
theorem cases (decodes : format.Decodes error receive holds) (held : holds state unread) :
    (∃ item rest next, format.Valid item ∧ unread = format.encode item ++ rest ∧
      receive state = .ok (format.decoded item) next ∧ holds next rest) ∨
    (∃ byte rest next, format.commands ≤ byte ∧ unread = byte :: rest ∧
      receive state = .error (.unknown byte) next ∧ holds next rest) ∨
    (∃ item missing next, format.Valid item ∧ format.encode item = unread ++ missing ∧
      missing ≠ [] ∧ receive state = .error (.transfer error) next ∧ holds next []) := by
  obtain ⟨rest, parse, kept⟩ := decodes held
  generalize result : (attempt receive state).1 = outcome at parse
  cases parse with
  | item valid rest =>
    exact .inl ⟨_, rest, _, valid, rfl, eq_ok_of_attempt result, kept⟩
  | unknown unknown rest =>
    exact .inr (.inl ⟨_, rest, _, unknown, rfl, eq_error_of_attempt result, kept⟩)
  | cut valid split short =>
    exact .inr (.inr ⟨_, _, _, valid, split, short, eq_error_of_attempt result, kept⟩)

/-- What is in front is what a decoder finds. -/
theorem of_parses (decodes : format.Decodes error receive holds) (lawful : format.Lawful)
    {result : Except (DecodeError ε) β} {rest : List UInt8}
    (parse : format.Parses error unread result rest) (held : holds state unread) :
    (attempt receive state).1 = result ∧ holds (attempt receive state).2 rest := by
  obtain ⟨left, otherParse, kept⟩ := decodes held
  obtain ⟨same, rfl⟩ := otherParse.unique lawful parse
  exact ⟨same, kept⟩

/-- An item in front is decoded, and what follows is left. -/
theorem front (decodes : format.Decodes error receive holds) (lawful : format.Lawful) {item : α}
    (valid : format.Valid item) {rest : List UInt8}
    (held : holds state (format.encode item ++ rest)) :
    ∃ next, receive state = .ok (format.decoded item) next ∧ holds next rest := by
  obtain ⟨result, kept⟩ := decodes.of_parses lawful (.item valid rest) held
  exact ⟨_, eq_ok_of_attempt result, kept⟩

/-- An unknown byte in front is told, and only this byte is taken. -/
theorem front_unknown (decodes : format.Decodes error receive holds) (lawful : format.Lawful)
    {byte : UInt8} (unknown : format.commands ≤ byte) {rest : List UInt8}
    (held : holds state (byte :: rest)) :
    ∃ next, receive state = .error (.unknown byte) next ∧ holds next rest := by
  obtain ⟨result, kept⟩ := decodes.of_parses lawful (.unknown unknown rest) held
  exact ⟨_, eq_error_of_attempt result, kept⟩

/-- Where nothing is left, the decoder meets the end. -/
theorem ended (decodes : format.Decodes error receive holds) (lawful : format.Lawful)
    (held : holds state []) :
    ∃ next, receive state = .error (.transfer error) next ∧ holds next [] := by
  obtain ⟨item, rest, _, valid, nothing, _⟩ | ⟨_, _, _, _, nothing, _⟩ |
    ⟨_, _, next, _, _, _, ran, kept⟩ := decodes.cases held
  · have positive := lawful.length_pos valid
    rw [(List.append_eq_nil_iff.1 nothing.symm).1] at positive
    exact absurd positive (Nat.lt_irrefl 0)
  · cases nothing
  · exact ⟨next, ran, kept⟩

/-- Only the encoding of an item is decoded. -/
theorem of_ok (decodes : format.Decodes error receive holds) (held : holds state unread)
    {value : β} (ran : receive state = .ok value next) :
    ∃ item rest, format.Valid item ∧ format.decoded item = value ∧
      unread = format.encode item ++ rest ∧ holds next rest := by
  obtain ⟨item, rest, _, valid, split, found, kept⟩ | ⟨_, _, _, _, _, found, _⟩ |
    ⟨_, _, _, _, _, _, found, _⟩ := decodes.cases held
  · obtain ⟨rfl, rfl⟩ := EStateM.Result.ok.inj (ran.symm.trans found)
    exact ⟨item, rest, valid, rfl, split, kept⟩
  · cases ran.symm.trans found
  · cases ran.symm.trans found

/-- Only a byte that begins no item is unknown, and it alone is taken. -/
theorem of_unknown (decodes : format.Decodes error receive holds) (held : holds state unread)
    {byte : UInt8} (ran : receive state = .error (.unknown byte) next) :
    format.commands ≤ byte ∧ ∃ rest, unread = byte :: rest ∧ holds next rest := by
  obtain ⟨_, _, _, _, _, found, _⟩ | ⟨_, rest, _, unknown, split, found, kept⟩ |
    ⟨_, _, _, _, _, _, found, _⟩ := decodes.cases held
  · cases ran.symm.trans found
  · cases ran.symm.trans found
    exact ⟨unknown, rest, split, kept⟩
  · cases ran.symm.trans found

/-- Where a transfer fails, it meets the end. -/
theorem error_eq (decodes : format.Decodes error receive holds) (held : holds state unread)
    {failure : TransferError ε} (ran : receive state = .error (.transfer failure) next) :
    failure = error := by
  obtain ⟨_, _, _, _, _, found, _⟩ | ⟨_, _, _, _, _, found, _⟩ |
    ⟨_, _, _, _, _, _, found, _⟩ := decodes.cases held
  · cases ran.symm.trans found
  · cases ran.symm.trans found
  · cases ran.symm.trans found
    rfl

/-- Two decoders over the same bytes find the same, however each stream cuts them up. -/
theorem agree (decodes : format.Decodes error receive holds) (lawful : format.Lawful)
    {others : EStateM (DecodeError ε) τ β} {otherHolds : τ → List UInt8 → Prop} {right : τ}
    (otherDecodes : format.Decodes error others otherHolds) (held : holds state unread)
    (otherHeld : otherHolds right unread) :
    ∃ rest, format.Parses error unread (attempt receive state).1 rest ∧
      Agree (fun left right => holds left rest ∧ otherHolds right rest)
        (attempt receive state) (attempt others right) := by
  obtain ⟨rest, parse, kept⟩ := decodes held
  obtain ⟨same, otherKept⟩ := otherDecodes.of_parses lawful parse otherHeld
  exact ⟨rest, parse, same.symm, kept, otherKept⟩

/-- As many rounds as there are bytes, and one for the end, decode the items of a whole stream. -/
theorem items (decodes : format.Decodes error receive holds) (lawful : format.Lawful)
    {items : List α} (valid : ∀ item ∈ items, format.Valid item) {rounds : Nat}
    (held : holds state (items.flatMap format.encode))
    (lasts : (items.flatMap format.encode).length < rounds) :
    Decoded holds format error items (decodeItems receive rounds state) := by
  obtain ⟨rounds, rfl⟩ := Nat.exists_eq_add_one_of_ne_zero (Nat.ne_zero_of_lt lasts)
  induction items generalizing state rounds with
  | nil =>
    obtain ⟨next, ran, kept⟩ := decodes.ended lawful held
    rw [decodeItems, attempt, ran]
    exact .ended kept
  | cons item items ih =>
    rw [List.forall_mem_cons] at valid
    rw [List.flatMap_cons] at held lasts
    obtain ⟨next, ran, kept⟩ := decodes.front lawful valid.1 held
    -- The item took at least a byte, so the rounds that are left outlast the bytes that are left.
    have positive := lawful.length_pos valid.1
    rw [List.length_append] at lasts
    obtain ⟨rounds, rfl⟩ := Nat.exists_eq_add_one_of_ne_zero (by omega : rounds ≠ 0)
    have others := ih valid.2 kept rounds (by omega)
    rw [decodeItems, attempt, ran]
    exact .item kept others

/-- A stream that holds the encodings of items decodes to these items and its end. -/
theorem stream {stream : ByteStream σ ε} {ending : StreamEnd ε}
    (decodes : format.Decodes error receive holds) (lawful : format.Lawful)
    (supplies : stream.Supplies ending holds) {items : List α}
    (valid : ∀ item ∈ items, format.Valid item) (held : holds state (items.flatMap format.encode)) :
    Decoded holds format error items (decodeStream stream receive state) :=
  decodes.items lawful valid held (Nat.lt_succ_of_le (supplies.pending held))

end Decodes

end WireFormat

end Bringup
