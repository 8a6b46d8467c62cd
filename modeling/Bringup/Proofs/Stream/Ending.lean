import Bringup.Proofs.Stream.Carrying
/-!
# Streams that end

A stream supplies bytes up to an end. Before the end each read gives at least a byte and as many
more as the stream likes; at the end reads either give nothing or fail, always in the same way
(`StreamEnd`). In the same manner a stream accepts bytes up to a capacity, or without end. Where the
two ends lie and how they look are the bounds of the stream; how transfers are cut up before them is
left open (`Bounded`).

Main statements: what is read, what is left, and the error at the end depend on the bytes alone
(`Supplies.readField_cases`, `Supplies.readCString_cases`), and so does what is written
(`Accepts.writeAll_cases`).
-/

namespace Bringup

/-- What a transfer meets where a stream ends. -/
inductive StreamEnd (ε : Type) where
  /-- No more bytes are moved. -/
  | closed
  /-- The stream fails. -/
  | failing (error : ε)
  deriving DecidableEq, Repr

namespace StreamEnd

variable {σ ε α : Type}

/-- The error of a transfer that is cut short there. -/
def error : StreamEnd ε → TransferError ε
  | .closed => .unexpectedEnd
  | .failing error => .device error

/-- What a read or a write answers there, if `nothing` says that no byte was moved. -/
def answer (nothing : α) (state : σ) : StreamEnd ε → EStateM.Result ε σ α
  | .closed => .ok nothing state
  | .failing error => .error error state

end StreamEnd

/-- How many of `count` more bytes an output takes that has this length and this capacity. -/
def roomFor (capacity : Option Nat) (length count : Nat) : Nat :=
  match capacity with
  | none => count
  | some most => min count (most - length)

/-- Room that is used up by some bytes is left for the others. -/
theorem roomFor_add {capacity : Option Nat} {length taken count : Nat}
    (fits : taken ≤ roomFor capacity length (taken + count)) :
    roomFor capacity length (taken + count) = taken + roomFor capacity (length + taken) count := by
  cases capacity with
  | none => rfl
  | some most =>
    simp only [roomFor] at fits ⊢
    omega

/-- There is never room for more bytes than there are. -/
theorem roomFor_le (capacity : Option Nat) (length count : Nat) :
    roomFor capacity length count ≤ count := by
  cases capacity with
  | none => exact Nat.le_refl count
  | some most => exact Nat.min_le_left count _

/-- An action that ends a part of a state as the stream ends, ends the whole so. -/
theorem Part.run_answer {ρ σ ε α : Type} {place : Part ρ σ} {action : EStateM ε σ α} {whole : ρ}
    {ending : StreamEnd ε} {nothing : α} {next : σ}
    (step : action (place.get whole) = ending.answer nothing next) :
    place.run action whole = ending.answer nothing (place.put whole next) := by
  cases ending with
  | closed => exact run_ok step
  | failing error => exact run_error step

namespace ByteStream

open Bringup.Action

variable {σ ε : Type}

/-- In every state that holds bytes to be read, reads take beginnings of them up to the end. -/
structure Supplies (stream : ByteStream σ ε) (ending : StreamEnd ε)
    (holds : σ → List UInt8 → Prop) : Prop where
  /-- A read takes at least a byte of those that are left. -/
  read : ∀ {state unread want}, holds state unread → unread ≠ [] → 0 < want →
    ∃ taken rest next, unread = taken ++ rest ∧ taken ≠ [] ∧ taken.length ≤ want ∧
      stream.read want state = .ok taken next ∧ holds next rest
  /-- Where no byte is left, the stream has ended. -/
  ended : ∀ {state want}, holds state [] → 0 < want →
    ∃ next, stream.read want state = ending.answer [] next ∧ holds next []
  /-- The bound on what can be read is one. -/
  pending : ∀ {state unread}, holds state unread → unread.length ≤ stream.pending state

/-- In every state that holds written bytes, writes add beginnings of what they are given as long
as there is room. -/
structure Accepts (stream : ByteStream σ ε) (capacity : Option Nat) (ending : StreamEnd ε)
    (holds : σ → List UInt8 → Prop) : Prop where
  /-- A write adds at least a byte where there is room for one. -/
  write : ∀ {state written bytes}, holds state written →
    0 < roomFor capacity written.length bytes.length →
    ∃ taken rest next, bytes = taken ++ rest ∧ taken ≠ [] ∧
      taken.length ≤ roomFor capacity written.length bytes.length ∧
      stream.write bytes state = .ok taken.length next ∧ holds next (written ++ taken)
  /-- Where there is no room, the stream has ended. -/
  full : ∀ {state written bytes}, holds state written → bytes ≠ [] →
    roomFor capacity written.length bytes.length = 0 →
    ∃ next, stream.write bytes state = ending.answer 0 next ∧ holds next written

namespace Supplies

variable {stream : ByteStream σ ε} {ending : StreamEnd ε} {holds : σ → List UInt8 → Prop}
  {state : σ} {unread : List UInt8}

/-- A round of reading keeps what a read brought and goes on for the rest. -/
theorem gather_round {rounds want : Nat} {taken : List UInt8} {next : σ}
    (step : stream.read want state = .ok taken next) (present : taken ≠ []) (wanted : want ≠ 0) :
    stream.gather (rounds + 1) want state =
      (do
        let rest ← EStateM.adaptExcept (Shortfall.after taken)
          (stream.gather rounds (want - taken.length))
        pure (taken ++ rest) : EStateM (Shortfall ε) σ (List UInt8)) next := by
  have full : taken.isEmpty = false := List.isEmpty_eq_false_iff.2 present
  rw [gather, if_neg wanted, bind_ok (adapt_ok step _), full]
  rfl

/-- Bytes that are all there are read, and what follows them is left. -/
theorem gather_front (supplies : stream.Supplies ending holds) {rounds : Nat}
    (front : List UInt8) {rest : List UInt8} (held : holds state (front ++ rest))
    (lasts : front.length ≤ rounds) :
    ∃ next, stream.gather rounds front.length state = .ok front next ∧ holds next rest := by
  induction rounds generalizing state front with
  | zero =>
    have empty : front = [] := List.eq_nil_of_length_eq_zero (Nat.le_zero.1 lasts)
    subst empty
    exact ⟨state, rfl, held⟩
  | succ rounds ih =>
    by_cases empty : front = []
    · subst empty
      exact ⟨state, rfl, held⟩
    have wanted : 0 < front.length := List.length_pos_iff.2 empty
    have present : front ++ rest ≠ [] := List.append_ne_nil_of_left_ne_nil empty rest
    obtain ⟨taken, left, middle, split, least, most, step, kept⟩ :=
      supplies.read held present wanted
    have least_length : 0 < taken.length := List.length_pos_iff.2 least
    -- What the read took is a beginning of what was wanted.
    obtain ⟨others, rfl⟩ : ∃ others, front = taken ++ others := by
      have begins : taken <+: front ++ rest := ⟨left, split.symm⟩
      obtain ⟨others, whole⟩ := List.prefix_of_prefix_length_le begins (List.prefix_append _ _) most
      exact ⟨others, whole.symm⟩
    rw [List.append_assoc, List.append_cancel_left_eq] at split
    rw [List.length_append] at lasts
    obtain ⟨next, ran, remains⟩ := ih others (split ▸ kept) (by omega)
    refine ⟨next, ?_, remains⟩
    have length : (taken ++ others).length - taken.length = others.length := by
      rw [List.length_append]
      omega
    rw [gather_round step least (Nat.ne_of_gt wanted), length, bind_ok (adapt_ok ran _)]
    rfl

/-- A field in front of the rest is read and the rest is left. -/
theorem fronts (supplies : stream.Supplies ending holds) : stream.Fronts holds where
  field := by
    intro state field rest held
    obtain ⟨next, ran, kept⟩ := supplies.gather_front field held (Nat.le_refl _)
    exact ⟨next, adapt_ok ran _, kept⟩

/-- Where fewer bytes are left than are wanted, all of them are taken, and the transfer fails as the
stream ends. -/
theorem gather_short (supplies : stream.Supplies ending holds) {rounds want : Nat}
    (held : holds state unread) (short : unread.length < want) (lasts : want ≤ rounds) :
    ∃ next, stream.gather rounds want state = .error ⟨unread, ending.error⟩ next ∧
      holds next [] := by
  induction rounds generalizing state unread want with
  | zero => omega
  | succ rounds ih =>
    have wanted : want ≠ 0 := by omega
    by_cases empty : unread = []
    · subst empty
      obtain ⟨next, step, kept⟩ := supplies.ended held (Nat.pos_of_ne_zero wanted)
      refine ⟨next, ?_, kept⟩
      rw [gather, if_neg wanted]
      cases ending with
      | closed =>
        rw [bind_ok (adapt_ok step _)]
        rfl
      | failing error => rw [bind_error (adapt_error step _), StreamEnd.error]
    obtain ⟨taken, left, middle, rfl, least, most, step, kept⟩ :=
      supplies.read held empty (Nat.pos_of_ne_zero wanted)
    have least_length : 0 < taken.length := List.length_pos_iff.2 least
    rw [List.length_append] at short
    have shorter : left.length < want - taken.length := by omega
    obtain ⟨next, ran, ended⟩ := ih kept shorter (by omega)
    refine ⟨next, ?_, ended⟩
    rw [gather_round step least wanted, bind_error (adapt_error ran _), Shortfall.after]

/-- A field is the bytes in front, or there are too few of them and the transfer fails. -/
theorem readField_cases (supplies : stream.Supplies ending holds) (count : Nat)
    (held : holds state unread) :
    (∃ field rest next, unread = field ++ rest ∧ field.length = count ∧
      stream.readField count state = .ok field next ∧ holds next rest) ∨
    (unread.length < count ∧ ∃ next,
      stream.readField count state = .error ending.error next ∧ holds next []) := by
  by_cases enough : count ≤ unread.length
  · left
    have length : (unread.take count).length = count := by
      rw [List.length_take]
      omega
    have split : unread = unread.take count ++ unread.drop count :=
      (List.take_append_drop count unread).symm
    rw [split] at held
    obtain ⟨next, ran, kept⟩ := supplies.gather_front _ held (Nat.le_refl _)
    rw [length] at ran
    exact ⟨_, _, next, split, length, adapt_ok ran _, kept⟩
  · right
    have short : unread.length < count := Nat.lt_of_not_le enough
    obtain ⟨next, ran, kept⟩ := supplies.gather_short held short (Nat.le_refl count)
    exact ⟨short, next, adapt_error ran _, kept⟩

/-- A byte is the one in front, or none is left and the transfer fails. -/
theorem readByte_cases (supplies : stream.Supplies ending holds) (held : holds state unread) :
    (∃ byte rest next, unread = byte :: rest ∧ stream.readByte state = .ok byte next ∧
      holds next rest) ∨
    (unread = [] ∧ ∃ next, stream.readByte state = .error ending.error next ∧ holds next []) := by
  obtain ⟨field, rest, next, rfl, length, ran, kept⟩ | ⟨short, next, ran, kept⟩ :=
    supplies.readField_cases 1 held
  · obtain ⟨byte, rfl⟩ := List.length_eq_one_iff.1 length
    exact .inl ⟨byte, rest, next, rfl, map_ok ran _, kept⟩
  · have empty : unread = [] := List.eq_nil_of_length_eq_zero (by omega)
    exact .inr ⟨empty, next, map_error ran _, kept⟩

/-- A 32-bit word is made of the four bytes in front, or there are too few of them and the transfer
fails. -/
theorem readWord32_cases (supplies : stream.Supplies ending holds) (held : holds state unread) :
    (∃ word rest next, unread = LittleEndian.bytes32 word ++ rest ∧
      stream.readWord32 state = .ok word next ∧ holds next rest) ∨
    (unread.length < 4 ∧ ∃ next,
      stream.readWord32 state = .error ending.error next ∧ holds next []) := by
  obtain ⟨field, rest, next, rfl, length, ran, kept⟩ | ⟨short, next, ran, kept⟩ :=
    supplies.readField_cases 4 held
  · have bytes := LittleEndian.bytes32_word32 length
    exact .inl ⟨_, rest, next, by rw [bytes], map_ok ran _, kept⟩
  · exact .inr ⟨short, next, map_error ran _, kept⟩

/-- A byte that is not zero goes in front of the name behind it, if there is capacity for it. -/
theorem gatherCString_ok {rounds capacity : Nat} {byte : UInt8} {name : List UInt8} {next last : σ}
    (ran : stream.readByte state = .ok byte next) (nonzero : byte ≠ 0)
    (others : stream.gatherCString rounds (capacity - 1) next =
      .ok (name.take (capacity - 1)) last) :
    stream.gatherCString (rounds + 1) capacity state = .ok ((byte :: name).take capacity) last := by
  rw [gatherCString, bind_ok (adapt_ok ran _), if_neg nonzero]
  cases capacity with
  | zero => exact others
  | succ capacity =>
    rw [if_neg (Nat.succ_ne_zero capacity), bind_ok (adapt_ok others _)]
    rfl

/-- A byte that is not zero goes in front of the bytes that arrived before a failure. -/
theorem gatherCString_error {rounds capacity : Nat} {byte : UInt8} {arrived : List UInt8}
    {error : TransferError ε} {next last : σ} (ran : stream.readByte state = .ok byte next)
    (nonzero : byte ≠ 0)
    (others : stream.gatherCString rounds (capacity - 1) next =
      .error ⟨arrived.take (capacity - 1), error⟩ last) :
    stream.gatherCString (rounds + 1) capacity state =
      .error ⟨(byte :: arrived).take capacity, error⟩ last := by
  rw [gatherCString, bind_ok (adapt_ok ran _), if_neg nonzero]
  cases capacity with
  | zero => exact others
  | succ capacity =>
    rw [if_neg (Nat.succ_ne_zero capacity), bind_error (adapt_error others _)]
    rfl

/-- A name before a zero byte is read up to it, as far as there is capacity. -/
theorem gatherCString_front (supplies : stream.Supplies ending holds) {rounds : Nat}
    (capacity : Nat) (name : List UInt8) {rest : List UInt8} (noZero : 0 ∉ name)
    (held : holds state (name ++ 0 :: rest)) (lasts : name.length < rounds) :
    ∃ next, stream.gatherCString rounds capacity state = .ok (name.take capacity) next ∧
      holds next rest := by
  obtain ⟨rounds, rfl⟩ := Nat.exists_eq_add_one_of_ne_zero (Nat.ne_zero_of_lt lasts)
  induction name generalizing state rounds capacity with
  | nil =>
    obtain ⟨byte, left, next, split, zero, kept⟩ | ⟨empty, _⟩ := supplies.readByte_cases held
    · obtain ⟨rfl, rfl⟩ := List.cons.inj split
      refine ⟨next, ?_, kept⟩
      rw [gatherCString, bind_ok (adapt_ok zero _), List.take_nil]
      rfl
    · cases empty
  | cons first name ih =>
    rw [List.length_cons] at lasts
    rw [List.mem_cons, not_or] at noZero
    obtain ⟨rounds, rfl⟩ := Nat.exists_eq_add_one_of_ne_zero (by omega : rounds ≠ 0)
    obtain ⟨byte, left, middle, split, ran, kept⟩ | ⟨empty, _⟩ := supplies.readByte_cases held
    · obtain ⟨rfl, rfl⟩ := List.cons.inj split
      have fewer : name.length < rounds + 1 := by omega
      obtain ⟨next, others, kept⟩ := ih (capacity - 1) noZero.2 kept rounds fewer
      exact ⟨next, gatherCString_ok ran (Ne.symm noZero.1) others, kept⟩
    · cases empty

/-- A name without an end takes all bytes, and the transfer fails. -/
theorem gatherCString_short (supplies : stream.Supplies ending holds) {rounds : Nat}
    (capacity : Nat) (noZero : 0 ∉ unread) (held : holds state unread)
    (lasts : unread.length < rounds) :
    ∃ next, stream.gatherCString rounds capacity state =
        .error ⟨unread.take capacity, ending.error⟩ next ∧
      holds next [] := by
  obtain ⟨rounds, rfl⟩ := Nat.exists_eq_add_one_of_ne_zero (Nat.ne_zero_of_lt lasts)
  induction unread generalizing state rounds capacity with
  | nil =>
    obtain ⟨_, _, _, split, _⟩ | ⟨_, next, ran, kept⟩ := supplies.readByte_cases held
    · cases split
    · refine ⟨next, ?_, kept⟩
      rw [gatherCString, bind_error (adapt_error ran _), List.take_nil]
  | cons first unread ih =>
    rw [List.length_cons] at lasts
    rw [List.mem_cons, not_or] at noZero
    obtain ⟨rounds, rfl⟩ := Nat.exists_eq_add_one_of_ne_zero (by omega : rounds ≠ 0)
    obtain ⟨byte, left, middle, split, ran, kept⟩ | ⟨empty, _⟩ := supplies.readByte_cases held
    · obtain ⟨rfl, rfl⟩ := List.cons.inj split
      have fewer : unread.length < rounds + 1 := by omega
      obtain ⟨next, others, kept⟩ := ih (capacity - 1) noZero.2 kept rounds fewer
      exact ⟨next, gatherCString_error ran (Ne.symm noZero.1) others, kept⟩
    · cases empty

/-- A name is the bytes before the first zero byte, as many as there is capacity for, or there is no
zero byte and the transfer fails. -/
theorem readCString_cases (supplies : stream.Supplies ending holds) (capacity : Nat)
    (held : holds state unread) :
    (∃ name rest next, unread = name ++ 0 :: rest ∧ 0 ∉ name ∧
      stream.readCString capacity state = .ok (name.take capacity) next ∧ holds next rest) ∨
    (0 ∉ unread ∧ ∃ next, stream.readCString capacity state =
      .error ⟨unread.take capacity, ending.error⟩ next ∧ holds next []) := by
  have pending := supplies.pending held
  by_cases zero : 0 ∈ unread
  · left
    obtain ⟨name, rest, rfl, noZero⟩ := List.eq_append_cons_of_mem zero
    rw [List.length_append, List.length_cons] at pending
    obtain ⟨next, ran, kept⟩ := supplies.gatherCString_front capacity name noZero held
      (by omega : name.length < stream.pending state + 1)
    exact ⟨name, rest, next, rfl, noZero, ran, kept⟩
  · right
    obtain ⟨next, ran, kept⟩ := supplies.gatherCString_short capacity zero held
      (by omega : unread.length < stream.pending state + 1)
    exact ⟨zero, next, ran, kept⟩

/-- A stream that supplies bytes supplies them as a part of a larger state, whatever else holds of
the rest of that state. -/
theorem onPart {ρ : Type} {place : Part ρ σ} (supplies : stream.Supplies ending holds)
    (lawful : ∀ whole part, place.get (place.put whole part) = part) {frame : ρ → Prop}
    (framed : ∀ whole part, frame whole → frame (place.put whole part)) :
    (place.stream stream).Supplies ending
      fun whole unread => holds (place.get whole) unread ∧ frame whole where
  read := by
    rintro whole unread want ⟨held, others⟩ present wanted
    obtain ⟨taken, rest, next, split, least, most, step, kept⟩ := supplies.read held present wanted
    refine ⟨taken, rest, place.put whole next, split, least, most, Part.run_ok step, ?_,
      framed _ _ others⟩
    rwa [lawful]
  ended := by
    rintro whole want ⟨held, others⟩ wanted
    obtain ⟨next, step, kept⟩ := supplies.ended held wanted
    refine ⟨place.put whole next, Part.run_answer step, ?_, framed _ _ others⟩
    rwa [lawful]
  pending := by
    rintro whole unread ⟨held, _⟩
    exact supplies.pending held

end Supplies

namespace Accepts

variable {stream : ByteStream σ ε} {capacity : Option Nat} {ending : StreamEnd ε}
  {holds : σ → List UInt8 → Prop} {state : σ} {written : List UInt8}

/-- As many bytes are written as there is room for; if that is not all, the transfer fails. -/
theorem putAll_cases (accepts : stream.Accepts capacity ending holds) {rounds : Nat}
    (bytes : List UInt8) (held : holds state written) (lasts : bytes.length ≤ rounds) :
    (roomFor capacity written.length bytes.length = bytes.length ∧ ∃ next,
      stream.putAll rounds bytes state = .ok () next ∧ holds next (written ++ bytes)) ∨
    (roomFor capacity written.length bytes.length < bytes.length ∧ ∃ next,
      stream.putAll rounds bytes state = .error ending.error next ∧
      holds next (written ++ bytes.take (roomFor capacity written.length bytes.length))) := by
  induction rounds generalizing state written bytes with
  | zero =>
    have empty : bytes = [] := List.eq_nil_of_length_eq_zero (Nat.le_zero.1 lasts)
    subst empty
    have room := roomFor_le capacity written.length 0
    exact .inl ⟨Nat.le_zero.1 room, state, rfl, by rwa [List.append_nil]⟩
  | succ rounds ih =>
    by_cases empty : bytes = []
    · subst empty
      have room := roomFor_le capacity written.length 0
      exact .inl ⟨Nat.le_zero.1 room, state, rfl, by rwa [List.append_nil]⟩
    have present : ¬bytes.isEmpty = true := by
      rw [List.isEmpty_iff]
      exact empty
    have positive : 0 < bytes.length := List.length_pos_iff.2 empty
    by_cases room : roomFor capacity written.length bytes.length = 0
    · right
      obtain ⟨next, step, kept⟩ := accepts.full held empty room
      refine ⟨by omega, next, ?_, by rwa [room, List.take_zero, List.append_nil]⟩
      rw [putAll, if_neg present]
      cases ending with
      | closed => exact bind_ok (adapt_ok step _) _
      | failing error => exact bind_error (adapt_error step _) _
    obtain ⟨taken, rest, middle, rfl, least, most, step, kept⟩ :=
      accepts.write held (Nat.pos_of_ne_zero room)
    -- Room that these bytes take is missing for the rest, so that the end lies where it lay.
    have least_length : 0 < taken.length := List.length_pos_iff.2 least
    rw [List.length_append] at lasts most
    have left := roomFor_add most
    have round : stream.putAll (rounds + 1) (taken ++ rest) state =
        stream.putAll rounds rest middle := by
      rw [putAll, if_neg present, bind_ok (adapt_ok step _), if_neg (by omega : taken.length ≠ 0),
        List.drop_left]
    rw [round, List.length_append, left]
    obtain ⟨enough, next, ran, remains⟩ | ⟨short, next, ran, remains⟩ :=
      ih rest kept (by omega)
    · rw [List.length_append] at enough
      rw [List.append_assoc] at remains
      exact .inl ⟨by omega, next, ran, remains⟩
    · rw [List.length_append] at short remains
      rw [List.append_assoc] at remains
      refine .inr ⟨by omega, next, ran, ?_⟩
      rwa [List.take_length_add_append]

/-- All bytes are written if there is room for them; if not, the output is filled up, and the
transfer fails. -/
theorem writeAll_cases (accepts : stream.Accepts capacity ending holds) (bytes : List UInt8)
    (held : holds state written) :
    (roomFor capacity written.length bytes.length = bytes.length ∧ ∃ next,
      stream.writeAll bytes state = .ok () next ∧ holds next (written ++ bytes)) ∨
    (roomFor capacity written.length bytes.length < bytes.length ∧ ∃ next,
      stream.writeAll bytes state = .error ending.error next ∧
      holds next (written ++ bytes.take (roomFor capacity written.length bytes.length))) :=
  accepts.putAll_cases bytes held (Nat.le_refl _)

/-- A stream that accepts bytes accepts them as a part of a larger state, whatever else holds of the
rest of that state. -/
theorem onPart {ρ : Type} {place : Part ρ σ} (accepts : stream.Accepts capacity ending holds)
    (lawful : ∀ whole part, place.get (place.put whole part) = part) {frame : ρ → Prop}
    (framed : ∀ whole part, frame whole → frame (place.put whole part)) :
    (place.stream stream).Accepts capacity ending
      fun whole written => holds (place.get whole) written ∧ frame whole where
  write := by
    rintro whole written bytes ⟨held, others⟩ room
    obtain ⟨taken, rest, next, split, least, most, step, kept⟩ := accepts.write held room
    refine ⟨taken, rest, place.put whole next, split, least, most, Part.run_ok step, ?_,
      framed _ _ others⟩
    rwa [lawful]
  full := by
    rintro whole written bytes ⟨held, others⟩ present room
    obtain ⟨next, step, kept⟩ := accepts.full held present room
    refine ⟨place.put whole next, Part.run_answer step, ?_, framed _ _ others⟩
    rwa [lawful]

end Accepts

end ByteStream

/-- Where a stream ends and how. -/
structure Bounds (ε : Type) where
  /-- What a read meets where no byte is left. -/
  inputEnd : StreamEnd ε
  /-- The length the output never passes. -/
  capacity : Option Nat
  /-- What a write meets where there is no room. -/
  outputEnd : StreamEnd ε

namespace ByteStream

variable {σ ε : Type}

/-- A stream that cuts transfers up as it likes, but never before its bounds. -/
structure Bounded (stream : ByteStream σ ε) (bounds : Bounds ε)
    (holds : σ → List UInt8 → List UInt8 → Prop) : Prop where
  /-- Reads leave alone what was written. -/
  supplies : ∀ written,
    stream.Supplies bounds.inputEnd fun state unread => holds state unread written
  /-- Writes leave alone what is unread. -/
  accepts : ∀ unread,
    stream.Accepts bounds.capacity bounds.outputEnd fun state written => holds state unread written

/-- A part of a larger state has the bounds that it has alone, whatever else holds of the rest of
that state. -/
theorem Bounded.onPart {ρ : Type} {stream : ByteStream σ ε} {bounds : Bounds ε}
    {holds : σ → List UInt8 → List UInt8 → Prop} {place : Part ρ σ}
    (bounded : stream.Bounded bounds holds)
    (lawful : ∀ whole part, place.get (place.put whole part) = part) {frame : ρ → Prop}
    (framed : ∀ whole part, frame whole → frame (place.put whole part)) :
    (place.stream stream).Bounded bounds
      fun whole unread written => holds (place.get whole) unread written ∧ frame whole where
  supplies written := (bounded.supplies written).onPart lawful framed
  accepts unread := (bounded.accepts unread).onPart lawful framed

end ByteStream

end Bringup
