import Bringup.Proofs.Stream.Carrying
import Bringup.Wire.Program
/-!
# Programs on a stream

A program that is served is loaded as it was. The loader takes the bytes of one answer and no more,
checks them against the CRC-32 they were sent with, and leaves the image at the beginning of the
memory. So a loader that runs once for each answer reads the images back in order
(`loadImages_served`).
-/

namespace Bringup.Program

variable {σ ε : Type} {stream : ByteStream σ ε} {holds : σ → List UInt8 → List UInt8 → Prop}

/-- A program is served as its length, its image and its check value. -/
theorem serve_all (carries : stream.Carries holds) {state : σ} {unread written : List UInt8}
    (image : List UInt8) (held : holds state unread written) :
    ∃ next, serve stream image state = .ok () next ∧
      holds next unread (written ++ encode image) :=
  carries.writeAll_all (encode image) held

/-- What a loader stands before: the bytes on its link, its memory, and what it has noticed. -/
def Loading.Stands (holds : σ → List UInt8 → List UInt8 → Prop) (memory seen : List UInt8)
    (loading : Loading σ) (unread written : List UInt8) : Prop :=
  holds loading.link unread written ∧ loading.memory.toList = memory ∧ loading.seen.toList = seen

/-- The memory of a loader has the size of what it stands for. -/
theorem Loading.Stands.size_eq {memory seen unread written : List UInt8} {loading : Loading σ}
    (stands : loading.Stands holds memory seen unread written) :
    loading.memory.size = memory.length := by
  rw [← stands.2.1, Array.length_toList]

/-- An image byte that is kept replaces the byte at its place, and is noticed. -/
theorem Loading.Stands.stored {front old behind seen unread written : List UInt8} {gone : UInt8}
    {loading : Loading σ} (byte : UInt8)
    (stands : loading.Stands holds (front ++ gone :: old ++ behind) seen unread written) :
    Loading.Stands holds (front ++ [byte] ++ old ++ behind) (seen ++ [byte])
      ⟨loading.link, loading.memory.setIfInBounds front.length byte, loading.seen.push byte⟩
      unread written := by
  obtain ⟨held, same, noticed⟩ := stands
  refine ⟨held, ?_, ?_⟩
  · rw [Array.toList_setIfInBounds, same, List.append_assoc, List.append_assoc,
      List.set_append_right _ _ (Nat.le_refl _), Nat.sub_self, List.append_assoc]
    rfl
  · rw [Array.toList_push, noticed]

/-- The link of a loader carries bytes and leaves the memory alone. -/
theorem Loading.link_carries (carries : stream.Carries holds) (memory seen : List UInt8) :
    (Loading.linkPart.stream stream).Carries (Loading.Stands holds memory seen) := by
  have lawful (loading : Loading σ) (link : σ) :
      Loading.linkPart.get (Loading.linkPart.put loading link) = link := rfl
  exact carries.onPart lawful fun _ _ same => same

/-- An image is stored where it begins, and each byte goes into the check register. -/
theorem receiveImage_front {written : List UInt8}
    (fronts : ∀ memory seen, (Loading.linkPart.stream stream).Fronts fun loading unread =>
      Loading.Stands holds memory seen loading unread written)
    (image : List UInt8) {front old behind seen rest : List UInt8} {loading : Loading σ}
    (register : UInt32) (room : old.length = image.length)
    (stands : loading.Stands holds (front ++ old ++ behind) seen (image ++ rest) written) :
    ∃ next : Loading σ,
      receiveImage (Loading.linkPart.stream stream) Loading.store image.length front.length
        register loading = .ok (image.foldl Crc32.step register) next ∧
      next.Stands holds (front ++ image ++ behind) (seen ++ image) rest written := by
  induction image generalizing front old seen loading register with
  | nil =>
    have empty : old = [] := List.eq_nil_of_length_eq_zero room
    subst empty
    rw [List.append_nil seen]
    exact ⟨loading, rfl, stands⟩
  | cons byte image ih =>
    obtain _ | ⟨gone, old⟩ := old
    case nil => exact absurd room (Nat.succ_ne_zero _).symm
    obtain ⟨arrived, read, stands⟩ := (fronts _ _).byte stands
    obtain ⟨next, others, kept⟩ :=
      ih (Crc32.step register byte) (Nat.succ.inj room) (stands.stored byte)
    rw [List.length_append, List.length_singleton] at others
    refine ⟨next, (Action.bind_ok read _).trans ?_, ?_⟩
    · exact others
    · rw [List.append_assoc front, List.append_assoc seen] at kept
      exact kept

/-- A program that is announced as too long for the memory is not taken. -/
theorem loadInto_tooLarge (carries : stream.Carries holds) {length : UInt32}
    {memory seen rest written : List UInt8} {loading : Loading σ}
    (large : memory.length < length.toNat)
    (stands : loading.Stands holds memory seen (LittleEndian.bytes32 length ++ rest) written) :
    ∃ next : Loading σ,
      loadInto stream loading = .error (.tooLarge length.toNat memory.length) next ∧
      next.Stands holds memory seen rest written := by
  have size := stands.size_eq
  obtain ⟨next, head, stands⟩ := (Loading.link_carries carries _ _).fronts.word32 stands
  refine ⟨next, ?_, stands⟩
  have whole : load (Loading.linkPart.stream stream) memory.length Loading.store loading =
      .error (.tooLarge length.toNat memory.length) next := by
    rw [load, Action.bind_ok (Action.adapt_ok head _), if_pos large]
    rfl
  rw [← size] at whole ⊢
  exact whole

/-- The bytes of a program that is announced with a length that fits are stored to the beginning of
the memory, and then compared with the check value behind them. -/
theorem loadInto_checked (carries : stream.Carries holds) {length check : UInt32}
    (image : List UInt8) {memory seen rest written : List UInt8} {loading : Loading σ}
    (announced : length.toNat = image.length) (fits : image.length ≤ memory.length)
    (stands : loading.Stands holds memory seen
      (LittleEndian.bytes32 length ++ image ++ LittleEndian.bytes32 check ++ rest) written) :
    ∃ next : Loading σ,
      next.Stands holds (image ++ memory.drop image.length) (seen ++ image) rest written ∧
      loadInto stream loading =
        if Crc32.checksum image = check then .ok image.length next
        else .error (.wrongCrc check (Crc32.checksum image)) next := by
  have size := stands.size_eq
  have halves : memory = [] ++ memory.take image.length ++ memory.drop image.length := by
    rw [List.nil_append, List.take_append_drop]
  rw [List.append_assoc, List.append_assoc] at stands
  obtain ⟨begun, head, stands⟩ := (Loading.link_carries carries _ _).fronts.word32 stands
  rw [halves] at stands
  have room : (memory.take image.length).length = image.length := by
    rw [List.length_take]
    omega
  obtain ⟨stored, body, stands⟩ := receiveImage_front
    (fun memory seen => (Loading.link_carries carries memory seen).fronts) image Crc32.start room
    stands
  obtain ⟨next, tail, stands⟩ := (Loading.link_carries carries _ _).fronts.word32 stands
  refine ⟨next, by rwa [List.nil_append] at stands, ?_⟩
  have sum : Crc32.finish (image.foldl Crc32.step Crc32.start) = Crc32.checksum image := rfl
  have whole : load (Loading.linkPart.stream stream) memory.length Loading.store loading =
      if Crc32.checksum image = check then .ok image.length next
      else .error (.wrongCrc check (Crc32.checksum image)) next := by
    rw [load, Action.bind_ok (Action.adapt_ok head _), announced, if_neg (by omega)]
    refine (Action.bind_ok (Action.adapt_ok body _) _).trans ?_
    refine (Action.bind_ok (Action.adapt_ok tail _) _).trans ?_
    rw [sum]
    by_cases agrees : Crc32.checksum image = check
    · rw [if_pos agrees, if_pos agrees]
      rfl
    · rw [if_neg agrees, if_neg agrees]
      rfl
  rw [← size] at whole
  exact whole

/-- A program that was served and fits is loaded to the beginning of the memory. What follows its
answer on the link is left. -/
theorem loadInto_served (carries : stream.Carries holds) (image : List UInt8)
    {memory seen rest written : List UInt8} {loading : Loading σ}
    (short : image.length < UInt32.size) (fits : image.length ≤ memory.length)
    (stands : loading.Stands holds memory seen (encode image ++ rest) written) :
    ∃ next : Loading σ, loadInto stream loading = .ok image.length next ∧
      next.Stands holds (image ++ memory.drop image.length) (seen ++ image) rest written := by
  have length : (UInt32.ofNat image.length).toNat = image.length := UInt32.toNat_ofNat_of_lt short
  obtain ⟨next, stands, ran⟩ := loadInto_checked carries image length fits stands
  rw [if_pos rfl] at ran
  exact ⟨next, ran, stands⟩

/-- Loads a program and takes its image from the memory. -/
def loadImage (stream : ByteStream σ ε) : EStateM (LoadError ε) (Loading σ) (List UInt8) := do
  let length ← loadInto stream
  pure ((← get).memory.toList.take length)

/-- Loads programs one after the other. -/
def loadImages (stream : ByteStream σ ε) :
    (count : Nat) → EStateM (LoadError ε) (Loading σ) (List (List UInt8))
  | 0 => pure []
  | count + 1 => do
    let image ← loadImage stream
    let images ← loadImages stream count
    pure (image :: images)

/-- Programs that were served one after the other are loaded in order, and nothing is left over. -/
theorem loadImages_served (carries : stream.Carries holds) (images : List (List UInt8))
    {memory seen written : List UInt8} {loading : Loading σ}
    (short : ∀ image ∈ images, image.length < UInt32.size)
    (fits : ∀ image ∈ images, image.length ≤ memory.length)
    (stands : loading.Stands holds memory seen (images.flatMap encode) written) :
    ∃ next : Loading σ, loadImages stream images.length loading = .ok images next ∧
      holds next.link [] written ∧ next.seen.toList = seen ++ images.flatten := by
  induction images generalizing memory seen loading with
  | nil => exact ⟨loading, rfl, stands.1, by rw [stands.2.2]; exact (List.append_nil _).symm⟩
  | cons image images ih =>
    have room := fits image List.mem_cons_self
    obtain ⟨middle, first, kept⟩ :=
      loadInto_served carries image (short image List.mem_cons_self) room stands
    have same : (image ++ memory.drop image.length).length = memory.length := by
      rw [List.length_append, List.length_drop]
      omega
    obtain ⟨next, others, held, noticed⟩ := ih
      (fun other among => short other (List.mem_cons_of_mem _ among))
      (fun other among => same ▸ fits other (List.mem_cons_of_mem _ among)) kept
    have taken : middle.memory.toList.take image.length = image := by
      rw [kept.2.1, List.take_left]
    have image_loaded : loadImage stream loading = .ok image middle := by
      refine (Action.bind_ok first _).trans ?_
      show EStateM.Result.ok (middle.memory.toList.take image.length) middle = _
      rw [taken]
    refine ⟨next, ?_, held, by rw [noticed, List.flatten_cons, List.append_assoc]⟩
    rw [List.length_cons, loadImages, Action.bind_ok image_loaded, Action.bind_ok others]
    rfl

end Bringup.Program
