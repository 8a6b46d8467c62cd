import Bringup.Proofs.Wire.ProgramCodec
/-!
# Programs of any length on a stream

The answer with a program announces its length in one word, so that a program of 4 GiB or more is
announced as what is left of its length above a multiple of 2^32. A program is loaded as it was
served, or refused because it does not fit (`Faithful`), exactly if its length is within the word or
what is announced does not fit either (`faithful_iff_announced`). In all other cases the loader
takes a beginning of the program for all of it and the next four bytes of the program for the check
value (`loadInto_wrapped`), and these may agree (`zeroImage_accepted`).
-/

namespace Bringup.Program

variable {σ τ ε : Type} {stream : ByteStream σ ε} {holds : σ → List UInt8 → List UInt8 → Prop}
  {image memory seen rest written : List UInt8} {loading : Loading σ}

/-- The loader makes of an image what it should: a program of its length with its bytes if it fits,
and a refusal if it does not. -/
def Faithful (stream : ByteStream σ ε) (image : List UInt8) (loading : Loading σ) : Prop :=
  if image.length ≤ loading.memory.size then
    ∃ next, loadInto stream loading = .ok image.length next ∧
      next.memory.toList.take image.length = image
  else ∃ length capacity next, loadInto stream loading = .error (.tooLarge length capacity) next

/-- The length that is announced for an image. -/
def announced (image : List UInt8) : Nat := image.length % UInt32.size

/-- The word in front of the answer is the announced length. -/
theorem toNat_length_word (image : List UInt8) :
    (UInt32.ofNat image.length).toNat = announced image := UInt32.toNat_ofNat'

/-- A length within the word is announced as it is. -/
theorem announced_of_lt (short : image.length < UInt32.size) : announced image = image.length :=
  Nat.mod_eq_of_lt short

/-- The part of an image that is announced. -/
def announcedPart (image : List UInt8) : List UInt8 := image.take (announced image)

/-- The word behind the part of an image that is announced. -/
def wordBehind (image : List UInt8) : UInt32 :=
  LittleEndian.word32 ((image.drop (announced image)).take 4)

/-- The announced part has the announced length. -/
theorem length_announcedPart (image : List UInt8) :
    (announcedPart image).length = announced image :=
  List.length_take_of_le (Nat.mod_le _ _)

/-- The answer with an image whose length is not within the word begins like one with the announced
part as its image and the word behind that as its check value. -/
theorem encode_wrapped (long : UInt32.size ≤ image.length) :
    ∃ others, encode image = LittleEndian.bytes32 (UInt32.ofNat image.length) ++
      announcedPart image ++ LittleEndian.bytes32 (wordBehind image) ++ others := by
  have size : UInt32.size = 4294967296 := rfl
  have four : ((image.drop (announced image)).take 4).length = 4 := by
    rw [List.length_take, List.length_drop, announced, size]
    omega
  refine ⟨(image.drop (announced image)).drop 4 ++ LittleEndian.bytes32 (Crc32.checksum image), ?_⟩
  rw [wordBehind, LittleEndian.bytes32_word32 four, announcedPart, encode]
  simp only [List.append_assoc]
  rw [← List.append_assoc (List.take 4 _), List.take_append_drop,
    ← List.append_assoc (List.take _ image), List.take_append_drop]

section Served

variable (carries : stream.Carries holds)
  (stands : loading.Stands holds memory seen (encode image ++ rest) written)

include carries stands

/-- An image of which more is announced than fits is refused. -/
theorem loadInto_refused (large : memory.length < announced image) :
    ∃ length capacity next, loadInto stream loading = .error (.tooLarge length capacity) next := by
  rw [← toNat_length_word] at large
  rw [encode, List.append_assoc, List.append_assoc] at stands
  obtain ⟨next, refused, _⟩ := loadInto_tooLarge carries large stands
  exact ⟨_, _, next, refused⟩

/-- An image whose length is within the word is loaded or refused as it should be. -/
theorem faithful_of_short (short : image.length < UInt32.size) : Faithful stream image loading := by
  rw [Faithful, stands.size_eq]
  by_cases fits : image.length ≤ memory.length
  · obtain ⟨next, loaded, kept⟩ := loadInto_served carries image short fits stands
    rw [if_pos fits]
    refine ⟨next, loaded, ?_⟩
    rw [kept.2.1, List.take_left]
  · rw [if_neg fits]
    apply loadInto_refused carries stands
    rw [announced_of_lt short]
    exact Nat.lt_of_not_le fits

/-- An image of which more is announced than fits is refused as it should be. -/
theorem faithful_of_refused (large : memory.length < announced image) :
    Faithful stream image loading := by
  have most : announced image ≤ image.length := Nat.mod_le _ _
  rw [Faithful, stands.size_eq, if_neg (by omega)]
  exact loadInto_refused carries stands large

/-- Of an image whose length is not within the word, the announced part is taken for all of it, and
the word behind that for the check value. -/
theorem loadInto_wrapped (long : UInt32.size ≤ image.length)
    (fits : announced image ≤ memory.length) :
    ∃ next, loadInto stream loading =
      if Crc32.checksum (announcedPart image) = wordBehind image then .ok (announced image) next
      else .error (.wrongCrc (wordBehind image) (Crc32.checksum (announcedPart image))) next := by
  obtain ⟨others, split⟩ := encode_wrapped long
  have part := length_announcedPart image
  have length := (toNat_length_word image).trans part.symm
  -- To the loader this is the answer with a shorter image and whatever check value comes next.
  rw [split, List.append_assoc] at stands
  obtain ⟨next, _, ran⟩ := loadInto_checked carries _ length (by rwa [part]) stands
  rw [part] at ran
  exact ⟨next, ran⟩

/-- An image whose length is not within the word is not made what it should be, if what is announced
of it fits: it is taken for a shorter one or fails the check. -/
theorem not_faithful_of_wrapped (long : UInt32.size ≤ image.length)
    (fits : announced image ≤ memory.length) : ¬Faithful stream image loading := by
  obtain ⟨next, ran⟩ := loadInto_wrapped carries stands long fits
  have shorter : announced image < image.length :=
    Nat.lt_of_lt_of_le (Nat.mod_lt _ (by decide)) long
  intro faithful
  rw [Faithful] at faithful
  split at faithful
  · obtain ⟨_, loaded, _⟩ := faithful
    rw [ran] at loaded
    split at loaded
    · obtain ⟨same, _⟩ := EStateM.Result.ok.inj loaded
      omega
    · cases loaded
  · obtain ⟨_, _, _, refused⟩ := faithful
    rw [ran] at refused
    split at refused
    · cases refused
    · cases refused

end Served

/-- What the loader makes of a served program, for programs of any length and memories of any size.
The program that is served is written as its announced length, its bytes and its check value. From a
line that begins with this answer, whatever follows, the loader makes of the program what it should
exactly if the length of the program is below 2^32 or what is left of it above a multiple of 2^32 is
more than fits in memory. -/
theorem faithful_iff_announced {outward : τ → List UInt8 → List UInt8 → Prop}
    {sender : ByteStream τ ε} (sends : sender.Carries outward) (carries : stream.Carries holds)
    (image : List UInt8) {speaker : τ} {incoming : List UInt8}
    (silent : outward speaker incoming []) :
    ∃ spoken answer, serve sender image speaker = .ok () spoken ∧ outward spoken incoming answer ∧
      ∀ {memory seen rest written : List UInt8} {loading : Loading σ},
        loading.Stands holds memory seen (answer ++ rest) written →
        (Faithful stream image loading ↔
          image.length < UInt32.size ∨ memory.length < image.length % UInt32.size) := by
  obtain ⟨spoken, served, kept⟩ := serve_all sends image silent
  refine ⟨spoken, encode image, served, kept, ?_⟩
  intro memory seen rest written loading stands
  constructor
  · intro faithful
    by_cases short : image.length < UInt32.size
    · exact .inl short
    · right
      apply Nat.lt_of_not_le
      intro fits
      exact not_faithful_of_wrapped carries stands (Nat.le_of_not_lt short) fits faithful
  · rintro (short | large)
    · exact faithful_of_short carries stands short
    · exact faithful_of_refused carries stands large

/-- A loader on a scripted stream that moves three bytes at a time, with sixteen bytes of memory. -/
def smallLoader (answer : List UInt8) : Loading Scripted :=
  ⟨.ofInput { readLimit := some 3 } answer, Array.replicate 16 0, #[]⟩

/-- The loader stands before the answer and its memory. -/
theorem smallLoader_stands (answer : List UInt8) :
    (smallLoader answer).Stands Scripted.view.Holds (List.replicate 16 0) [] (answer ++ []) [] := by
  have sound : Scripted.CutsOnly { readLimit := some 3 } := by simp [Scripted.CutsOnly]
  rw [List.append_nil]
  exact ⟨⟨sound, rfl, rfl⟩, rfl, rfl⟩

/-- A program of four bytes is loaded as it was served. -/
theorem smallLoader_faithful :
    ∃ spoken, serve Scripted.stream [0x13, 0, 0, 0] (.ofInput {} []) = .ok () spoken ∧
      Faithful Scripted.stream [0x13, 0, 0, 0] (smallLoader spoken.output.toList) := by
  have silent := Scripted.view_holds_ofInput []
  obtain ⟨spoken, answer, served, ⟨_, _, rfl⟩, faithful⟩ :=
    faithful_iff_announced Scripted.carries Scripted.carries [0x13, 0, 0, 0] silent
  exact ⟨spoken, served, (faithful (smallLoader_stands _)).2 (.inl (by decide))⟩

/-- A program of 2^32 zero bytes is taken for a program of no bytes. -/
theorem zeroImage_accepted :
    (∃ next, loadInto Scripted.stream (smallLoader (encode (List.replicate UInt32.size 0))) =
      .ok 0 next) ∧
    ¬Faithful Scripted.stream (List.replicate UInt32.size 0)
      (smallLoader (encode (List.replicate UInt32.size 0))) := by
  have stands := smallLoader_stands (encode (List.replicate UInt32.size 0))
  have length : (List.replicate UInt32.size (0 : UInt8)).length = UInt32.size :=
    List.length_replicate
  have nothing : announced (List.replicate UInt32.size 0) = 0 := by
    rw [announced, length, Nat.mod_self]
  have long : UInt32.size ≤ (List.replicate UInt32.size (0 : UInt8)).length :=
    Nat.le_of_eq length.symm
  have fits : announced (List.replicate UInt32.size 0) ≤
      (List.replicate 16 (0 : UInt8)).length := by
    rw [nothing]
    exact Nat.zero_le _
  constructor
  · obtain ⟨next, ran⟩ := loadInto_wrapped Scripted.carries stands long fits
    have part : announcedPart (List.replicate UInt32.size 0) = [] := by
      rw [announcedPart, nothing, List.take_zero]
    have word : wordBehind (List.replicate UInt32.size 0) = LittleEndian.word32 [0, 0, 0, 0] := by
      rw [wordBehind, nothing, List.drop_zero, List.take_replicate]
      rfl
    have agrees : Crc32.checksum [] = LittleEndian.word32 [0, 0, 0, 0] := by decide
    rw [nothing, part, word, if_pos agrees] at ran
    exact ⟨next, ran⟩
  · exact not_faithful_of_wrapped Scripted.carries stands long fits

end Bringup.Program
