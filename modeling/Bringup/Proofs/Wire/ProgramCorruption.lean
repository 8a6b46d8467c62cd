import Bringup.Proofs.Wire.ProgramLength
import Bringup.Proofs.Word.CheckValue
/-!
# Programs of which a byte is altered

A program whose image arrives with another byte in one place is refused: the check value that was
sent is that of the image before, and no other byte in that place has it
(`Crc32.checksum_set_eq_iff`). Main statement: the loader says what it expected and what it found,
whatever the image, the place and the byte (`altered_refused`).
-/

namespace Bringup.Program

variable {σ τ ε : Type} {stream : ByteStream σ ε} {holds : σ → List UInt8 → List UInt8 → Prop}

/-- An answer in which a byte of the image is replaced is the length and the check value of the
image around the image with that byte. -/
theorem encode_set {image : List UInt8} {position : Nat} (inside : position < image.length)
    (byte : UInt8) :
    (encode image).set (4 + position) byte =
      LittleEndian.bytes32 (UInt32.ofNat image.length) ++ image.set position byte ++
        LittleEndian.bytes32 (Crc32.checksum image) := by
  have length : (LittleEndian.bytes32 (UInt32.ofNat image.length)).length = 4 :=
    LittleEndian.length_bytes32 _
  have before : 4 + position <
      (LittleEndian.bytes32 (UInt32.ofNat image.length) ++ image).length := by
    rw [List.length_append, length]
    omega
  rw [encode, List.set_append_left _ _ before, List.set_append_right _ _ (by omega), length,
    Nat.add_sub_cancel_left]

/-- A program whose image is altered in one byte on its way is refused, for every image with a
length below 2^32 that fits in memory, every place in it and every other byte in that place. The
loader names the check value of the image as it was served and that of the image as it arrived. It
has then taken the whole answer and left what follows it. -/
theorem altered_refused {outward : τ → List UInt8 → List UInt8 → Prop} {sender : ByteStream τ ε}
    (sends : sender.Carries outward) (carries : stream.Carries holds) {image : List UInt8}
    (short : image.length < UInt32.size) {position : Nat} (inside : position < image.length)
    {byte : UInt8} (other : byte ≠ image[position]) {speaker : τ} {incoming : List UInt8}
    (silent : outward speaker incoming []) :
    ∃ spoken, serve sender image speaker = .ok () spoken ∧ outward spoken incoming (encode image) ∧
      ∀ {memory seen rest written : List UInt8} {loading : Loading σ},
        image.length ≤ memory.length →
        loading.Stands holds memory seen ((encode image).set (4 + position) byte ++ rest) written →
        ∃ next : Loading σ,
          loadInto stream loading = .error (.wrongCrc (Crc32.checksum image)
            (Crc32.checksum (image.set position byte))) next ∧
          next.Stands holds (image.set position byte ++ memory.drop image.length)
            (seen ++ image.set position byte) rest written := by
  obtain ⟨spoken, served, kept⟩ := serve_all sends image silent
  refine ⟨spoken, served, kept, ?_⟩
  intro memory seen rest written loading fits stands
  have size : (image.set position byte).length = image.length := List.length_set
  have announced : (UInt32.ofNat image.length).toNat = (image.set position byte).length := by
    rw [size]
    exact UInt32.toNat_ofNat_of_lt short
  have room : (image.set position byte).length ≤ memory.length := by rwa [size]
  have differs : Crc32.checksum (image.set position byte) ≠ Crc32.checksum image := by
    intro same
    exact other ((Crc32.checksum_set_eq_iff inside byte).1 same)
  rw [encode_set inside] at stands
  obtain ⟨next, stands, ran⟩ := loadInto_checked carries _ announced room stands
  rw [if_neg differs] at ran
  rw [size] at stands
  exact ⟨next, ran, stands⟩

/-- An image of the letters from `a` to `h`. -/
def lettersImage : List UInt8 := [0x61, 0x62, 0x63, 0x64, 0x65, 0x66, 0x67, 0x68]

/-- Where the letter `c` of this image arrives as a capital, the program is refused. -/
theorem capitalLetter_refused :
    ∃ spoken next, serve Scripted.stream lettersImage (.ofInput {} []) = .ok () spoken ∧
      loadInto Scripted.stream (smallLoader (spoken.output.toList.set (4 + 2) 0x43)) =
        .error (.wrongCrc 0xaeef2a50 0xa9432f66) next := by
  have silent := Scripted.view_holds_ofInput []
  have inside : 2 < lettersImage.length := by decide
  have other : (0x43 : UInt8) ≠ lettersImage[2] := by
    show (0x43 : UInt8) ≠ 0x63
    decide
  obtain ⟨spoken, served, kept, refused⟩ :=
    altered_refused Scripted.carries Scripted.carries (by decide) inside other silent
  have sent : spoken.output.toList = encode lettersImage := kept.2.2
  obtain ⟨next, ran, _⟩ := refused (by decide) (smallLoader_stands _)
  have expected : Crc32.checksum lettersImage = 0xaeef2a50 := by decide +kernel
  have actual : Crc32.checksum (lettersImage.set 2 0x43) = 0xa9432f66 := by decide +kernel
  rw [expected, actual] at ran
  refine ⟨spoken, next, served, ?_⟩
  rw [sent]
  exact ran

end Bringup.Program
