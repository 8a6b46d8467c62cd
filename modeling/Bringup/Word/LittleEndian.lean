/-!
# Little-endian words

A word of `count` bytes is written with its lowest byte first. Reading and writing are
defined on numbers; words of 32 and 64 bits are read and written through them.
-/

namespace Bringup.LittleEndian

/-- The number whose lowest byte comes first. -/
def natOfBytes : List UInt8 → Nat
  | [] => 0
  | byte :: rest => byte.toNat + 256 * natOfBytes rest

/-- The `count` lowest bytes of a number, the lowest first. -/
def bytesOfNat : (count : Nat) → Nat → List UInt8
  | 0, _ => []
  | count + 1, number => UInt8.ofNat number :: bytesOfNat count (number / 256)

/-- The 32-bit word written as these four bytes. -/
def word32 (bytes : List UInt8) : UInt32 := UInt32.ofNat (natOfBytes bytes)

/-- The 64-bit word written as these eight bytes. -/
def word64 (bytes : List UInt8) : UInt64 := UInt64.ofNat (natOfBytes bytes)

/-- The four bytes of a 32-bit word. -/
def bytes32 (word : UInt32) : List UInt8 := bytesOfNat 4 word.toNat

/-- The eight bytes of a 64-bit word. -/
def bytes64 (word : UInt64) : List UInt8 := bytesOfNat 8 word.toNat

/-- The low byte of a word is what is left of it above a multiple of 256. -/
theorem toNat_and_byte (word : UInt32) : (word &&& 0xff).toNat = word.toNat % 256 := by
  rw [UInt32.toNat_and]
  exact Nat.and_two_pow_sub_one_eq_mod word.toNat 8

/-- Writing makes as many bytes as it was asked for. -/
@[simp] theorem length_bytesOfNat (count number : Nat) :
    (bytesOfNat count number).length = count := by
  induction count generalizing number with
  | zero => rfl
  | succ count ih => simp [bytesOfNat, ih]

/-- A byte more makes room for 256 times as many numbers. -/
theorem one_shiftLeft_succ (count : Nat) : 1 <<< (8 * (count + 1)) = 256 * 1 <<< (8 * count) := by
  rw [Nat.mul_succ, Nat.shiftLeft_add, Nat.shiftLeft_eq _ 8, Nat.mul_comm]

/-- Reading what was written gives the number back, less what did not fit. -/
theorem natOfBytes_bytesOfNat (count number : Nat) :
    natOfBytes (bytesOfNat count number) = number % (1 <<< (8 * count)) := by
  induction count generalizing number with
  | zero => simp [bytesOfNat, natOfBytes, Nat.mod_one]
  | succ count ih =>
    have split := Nat.mod_mul (x := number) (a := 256) (b := 1 <<< (8 * count))
    simp [bytesOfNat, natOfBytes, ih, one_shiftLeft_succ, split]

/-- So many bytes make a number of eight times as many bits. -/
theorem natOfBytes_lt (bytes : List UInt8) : natOfBytes bytes < 1 <<< (8 * bytes.length) := by
  induction bytes with
  | nil => decide
  | cons byte rest ih =>
    have low : byte.toNat < 256 := byte.toNat_lt
    rw [natOfBytes, List.length_cons, one_shiftLeft_succ]
    omega

/-- Writing what was read gives the bytes back. -/
theorem bytesOfNat_natOfBytes (bytes : List UInt8) :
    bytesOfNat bytes.length (natOfBytes bytes) = bytes := by
  induction bytes with
  | nil => rfl
  | cons byte rest ih =>
    have low : byte.toNat < 256 := byte.toNat_lt
    have rest_eq : (byte.toNat + 256 * natOfBytes rest) / 256 = natOfBytes rest := by omega
    have byte_eq : UInt8.ofNat (byte.toNat + 256 * natOfBytes rest) = byte := by
      apply UInt8.toNat_inj.1
      rw [UInt8.toNat_ofNat']
      omega
    rw [natOfBytes, List.length_cons, bytesOfNat, rest_eq, byte_eq, ih]

/-- A 32-bit word takes four bytes. -/
@[simp] theorem length_bytes32 (word : UInt32) : (bytes32 word).length = 4 :=
  length_bytesOfNat 4 _

/-- A 64-bit word takes eight bytes. -/
@[simp] theorem length_bytes64 (word : UInt64) : (bytes64 word).length = 8 :=
  length_bytesOfNat 8 _

/-- A 32-bit word survives being written and read. -/
@[simp] theorem word32_bytes32 (word : UInt32) : word32 (bytes32 word) = word := by
  have bound : word.toNat < 1 <<< (8 * 4) := word.toNat_lt
  rw [word32, bytes32, natOfBytes_bytesOfNat, Nat.mod_eq_of_lt bound]
  exact UInt32.ofNat_toNat

/-- A 64-bit word survives being written and read. -/
@[simp] theorem word64_bytes64 (word : UInt64) : word64 (bytes64 word) = word := by
  have bound : word.toNat < 1 <<< (8 * 8) := word.toNat_lt
  rw [word64, bytes64, natOfBytes_bytesOfNat, Nat.mod_eq_of_lt bound]
  exact UInt64.ofNat_toNat

/-- Four bytes survive being read as a word and written. -/
theorem bytes32_word32 {bytes : List UInt8} (four : bytes.length = 4) :
    bytes32 (word32 bytes) = bytes := by
  have bound := natOfBytes_lt bytes
  rw [four] at bound
  have kept : (word32 bytes).toNat = natOfBytes bytes := UInt32.toNat_ofNat_of_lt bound
  rw [bytes32, kept, ← four]
  exact bytesOfNat_natOfBytes bytes

/-- Eight bytes survive being read as a word and written. -/
theorem bytes64_word64 {bytes : List UInt8} (eight : bytes.length = 8) :
    bytes64 (word64 bytes) = bytes := by
  have bound := natOfBytes_lt bytes
  rw [eight] at bound
  have kept : (word64 bytes).toNat = natOfBytes bytes := UInt64.toNat_ofNat_of_lt bound
  rw [bytes64, kept, ← eight]
  exact bytesOfNat_natOfBytes bytes

end Bringup.LittleEndian
