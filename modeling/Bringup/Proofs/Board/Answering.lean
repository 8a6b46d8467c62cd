import Bringup.Board.Slave
import Bringup.Proofs.Action
import Bringup.Proofs.Board.Bits
/-!
# A slave that follows its master

With a slave that does not hold the clock, each part of a transfer that the master performs has one
outcome, and these equations say what it is. They follow the slave from a start (`start_ok`)
through the bits of a byte (`writeBits_ok`) to the byte that names a slave, a register or a value,
or through the bits of a byte that the slave sends (`read_ok`), and at last to a stop (`stop_ok`).

Between two bytes the clock is low and no bit of the next byte has come in (`listening`). All the
equations leave the level of the data line between two bits open, because each bit sets its own.
-/

namespace Bringup.Slave

open I2c

variable {ε : Type} {slave : Slave} {mode : SlaveMode}

/-- The slave within a byte that comes in. -/
def taking (slave : Slave) (mode : SlaveMode) (clock data : Bool) (edges : Nat) (shift : UInt8) :
    Slave :=
  { slave with clock, data, pulls := false, mode, edges, shift }

/-- The slave before a byte. -/
def listening (slave : Slave) (mode : SlaveMode) (data : Bool) : Slave :=
  slave.taking mode false data 0 0

/-- The slave behind a stop. -/
def rested (slave : Slave) : Slave :=
  { slave with
    clock := true, data := true, pulls := false, mode := .idle, edges := 0, shift := 0 }

/-- The clock rises and falls with this level on the data line. -/
def pulse (slave : Slave) (level : Bool) : Slave := (slave.drive true level).drive false level

/-- Driving the lines is driving the slave. -/
theorem set_ok (clock data : Bool) (slave : Slave) :
    set (pins : Pins Slave ε) clock data slave = .ok () (slave.drive clock data) := rfl

/-- While the clock is low, the data line moves freely. -/
theorem drive_low (low : slave.clock = false) (data : Bool) :
    slave.drive false data = { slave with data } := by
  rw [drive, low]
  rfl

/-- When the clock is driven high, the slave may see a start, a stop or a bit. If it does not read,
it is not acknowledged, and if the clock was low, it pulls the data line as before. -/
theorem drive_high (slave : Slave) (data : Bool) : ∃ pulls mode edges shift acknowledged,
    slave.drive true data =
      { slave with clock := true, data, pulls, mode, edges, shift, acknowledged } ∧
    (slave.mode ≠ .read → acknowledged = slave.acknowledged) ∧
    (slave.clock = false → pulls = slave.pulls) := by
  rw [drive]
  split
  · next moves =>
    refine ⟨_, _, _, _, _, rfl, fun _ => rfl, fun low => ?_⟩
    simp [low] at moves
  · split
    · rw [rising]
      split
      · exact ⟨_, _, _, _, _, rfl, fun _ => rfl, fun _ => rfl⟩
      · split <;> split
        · exact ⟨_, _, _, _, _, rfl, fun _ => rfl, fun _ => rfl⟩
        · exact ⟨_, _, _, _, _, rfl, fun _ => rfl, fun _ => rfl⟩
        · next reads => exact ⟨_, _, _, _, _, rfl, fun waits => absurd reads waits, fun _ => rfl⟩
        · exact ⟨_, _, _, _, _, rfl, fun _ => rfl, fun _ => rfl⟩
    · rw [if_neg (by simp)]
      exact ⟨_, _, _, _, _, rfl, fun _ => rfl, fun _ => rfl⟩

/-- A slave that does not hold the clock is not waited for. -/
theorem awaitClock_ok (high : slave.clock = true) (free : slave.holds = false) :
    awaitClock (pins : Pins Slave ε) stretchPolls slave = .ok () slave := by
  have sampled : onPins (pins : Pins Slave ε).read slave = .ok (true, slave.line) slave := by
    show EStateM.Result.ok slave.sample slave = _
    rw [sample, high, free]
    rfl
  rw [stretchPolls, awaitClock, Action.bind_ok sampled]
  rfl

/-- The master sends a bit with one pulse of the clock. -/
theorem writeBit_ok (low : slave.clock = false) (free : slave.holds = false) (bit : Bool) :
    writeBit (pins : Pins Slave ε) bit slave = .ok () (slave.pulse bit) := by
  obtain ⟨_, _, _, _, _, risen, _⟩ := slave.drive_high bit
  have again : (slave.drive false bit).drive true bit = slave.drive true bit := by
    rw [drive_low low, drive, drive, low]
    rfl
  rw [writeBit, Action.bind_ok (set_ok false bit slave)]
  show (awaitClock pins stretchPolls >>= _) ((slave.drive false bit).drive true bit) = _
  rw [again, Action.bind_ok (awaitClock_ok (by rw [risen]) (by rw [risen]; exact free))]
  rfl

/-- The master receives a bit with one pulse of the clock: a low level if the slave pulls the data
line. -/
theorem readBit_ok (low : slave.clock = false) (free : slave.holds = false) :
    readBit (pins : Pins Slave ε) slave = .ok (!slave.pulls) (slave.pulse true) := by
  obtain ⟨_, _, _, _, _, risen, _, pulls⟩ := slave.drive_high true
  have again : (slave.drive false true).drive true true = slave.drive true true := by
    rw [drive_low low, drive, drive, low]
    rfl
  have level : (slave.drive true true).line = !slave.pulls := by
    rw [risen, pulls low]
    exact Bool.true_and _
  rw [readBit, Action.bind_ok (set_ok false true slave)]
  show (awaitClock pins stretchPolls >>= _) ((slave.drive false true).drive true true) = _
  rw [again, Action.bind_ok (awaitClock_ok (by rw [risen]) (by rw [risen]; exact free)), ← level]
  rfl

/-- A bit that comes in is appended to those before it. -/
theorem rising_taking (slave : Slave) (takes : mode = .address ∨ mode = .write) (data : Bool)
    {edges : Nat} (more : edges < 8) (shift : UInt8) :
    (slave.taking mode true data edges shift).rising =
      slave.taking mode true data (edges + 1) (appendBit shift data) := by
  rcases takes with rfl | rfl <;> simp [rising, taking, line, appendBit, more]

/-- Nothing happens before the byte is complete. -/
theorem falling_taking (slave : Slave) (takes : mode = .address ∨ mode = .write) (data : Bool)
    {edges : Nat} (more : edges < 8) (shift : UInt8) :
    (slave.taking mode false data edges shift).falling =
      slave.taking mode false data edges shift := by
  have first : edges ≠ 8 := by omega
  have second : edges ≠ 9 := by omega
  rcases takes with rfl | rfl <;> simp [falling, taking, first, second]

/-- A bit that is sent comes in, and then the slave looks whether the byte is complete. -/
theorem pulse_taking (slave : Slave) (takes : mode = .address ∨ mode = .write) (data bit : Bool)
    {edges : Nat} (more : edges < 8) (shift : UInt8) :
    (slave.taking mode false data edges shift).pulse bit =
      (slave.taking mode false bit (edges + 1) (appendBit shift bit)).falling := by
  have risen : (slave.taking mode false data edges shift).drive true bit =
      slave.taking mode true bit (edges + 1) (appendBit shift bit) :=
    slave.rising_taking takes bit more shift
  rw [pulse, risen]
  rfl

/-- A start is seen by a slave that does not read, whatever it waits for. -/
theorem start_ok (slave : Slave) (waits : slave.mode ≠ .read) :
    start (pins : Pins Slave ε) slave = .ok () (slave.listening .address false) := by
  obtain ⟨pulls, mode, edges, shift, acknowledged, released, same, _⟩ := slave.drive_high true
  show EStateM.Result.ok () (((slave.drive true true).drive true false).drive false false) = _
  rw [released, same waits]
  simp [drive, falling, listening, taking]

/-- A stop lets a slave rest that does not read. -/
theorem stop_ok (slave : Slave) (waits : mode ≠ .read) (data : Bool) :
    stop (pins : Pins Slave ε) (slave.listening mode data) = .ok () slave.rested := by
  obtain ⟨pulls, other, edges, shift, acknowledged, risen, same, _⟩ :=
    (slave.listening mode false).drive_high false
  show EStateM.Result.ok ()
    ((((slave.listening mode data).drive false false).drive true false).drive true true) = _
  have low : (slave.listening mode data).drive false false = slave.listening mode false :=
    drive_low rfl false
  rw [low, risen, same waits]
  simp [drive, listening, taking, rested]

/-- The rest of the bits of a byte come in, and then the slave takes the byte. -/
theorem writeBits_ok (slave : Slave) (takes : mode = .address ∨ mode = .write)
    (free : slave.holds = false) (data : Bool) {edges : Nat} {bits : List Bool}
    (nonempty : bits ≠ []) (complete : edges + bits.length = 8) (shift : UInt8) : ∃ last,
    writeBits (pins : Pins Slave ε) bits (slave.taking mode false data edges shift) =
      .ok () (slave.taking mode false last 8 (bits.foldl appendBit shift)).falling := by
  induction bits generalizing data edges shift with
  | nil => exact absurd rfl nonempty
  | cons bit rest ih =>
    have more : edges < 8 := by
      rw [List.length_cons] at complete
      omega
    have sent : writeBit (pins : Pins Slave ε) bit (slave.taking mode false data edges shift) =
        .ok () (slave.taking mode false bit (edges + 1) (appendBit shift bit)).falling := by
      have low : (slave.taking mode false data edges shift).clock = false := rfl
      rw [writeBit_ok low free, pulse_taking slave takes data bit more]
    rw [writeBits, Action.bind_ok sent]
    -- Only behind the last bit does the slave take the byte.
    cases rest with
    | nil =>
      obtain rfl : edges = 7 := by simpa using complete
      exact ⟨bit, rfl⟩
    | cons second others =>
      have further : edges + 1 < 8 := by
        simp only [List.length_cons] at complete
        omega
      rw [falling_taking slave takes bit further]
      exact ih bit (by simp) (by simpa [Nat.add_assoc, Nat.add_comm] using complete) _

/-- Behind the bits of a byte, the slave neither moves the clock nor counts its edges. -/
theorem falling_complete (slave : Slave) (takes : mode = .address ∨ mode = .write) (data : Bool)
    (byte : UInt8) : ∃ registers writes pulls next pointer pointerSet,
    (slave.taking mode false data 8 byte).falling =
      { slave.taking mode false data 8 byte with
        registers, writes, pulls, next, pointer, pointerSet } := by
  rcases takes with rfl | rfl
  · show ∃ _ _ _ _ _ _, (slave.taking .address false data 8 byte).judgeAddress = _
    rw [judgeAddress]
    split <;> exact ⟨_, _, _, _, _, _, rfl⟩
  · show ∃ _ _ _ _ _ _, (slave.taking .write false data 8 byte).takeByte = _
    rw [takeByte]
    split <;> exact ⟨_, _, _, _, _, _, rfl⟩

/-- A byte comes in, and then the slave takes it and acknowledges it or not. -/
theorem write_ok (slave : Slave) (takes : mode = .address ∨ mode = .write)
    (free : slave.holds = false) (data : Bool) (byte : UInt8) : ∃ last,
    let taken := (slave.taking mode false last 8 byte).falling
    write (pins : Pins Slave ε) byte (slave.listening mode data) =
      .ok taken.pulls { taken with data := true, edges := 9 }.endByte := by
  have bits : bitsOf byte ≠ [] := List.cons_ne_nil _ _
  obtain ⟨last, sent⟩ := slave.writeBits_ok (ε := ε) takes free data bits rfl 0
  have whole : (bitsOf byte).foldl appendBit 0 = byte := byteOf_bitsOf byte
  rw [whole] at sent
  refine ⟨last, ?_⟩
  intro taken
  obtain ⟨registers, writes, pulls, next, pointer, pointerSet, same⟩ :=
    slave.falling_complete takes last byte
  have asked : readBit (pins : Pins Slave ε) taken = .ok (!taken.pulls) (taken.pulse true) := by
    have low : taken.clock = false := congrArg Slave.clock same
    exact readBit_ok low ((congrArg Slave.holds same).trans free)
  have acknowledged : taken.pulse true = { taken with data := true, edges := 9 }.endByte := by
    rw [show taken = _ from same]
    rcases takes with rfl | rfl
    · simp [pulse, drive, rising, falling, taking]
    · simp [pulse, drive, rising, falling, taking]
  rw [write, listening, Action.bind_ok sent, Action.bind_ok asked, Bool.not_not, acknowledged]
  rfl

/-- A byte that is sent for an address is taken by the slave that has it, which takes the bytes
behind it or sends some as the lowest bit says. -/
theorem address_ok (slave : Slave) (free : slave.holds = false) {byte : UInt8}
    (own : byte &&& 0xfe = slave.address) :
    (byte &&& 1 = 0 →
      writeAcknowledged (pins : Pins Slave ε) byte (slave.listening .address false) =
        .ok () ({ slave with next := .write, pointerSet := false }.listening .write true)) ∧
    (byte &&& 1 ≠ 0 →
      writeAcknowledged (pins : Pins Slave ε) byte (slave.listening .address false) =
        .ok () ({ slave with next := .read }.listening .read true).load) := by
  obtain ⟨last, sent⟩ := slave.write_ok (ε := ε) (.inl rfl) free false byte
  have judged : (slave.taking .address false last 8 byte).falling =
      { slave.taking .address false last 8 byte with
        pulls := true, next := if byte &&& 1 = 0 then .write else .read } := by
    show judgeAddress _ = _
    exact if_pos own
  rw [judged] at sent
  constructor
  · intro writes
    rw [writeAcknowledged, Action.bind_ok sent, if_pos writes]
    rfl
  · intro reads
    rw [writeAcknowledged, Action.bind_ok sent, if_neg reads]
    rfl

/-- A byte that is sent for the address of no slave is not acknowledged, and the master stops. -/
theorem address_nack (slave : Slave) (free : slave.holds = false) {byte : UInt8}
    (other : byte &&& 0xfe ≠ slave.address) :
    writeAcknowledged (pins : Pins Slave ε) byte (slave.listening .address false) =
      .error (.bus .nack) { slave with next := .idle }.rested := by
  obtain ⟨last, sent⟩ := slave.write_ok (ε := ε) (.inl rfl) free false byte
  have judged : (slave.taking .address false last 8 byte).falling =
      { slave.taking .address false last 8 byte with next := .idle } := by
    show judgeAddress _ = _
    exact if_neg other
  rw [judged] at sent
  rw [writeAcknowledged, Action.bind_ok sent]
  have stopped : stop (pins : Pins Slave ε) ({ slave with next := .idle }.listening .idle true) =
      .ok () { slave with next := .idle }.rested := stop_ok _ (by decide) true
  exact Action.bind_ok stopped _

/-- The first byte behind the address names a register. -/
theorem pointer_ok (slave : Slave) (free : slave.holds = false) (first : slave.pointerSet = false)
    (byte : UInt8) :
    writeAcknowledged (pins : Pins Slave ε) byte (slave.listening .write true) =
      .ok () ({ slave with pointer := byte, pointerSet := true }.listening .write true) := by
  obtain ⟨last, sent⟩ := slave.write_ok (ε := ε) (.inr rfl) free true byte
  have taken : (slave.taking .write false last 8 byte).falling =
      { slave.taking .write false last 8 byte with
        pointer := byte, pointerSet := true, pulls := true } := by
    show takeByte _ = _
    exact if_neg (Bool.eq_false_iff.1 first)
  rw [taken] at sent
  rw [writeAcknowledged, Action.bind_ok sent]
  rfl

/-- A byte behind the register is its value. -/
theorem value_ok (slave : Slave) (free : slave.holds = false) (named : slave.pointerSet = true)
    (byte : UInt8) :
    writeAcknowledged (pins : Pins Slave ε) byte (slave.listening .write true) =
      .ok () ({ slave with
        registers := stored slave.registers slave.pointer byte
        writes := slave.writes ++ [(slave.pointer, byte)]
        pointer := slave.pointer + 1 }.listening .write true) := by
  obtain ⟨last, sent⟩ := slave.write_ok (ε := ε) (.inr rfl) free true byte
  have taken : (slave.taking .write false last 8 byte).falling =
      { slave.taking .write false last 8 byte with
        registers := stored slave.registers slave.pointer byte
        writes := slave.writes ++ [(slave.pointer, byte)]
        pointer := slave.pointer + 1
        pulls := true } := by
    show takeByte _ = _
    exact if_pos named
  rw [taken] at sent
  rw [writeAcknowledged, Action.bind_ok sent]
  rfl

/-- The slave within a byte that it sends. -/
def sending (slave : Slave) (edges : Nat) (shift : UInt8) : Slave :=
  { slave with
    clock := false, data := true, pulls := isLow slave.out (7 - edges), mode := .read
    edges, shift }

/-- While a byte goes out, each bit that the master receives is the next of the byte. -/
theorem sending_readBit (slave : Slave) (free : slave.holds = false) {edges : Nat}
    (more : edges < 8) (shift : UInt8) :
    readBit (pins : Pins Slave ε) (slave.sending edges shift) =
      .ok (slave.out.toNat.testBit (7 - edges))
        (if edges = 7 then slave.taking .read false true 8 shift
          else slave.sending (edges + 1) shift) := by
  have low : (slave.sending edges shift).clock = false := rfl
  have level : (!(slave.sending edges shift).pulls) = slave.out.toNat.testBit (7 - edges) :=
    Bool.not_not _
  rw [readBit_ok low free, level]
  congr 1
  by_cases last : edges = 7
  · subst last
    simp [pulse, drive, rising, falling, sending, taking]
  · have eight : edges + 1 ≠ 8 := by omega
    have nine : edges + 1 ≠ 9 := by omega
    have within : edges + 1 ≤ 7 := by omega
    simp [pulse, drive, rising, falling, sending, more, last, eight, nine, within]

/-- The bits of a byte from a place on. -/
theorem drop_bitsOf (byte : UInt8) {edges : Nat} (more : edges < 8) :
    (bitsOf byte).drop edges =
      byte.toNat.testBit (7 - edges) :: (bitsOf byte).drop (edges + 1) := by
  match edges, more with
  | 0, _ | 1, _ | 2, _ | 3, _ | 4, _ | 5, _ | 6, _ | 7, _ => rfl

/-- The master receives the rest of the bits of a byte. -/
theorem readBits_ok (slave : Slave) (free : slave.holds = false) (count : Nat) {edges : Nat}
    (complete : edges + (count + 1) = 8) (shift byte : UInt8) :
    readBits (pins : Pins Slave ε) (count + 1) byte (slave.sending edges shift) =
      .ok (((bitsOf slave.out).drop edges).foldl appendBit byte)
        (slave.taking .read false true 8 shift) := by
  induction count generalizing edges byte with
  | zero =>
    obtain rfl : edges = 7 := by omega
    have received := sending_readBit (ε := ε) slave free (by decide : 7 < 8) shift
    rw [readBits, Action.bind_ok received, drop_bitsOf slave.out (by decide)]
    rfl
  | succ count ih =>
    have more : edges < 8 := by omega
    have further : edges ≠ 7 := by omega
    have received := sending_readBit (ε := ε) slave free more shift
    rw [if_neg further] at received
    rw [readBits, Action.bind_ok received, drop_bitsOf slave.out more, List.foldl_cons]
    exact ih (by omega) _

/-- The master receives the value of the register that was named and does not acknowledge it, which
lets the slave wait for a start. -/
theorem read_ok (slave : Slave) (free : slave.holds = false) :
    read (pins : Pins Slave ε) false (slave.listening .read true).load =
      .ok (slave.registers slave.pointer) ({ slave with
        out := slave.registers slave.pointer
        pointer := slave.pointer + 1
        acknowledged := false }.listening .idle true) := by
  let loaded : Slave :=
    { slave with out := slave.registers slave.pointer, pointer := slave.pointer + 1 }
  have free : loaded.holds = false := free
  have received := readBits_ok (ε := ε) loaded free 7 rfl 0 0
  have whole : ((bitsOf loaded.out).drop 0).foldl appendBit 0 = slave.registers slave.pointer :=
    byteOf_bitsOf _
  rw [whole] at received
  have low : (loaded.taking .read false true 8 0).clock = false := rfl
  have refused : (loaded.taking .read false true 8 0).pulse true =
      { loaded with acknowledged := false }.listening .idle true := by
    simp [pulse, drive, rising, falling, endByte, taking, listening, line]
  have answered : writeBit (pins : Pins Slave ε) true (loaded.taking .read false true 8 0) =
      .ok () ({ loaded with acknowledged := false }.listening .idle true) := by
    rw [writeBit_ok low free, refused]
  show (readBits pins 8 0 >>= _) (loaded.sending 0 0) = _
  rw [Action.bind_ok received]
  exact Action.bind_ok answered _

end Bringup.Slave
