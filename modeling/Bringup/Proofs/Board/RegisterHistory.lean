import Bringup.Proofs.Board.Answering
import Bringup.Wire.Capture
/-!
# The registers of a slave over a history of transfers

A master that writes and reads registers and a slave that holds them agree: after any transfers the
registers hold what was last written to them, each read answers with that, and a transfer to another
slave fails and changes nothing (`history_agrees`). What one transfer does is `perform_ok`.
-/

namespace Bringup.Slave

open I2c

variable {ε : Type} {slave : Slave}

/-- A transfer that a master may ask for. -/
inductive Access where
  /-- Writes a register of the slave with this address. -/
  | write (target register value : UInt8)
  /-- Reads a register of the slave with this address. -/
  | read (target register : UInt8)

namespace Access

/-- The slave with this address is meant, whatever the lowest bits of the addresses. -/
def IsFor (address target : UInt8) : Prop := target &&& 0xfe = address &&& 0xfe

instance (address target : UInt8) : Decidable (IsFor address target) :=
  inferInstanceAs (Decidable (_ = _))

/-- What the master does. A read gives a value. -/
def perform : Access → Transfer Slave ε (Option UInt8)
  | .write target register value => do
    writeRegister pins target register value
    pure none
  | .read target register => do
    let value ← readRegister pins target register
    pure (some value)

/-- The address of the slave that is meant. -/
def target : Access → UInt8
  | .write target _ _ => target
  | .read target _ => target

/-- What a slave with these registers lets the master have. -/
def value? (registers : UInt8 → UInt8) : Access → Option UInt8
  | .write _ _ _ => none
  | .read _ register => some (registers register)

/-- How a transfer ends on a bus with one slave. -/
def answer (address : UInt8) (registers : UInt8 → UInt8) (access : Access) :
    Except (I2cTrap ε) (Option UInt8) :=
  if IsFor address access.target then .ok (access.value? registers) else .error (.bus .nack)

/-- The value that is written to a register of the slave with this address. -/
def written? (address register : UInt8) : Access → Option UInt8
  | .write target other value =>
    if IsFor address target ∧ other = register then some value else none
  | .read _ _ => none

end Access

/-- What a register holds after a history: the last value that was written to it, or else what it
held before. -/
def contents (address : UInt8) (registers : UInt8 → UInt8) (history : List Access)
    (register : UInt8) : UInt8 :=
  (history.filterMap (Access.written? address register)).getLast?.getD (registers register)

/-- A history goes on from what its first transfer leaves. -/
theorem contents_cons (address : UInt8) (registers : UInt8 → UInt8) (first : Access)
    (rest : List Access) : contents address registers (first :: rest) =
      contents address (contents address registers [first]) rest := by
  funext register
  cases stored : first.written? address register with
  | none => simp [contents, stored]
  | some value => simp [contents, stored, List.getLast?_cons]

/-- A write to the slave with this address puts its value into its register. -/
theorem contents_write {address target : UInt8} (own : Access.IsFor address target)
    (registers : UInt8 → UInt8) (register value : UInt8) :
    contents address registers [.write target register value] =
      stored registers register value := by
  funext other
  by_cases same : register = other
  · simp [contents, Access.written?, own, same, stored]
  · have different : other ≠ register := Ne.symm same
    simp [contents, Access.written?, same, stored, different]

/-- A transfer to another slave writes nothing. -/
theorem contents_other {address : UInt8} {access : Access}
    (other : ¬Access.IsFor address access.target) (registers : UInt8 → UInt8) :
    contents address registers [access] = registers := by
  funext register
  cases access with
  | write target _ _ =>
    have other : ¬Access.IsFor address target := other
    simp [contents, Access.written?, other]
  | read target _ => rfl

/-- The slave waits for a start on released lines, with this address and these registers. -/
structure Waits (slave : Slave) (address : UInt8) (registers : UInt8 → UInt8) : Prop where
  address : slave.address = address
  registers : slave.registers = registers
  mode : slave.mode = .idle
  free : slave.holds = false
  released : slave.sample = (true, true)

/-- Behind a stop the slave waits. -/
theorem rested_waits (free : slave.holds = false) :
    slave.rested.Waits slave.address slave.registers where
  address := rfl
  registers := rfl
  mode := rfl
  free := free
  released := by
    show (true && !slave.holds, true) = _
    rw [free]
    rfl

/-- The slave when one of its registers was named. -/
def pointed (slave : Slave) (register : UInt8) : Slave :=
  { slave with next := .write, pointer := register, pointerSet := true }

/-- Choosing bits of a union chooses them of both. -/
theorem or_and (first second chosen : UInt8) :
    (first ||| second) &&& chosen = (first &&& chosen) ||| (second &&& chosen) :=
  UInt8.toBitVec_inj.1 BitVec.and_or_distrib_right

/-- An even address is the same without its lowest bit. -/
theorem even_and {address : UInt8} (even : address &&& 1 = 0) : address &&& 0xfe = address := by
  calc address &&& 0xfe = (0xfe ||| 1) &&& address := by
        rw [or_and, UInt8.and_comm 1, even, UInt8.or_zero, UInt8.and_comm]
    _ = address := UInt8.neg_one_and

/-- The byte that asks a slave for bytes names the same slave, with its lowest bit set. -/
theorem asking_and (target : UInt8) :
    (target ||| 1) &&& 0xfe = target &&& 0xfe ∧ (target ||| 1) &&& 1 ≠ 0 := by
  constructor
  · rw [or_and]
    exact UInt8.or_zero
  · rw [or_and]
    exact fun zero => absurd (UInt8.or_eq_zero_iff.1 zero).2 (by decide)

/-- The byte that announces bytes to a slave names it, with its lowest bit clear. -/
theorem telling_and (target : UInt8) :
    target &&& 0xfe &&& 0xfe = target &&& 0xfe ∧ target &&& 0xfe &&& 1 = 0 := by
  rw [UInt8.and_assoc, UInt8.and_assoc]
  exact ⟨rfl, UInt8.and_zero⟩

section Transfers

variable (waits : slave.mode = .idle) (free : slave.holds = false)

include waits free

/-- The first two bytes of a transfer name a register of the slave. -/
theorem point_ok {α : Type} {target : UInt8} (own : target &&& 0xfe = slave.address)
    (register : UInt8) (rest : Transfer Slave ε α) :
    (do start pins; writeAcknowledged pins (target &&& 0xfe); writeAcknowledged pins register; rest)
      slave = rest ((slave.pointed register).listening .write true) := by
  let addressed : Slave := { slave with next := .write, pointerSet := false }
  have started := start_ok (ε := ε) slave (by rw [waits]; decide)
  have named : writeAcknowledged (pins : Pins Slave ε) (target &&& 0xfe)
      (slave.listening .address false) = .ok () (addressed.listening .write true) :=
    (address_ok slave free ((telling_and target).1.trans own)).1 (telling_and target).2
  have chosen : writeAcknowledged (pins : Pins Slave ε) register (addressed.listening .write true) =
      .ok () ((slave.pointed register).listening .write true) :=
    pointer_ok addressed free rfl register
  rw [Action.bind_ok started, Action.bind_ok named, Action.bind_ok chosen]

/-- A register of the slave is written. -/
theorem writeRegister_own {target : UInt8} (own : target &&& 0xfe = slave.address)
    (register value : UInt8) : ∃ after,
    writeRegister (pins : Pins Slave ε) target register value slave = .ok () after ∧
    after.Waits slave.address (stored slave.registers register value) := by
  let valued : Slave := { slave.pointed register with
    registers := stored slave.registers register value
    writes := slave.writes ++ [(register, value)]
    pointer := register + 1 }
  have given : writeAcknowledged (pins : Pins Slave ε) value
      ((slave.pointed register).listening .write true) = .ok () (valued.listening .write true) :=
    value_ok (slave.pointed register) free rfl value
  have stopped := stop_ok (ε := ε) valued (by decide : SlaveMode.write ≠ .read) true
  refine ⟨valued.rested, ?_, rested_waits free⟩
  rw [writeRegister, point_ok waits free own, Action.bind_ok given, stopped]

/-- A register of the slave is read. -/
theorem readRegister_own {target : UInt8} (own : target &&& 0xfe = slave.address)
    (register : UInt8) : ∃ after,
    readRegister (pins : Pins Slave ε) target register slave =
      .ok (slave.registers register) after ∧
    after.Waits slave.address slave.registers := by
  let asked : Slave := { slave.pointed register with next := .read }
  let given : Slave := { asked with
    out := slave.registers register, pointer := register + 1, acknowledged := false }
  have again : start (pins : Pins Slave ε) ((slave.pointed register).listening .write true) =
      .ok () ((slave.pointed register).listening .address false) :=
    start_ok ((slave.pointed register).listening .write true) (by simp [listening, taking])
  have turned : writeAcknowledged (pins : Pins Slave ε) (target ||| 1)
      ((slave.pointed register).listening .address false) =
        .ok () (asked.listening .read true).load :=
    (address_ok (slave.pointed register) free ((asking_and target).1.trans own)).2
      (asking_and target).2
  have received : read (pins : Pins Slave ε) false (asked.listening .read true).load =
      .ok (slave.registers register) (given.listening .idle true) :=
    read_ok asked free
  have stopped := stop_ok (ε := ε) given (by decide : SlaveMode.idle ≠ .read) true
  refine ⟨given.rested, ?_, rested_waits free⟩
  rw [readRegister, point_ok waits free own, Action.bind_ok again, Action.bind_ok turned,
    Action.bind_ok received]
  exact Action.bind_ok stopped _

/-- A transfer to another slave fails at its first byte. -/
theorem transfer_other {α : Type} {target : UInt8} (other : target &&& 0xfe ≠ slave.address)
    (rest : Transfer Slave ε α) : ∃ after,
    (do start pins; writeAcknowledged pins (target &&& 0xfe); rest) slave =
      .error (.bus .nack) after ∧
    after.Waits slave.address slave.registers := by
  let missed : Slave := { slave with next := .idle }
  have started := start_ok (ε := ε) slave (by rw [waits]; decide)
  have refused : writeAcknowledged (pins : Pins Slave ε) (target &&& 0xfe)
      (slave.listening .address false) = .error (.bus .nack) missed.rested :=
    address_nack slave free fun own => other ((telling_and target).1.symm.trans own)
  refine ⟨missed.rested, ?_, rested_waits free⟩
  rw [Action.bind_ok started, Action.bind_error refused]

/-- A transfer ends as the registers say it does, and leaves the slave waiting with what the
transfer wrote. -/
theorem perform_ok (even : slave.address &&& 1 = 0) (access : Access) : ∃ after,
    attempt (access.perform (ε := ε)) slave = (access.answer slave.address slave.registers, after) ∧
    after.Waits slave.address (contents slave.address slave.registers [access]) := by
  have same : slave.address &&& 0xfe = slave.address := even_and even
  by_cases own : Access.IsFor slave.address access.target
  · have named : access.target &&& 0xfe = slave.address := Eq.trans own same
    rw [Access.answer, if_pos own]
    cases access with
    | write target register value =>
      obtain ⟨after, wrote, left⟩ := writeRegister_own (ε := ε) waits free named register value
      have meant : Access.IsFor slave.address target := own
      rw [contents_write meant]
      exact ⟨after, Action.attempt_bind_ok wrote _, left⟩
    | read target register =>
      obtain ⟨after, read, left⟩ := readRegister_own (ε := ε) waits free named register
      exact ⟨after, Action.attempt_bind_ok read _, left⟩
  · have named : access.target &&& 0xfe ≠ slave.address := fun named => own (named.trans same.symm)
    rw [contents_other own, Access.answer, if_neg own]
    cases access with
    | write target register value =>
      obtain ⟨after, failed, left⟩ := transfer_other (ε := ε) waits free named
        (do writeAcknowledged pins register; writeAcknowledged pins value; stop pins)
      have failed : writeRegister pins target register value slave = .error (.bus .nack) after :=
        failed
      refine ⟨after, ?_, left⟩
      rw [Access.perform, attempt, Action.bind_error failed]
    | read target register =>
      obtain ⟨after, failed, left⟩ := transfer_other (ε := ε) waits free named (do
        writeAcknowledged pins register
        start pins
        writeAcknowledged pins (target ||| 1)
        let value ← read pins false
        stop pins
        pure value)
      have failed : readRegister pins target register slave = .error (.bus .nack) after := failed
      refine ⟨after, ?_, left⟩
      rw [Access.perform, attempt, Action.bind_error failed]

end Transfers

/-- A master and a slave with registers agree over any history of transfers. If the slave has an
even address, waits for a start and never holds the clock, then each transfer to its address
succeeds, whatever the lowest bit of the address, and each read answers with what the register
holds: the last value that was written to it, or else what it held at the beginning. Each transfer
to another address is not acknowledged and changes nothing. After each of them the lines are
released. -/
theorem history_agrees (slave : Slave) (even : slave.address &&& 1 = 0)
    (waits : slave.mode = .idle) (free : slave.holds = false) (front : List Access)
    (access : Access) (back : List Access) : ∃ after,
    (attemptAll ((front ++ access :: back).map (Access.perform (ε := ε))) slave)[front.length]? =
      some (access.answer slave.address (contents slave.address slave.registers front), after) ∧
    after.Waits slave.address (contents slave.address slave.registers (front ++ [access])) := by
  induction front generalizing slave with
  | nil =>
    obtain ⟨after, performed, waits⟩ := perform_ok (ε := ε) waits free even access
    exact ⟨after, congrArg some performed, waits⟩
  | cons first rest ih =>
    -- The rest of the history begins with what the first transfer left.
    obtain ⟨middle, performed, left⟩ := perform_ok (ε := ε) waits free even first
    have stillEven : middle.address &&& 1 = 0 := left.address.symm ▸ even
    obtain ⟨after, answered, waits⟩ := ih middle stillEven left.mode left.free
    rw [left.address, left.registers, ← contents_cons] at answered waits
    refine ⟨after, ?_, waits⟩
    show (attemptAll _ (attempt first.perform slave).2)[rest.length]? = _
    rw [performed]
    exact answered

/-- A value that was written is read back, and a write to another address in between does not
change it. -/
theorem history_agrees_readback : ∃ after,
    (attemptAll ([.write 0x73 0x98 3, .write 0x70 0x98 9, .read 0x72 0x98].map
      (Access.perform (ε := Empty))) { address := 0x72, registers := fun _ => 0 })[2]? =
        some (.ok (some 3), after) ∧ after.registers 0x98 = 3 := by
  obtain ⟨after, answered, waits⟩ := history_agrees (ε := Empty)
    { address := 0x72, registers := fun _ => 0 } (by decide) rfl rfl
    [.write 0x73 0x98 3, .write 0x70 0x98 9] (.read 0x72 0x98) []
  have last : contents 0x72 (fun _ => 0) ([.write 0x73 0x98 3, .write 0x70 0x98 9] ++
      [.read 0x72 0x98]) 0x98 = 3 := by
    decide
  exact ⟨after, answered, (congrFun waits.registers 0x98).trans last⟩

end Bringup.Slave
