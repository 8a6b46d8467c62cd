import Bringup.Image.Platform
import Bringup.Image.MonitorImage
import Bringup.Proofs.Monitor.Along
import Bringup.Proofs.Stream.Carrying
/-!
# The line of a board

What a program on the board may rely on about the UART (`Platform.Talks`): bytes are sent and
received in order, and no access to a register takes back what was sent. What the other registers
do, and whether an access to them fails, is left open. Seen as a stream, such a UART carries bytes
(`Talks.uart_carries`), and no program on the board loses anything that was sent.
-/

namespace Bringup

variable {σ ε : Type}

/-- Between two states of a line that does not fail nothing that was written is lost. -/
def LineView.Grows (view : LineView σ) (before after : σ) : Prop :=
  view.sound before → view.sound after ∧ view.written before <+: view.written after

instance (view : LineView σ) : IsPreorder σ view.Grows where
  refl _ sound := ⟨sound, List.prefix_rfl⟩
  trans _ _ _ first second sound := by
    obtain ⟨soundBetween, before⟩ := first sound
    obtain ⟨soundAfter, after⟩ := second soundBetween
    exact ⟨soundAfter, before.trans after⟩

namespace Platform

/-- The UART of the board is a line: bytes are sent and received in order, and waiting for a byte
that does not come ends. The clock leaves the line alone, and no register takes anything back. -/
structure Talks (platform : Platform σ ε) (view : LineView σ) : Prop where
  sendReady : ∀ {state unread written}, view.Holds state unread written →
    ∃ next, Board.await (Uart.isReady <$> platform.registers.readByte Board.uartSendStatus)
      platform.patience state = .ok () next ∧ view.Holds next unread written
  send : ∀ {state unread written}, view.Holds state unread written → ∀ byte,
    ∃ next, platform.registers.writeByte Board.uartSend byte state = .ok () next ∧
      view.Holds next unread (written ++ [byte])
  receiveReady : ∀ {state byte unread written}, view.Holds state (byte :: unread) written →
    ∃ next, Board.await (Uart.isReady <$> platform.registers.readByte Board.uartReceiveStatus)
      platform.patience state = .ok () next ∧ view.Holds next (byte :: unread) written
  receive : ∀ {state byte unread written}, view.Holds state (byte :: unread) written →
    ∃ next, platform.registers.readByte Board.uartReceive state = .ok byte next ∧
      view.Holds next unread written
  ended : ∀ {state written}, view.Holds state [] written →
    ∃ error next, Board.await (Uart.isReady <$>
        platform.registers.readByte Board.uartReceiveStatus) platform.patience state =
      .error error next ∧ view.Holds next [] written
  cycles : ∀ {state unread written}, view.Holds state unread written →
    ∃ cycles next, platform.clock.cycles state = .ok cycles next ∧ view.Holds next unread written
  pending : ∀ {state unread written}, view.Holds state unread written →
    unread.length ≤ platform.pending state
  readByte : ∀ address, Action.Along view.Grows (platform.registers.readByte address)
  writeByte : ∀ address value, Action.Along view.Grows (platform.registers.writeByte address value)
  readWord : ∀ address, Action.Along view.Grows (platform.registers.readWord address)
  writeWord : ∀ address value, Action.Along view.Grows (platform.registers.writeWord address value)
  readClock : Action.Along view.Grows platform.clock.cycles

namespace Talks

variable {platform : Platform σ ε} {view : LineView σ} {state : σ} {unread written : List UInt8}

/-- Bytes are sent one after the other. -/
theorem sendAll_all (talks : platform.Talks view) (bytes : List UInt8)
    (held : view.Holds state unread written) :
    ∃ next, Uart.sendAll platform.registers platform.patience bytes state = .ok () next ∧
      view.Holds next unread (written ++ bytes) := by
  induction bytes generalizing state written with
  | nil => exact ⟨state, rfl, by rwa [List.append_nil]⟩
  | cons byte rest ih =>
    obtain ⟨ready, waited, kept⟩ := talks.sendReady held
    obtain ⟨sent, send, kept⟩ := talks.send kept byte
    obtain ⟨next, others, kept⟩ := ih kept
    refine ⟨next, ?_, by rwa [List.append_assoc] at kept⟩
    have first : Uart.send platform.registers platform.patience byte state = .ok () sent := by
      rw [Uart.send, Action.bind_ok waited]
      exact Action.adapt_ok send _
    rw [Uart.sendAll, Action.bind_ok first]
    exact others

/-- A byte in front is received. -/
theorem receive_front (talks : platform.Talks view) {byte : UInt8}
    (held : view.Holds state (byte :: unread) written) :
    ∃ next, Uart.receive platform.registers platform.patience state = .ok byte next ∧
      view.Holds next unread written := by
  obtain ⟨ready, waited, kept⟩ := talks.receiveReady held
  obtain ⟨next, received, kept⟩ := talks.receive kept
  refine ⟨next, ?_, kept⟩
  rw [Uart.receive, Action.bind_ok waited]
  exact Action.adapt_ok received _

/-- Bytes that have arrived are received as they stand. -/
theorem receiveAll_enough (talks : platform.Talks view) (count : Nat)
    (held : view.Holds state unread written) (enough : count ≤ unread.length) :
    ∃ next, Uart.receiveAll platform.registers platform.patience count state =
      .ok (unread.take count) next ∧ view.Holds next (unread.drop count) written := by
  induction count generalizing state unread with
  | zero => exact ⟨state, rfl, held⟩
  | succ count ih =>
    obtain _ | ⟨byte, rest⟩ := unread
    · exact absurd enough (Nat.not_succ_le_zero count)
    rw [List.length_cons] at enough
    obtain ⟨middle, first, kept⟩ := talks.receive_front held
    obtain ⟨next, others, kept⟩ := ih kept (by omega)
    refine ⟨next, ?_, kept⟩
    rw [Uart.receiveAll, Action.bind_ok first, Action.bind_ok others]
    rfl

/-- Where fewer bytes are left, these are taken and the waiting for the next one ends. -/
theorem receiveAll_short (talks : platform.Talks view) (count : Nat)
    (held : view.Holds state unread written) (short : unread.length < count) :
    ∃ error next, Uart.receiveAll platform.registers platform.patience count state =
      .error error next ∧ view.Holds next [] written := by
  induction unread generalizing state count with
  | nil =>
    obtain ⟨count, rfl⟩ := Nat.exists_eq_add_one_of_ne_zero (Nat.ne_of_gt short)
    obtain ⟨error, next, waited, kept⟩ := talks.ended held
    refine ⟨error, next, ?_, kept⟩
    have failed : Uart.receive platform.registers platform.patience state = .error error next := by
      rw [Uart.receive, Action.bind_error waited]
    rw [Uart.receiveAll, Action.bind_error failed]
  | cons byte rest ih =>
    rw [List.length_cons] at short
    obtain ⟨count, rfl⟩ := Nat.exists_eq_add_one_of_ne_zero (by omega : count ≠ 0)
    obtain ⟨middle, first, kept⟩ := talks.receive_front held
    obtain ⟨error, next, failed, kept⟩ := ih count kept (by omega)
    refine ⟨error, next, ?_, kept⟩
    rw [Uart.receiveAll, Action.bind_ok first, Action.bind_error failed]

/-- Seen as a stream, the UART carries bytes. -/
theorem uart_carries (talks : platform.Talks view) : platform.uart.Carries view.Holds where
  read := by
    intro state unread written want held wanted
    by_cases enough : want ≤ unread.length
    · obtain ⟨next, received, kept⟩ := talks.receiveAll_enough want held enough
      exact .inl ⟨want, next, Nat.le_refl want, fun _ => wanted, received, kept⟩
    · have short : unread.length < want := by omega
      obtain ⟨error, next, failed, kept⟩ := talks.receiveAll_short want held short
      exact .inr ⟨short, error, next, failed, kept⟩
  write := by
    intro state unread written bytes held present
    obtain ⟨next, sent, kept⟩ := talks.sendAll_all bytes held
    refine ⟨bytes.length, next, List.length_pos_iff.2 present, Nat.le_refl _, ?_, ?_⟩
    · exact Action.bind_ok sent _
    · rwa [List.take_length]
  pending := talks.pending

/-- A log record goes on the line as console text, behind the time. -/
theorem log_line (talks : platform.Talks view) (record : LogRecord)
    (held : view.Holds state unread written) :
    ∃ microseconds next, platform.log record state = .ok () next ∧
      view.Holds next unread
        (written ++ Console.encode (Console.logLine microseconds record ++ "\n")) := by
  obtain ⟨cycles, timed, clock, kept⟩ := talks.cycles held
  obtain ⟨next, printed, kept⟩ := talks.sendAll_all
    (Console.encode
      (Console.logLine (cycles / Clock.cyclesPerMicrosecond).toNat record ++ "\n")) kept
  exact ⟨_, next, (Action.bind_ok (Action.adapt_ok clock _) _).trans printed, kept⟩

/-- Waiting for a register loses nothing. -/
theorem await_along (talks : platform.Talks view) (address : UInt32) (patience : Nat) :
    Action.Along view.Grows
      (Board.await (Uart.isReady <$> platform.registers.readByte address) patience) := by
  induction patience with
  | zero => exact .throw _
  | succ patience ih =>
    rw [Board.await]
    refine .bind (((talks.readByte address).map _).adapt _) fun ready => ?_
    cases ready with
    | false => exact ih
    | true => exact .pure ()

/-- Sending bytes loses nothing, however it ends. -/
theorem sendAll_along (talks : platform.Talks view) (bytes : List UInt8) :
    Action.Along view.Grows (Uart.sendAll platform.registers platform.patience bytes) := by
  induction bytes with
  | nil => exact .pure ()
  | cons byte rest ih =>
    refine .bind ?_ fun _ => ih
    exact .bind (talks.await_along _ _) fun _ => (talks.writeByte _ _).adapt _

/-- Receiving bytes loses nothing, however it ends. -/
theorem receiveAll_along (talks : platform.Talks view) (count : Nat) :
    Action.Along view.Grows (Uart.receiveAll platform.registers platform.patience count) := by
  induction count with
  | zero => exact .pure []
  | succ count ih =>
    refine .bind ?_ fun byte => .bind ih fun rest => .pure _
    exact .bind (talks.await_along _ _) fun _ => (talks.readByte _).adapt _

/-- No transfer over the UART loses anything. -/
theorem uart_along (talks : platform.Talks view) : platform.uart.Along view.Grows where
  read := talks.receiveAll_along
  write bytes := .bind (talks.sendAll_along bytes) fun _ => .pure _

/-- No log record loses anything. -/
theorem log_along (talks : platform.Talks view) (record : LogRecord) :
    Action.Along view.Grows (platform.log record) :=
  .bind (talks.readClock.adapt _) fun _ => talks.sendAll_along _

/-- No access of the monitor to the board loses anything. -/
theorem target_along (talks : platform.Talks view) :
    (MonitorImage.target platform).Along view.Grows where
  readWord address := (talks.readWord address).adapt _
  writeWord address data := (talks.writeWord address data).adapt _
  startRasterizer := (talks.writeWord _ _).adapt _
  rasterizerBusy := ((talks.readWord _).adapt _).map _
  cycles := talks.readClock.adapt _

end Talks

end Platform

end Bringup
