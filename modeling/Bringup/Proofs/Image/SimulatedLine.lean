import Bringup.Image.Machine
import Bringup.Proofs.Image.Line
/-!
# The line of the simulated board

The simulated board talks (`Machine.talks`) as long as it is not told to stop after so many line
feeds and its UART is busy for less long than programs wait. Its record of what was sent only ever
grows, whichever register is touched.
-/

namespace Bringup.Machine

open Bringup.Action

/-- The simulated board as a line. -/
def line : LineView Machine where
  sound machine := machine.limits.lines = none ∧ machine.uartBusy < patience ∧
    machine.sendBusy < patience ∧ machine.receiveBusy < patience
  unread := Machine.unread
  written machine := machine.sent.toList

variable {machine : Machine} {unread written : List UInt8}

/-- A status that was read is busy for less long than it may be. -/
theorem status_lt {busy reload : Nat} (few : busy < patience) (again : reload < patience) :
    (status busy reload).2 < patience := by
  unfold status
  split
  · exact again
  · show busy - 1 < patience
    omega

/-- A status is ready when its busy readings are over. -/
theorem isReady_status (busy reload : Nat) :
    Uart.isReady (status busy reload).1.toUInt8 = (busy == 0) := by
  cases busy with
  | zero =>
    show Uart.isReady (1 : UInt32).toUInt8 = true
    decide
  | succ busy =>
    show Uart.isReady (0 : UInt32).toUInt8 = false
    decide

/-- A status that is not ready for long enough is waited for. -/
theorem await_status {poll : EStateM Stop Machine Bool} {reload : Nat} {place : Nat → Machine}
    (polled : ∀ busy, poll (place busy) =
      .ok (busy == 0) (place (status busy reload).2)) (busy : Nat) {polls : Nat}
    (enough : busy < polls) :
    Board.await poll polls (place busy) = .ok () (place reload) := by
  induction busy generalizing polls with
  | zero =>
    obtain ⟨polls, rfl⟩ := Nat.exists_eq_add_one_of_ne_zero (Nat.ne_of_gt enough)
    exact bind_ok (adapt_ok (polled 0) _) _
  | succ busy ih =>
    obtain ⟨polls, rfl⟩ := Nat.exists_eq_add_one_of_ne_zero (by omega : polls ≠ 0)
    exact (bind_ok (adapt_ok (polled (busy + 1)) _) _).trans (ih (by omega))

/-- Putting bytes into program memory changes nothing else. -/
theorem putBytes_program (machine : Machine) (offset : Nat) (bytes : List UInt8) :
    ∃ program, machine.putBytes offset bytes = { machine with program } := by
  induction bytes generalizing machine offset with
  | nil => exact ⟨machine.program, rfl⟩
  | cons byte rest ih =>
    obtain ⟨program, put⟩ := ih { machine with program := machine.program.insert offset byte }
      (offset + 1)
    exact ⟨program, by rw [putBytes, put]⟩

/-- A change of the board that leaves the line alone. -/
theorem grows_same {before after : Machine} (limits : after.limits = before.limits)
    (uartBusy : after.uartBusy = before.uartBusy) (sendBusy : after.sendBusy = before.sendBusy)
    (receiveBusy : after.receiveBusy = before.receiveBusy) (sent : after.sent = before.sent) :
    line.Grows before after := by
  intro sound
  refine ⟨?_, ?_⟩
  · simp only [line, limits, uartBusy, sendBusy, receiveBusy]
    exact sound
  · simp only [line, sent]
    exact List.prefix_rfl

/-- Stopping the image changes nothing. -/
theorem stopAt_along (limit : Option Nat) (count : Nat) (stop : Stop) :
    Along line.Grows (stopAt limit count stop) := by
  unfold stopAt
  split
  · exact .throw stop
  · exact .pure ()

/-- Whatever the UART is asked, nothing that was sent is lost. -/
theorem readUart_along (address : UInt32) : Along line.Grows (readUart address) := by
  intro machine
  by_cases sendStatus : address = Board.uartSendStatus
  · rw [attempt, readUart, if_pos sendStatus]
    rintro ⟨limits, uart, send, receive⟩
    exact ⟨⟨limits, uart, status_lt send uart, receive⟩, List.prefix_rfl⟩
  rw [attempt, readUart, if_neg sendStatus]
  by_cases receiveStatus : address = Board.uartReceiveStatus
  · rw [if_pos receiveStatus]
    cases machine.unread.isEmpty with
    | true => exact grows_same rfl rfl rfl rfl rfl
    | false =>
      rintro ⟨limits, uart, send, receive⟩
      exact ⟨⟨limits, uart, send, status_lt receive uart⟩, List.prefix_rfl⟩
  rw [if_neg receiveStatus]
  cases machine.unread <;> exact grows_same rfl rfl rfl rfl rfl

/-- Whatever the display is asked, nothing that was sent is lost. -/
theorem readDisplay_along (address : UInt32) : Along line.Grows (readDisplay address) := by
  intro machine
  by_cases status : address = Board.displayStatus
  · rw [attempt, readDisplay, if_pos status]
    exact grows_same rfl rfl rfl rfl rfl
  · rw [attempt, readDisplay, if_neg status]
    exact grows_same rfl rfl rfl rfl rfl

/-- Using the memory controller has nothing to do with the line. -/
theorem phyPart_along {α : Type} (action : EStateM Stop Calibration.Phy α) :
    Along line.Grows (phyPart.run action) :=
  Part.run_along (fun _ _ => grows_same rfl rfl rfl rfl rfl) action

/-- No register takes back what was sent when it is read. -/
theorem readWord_along (address : UInt32) : Along line.Grows (readWord address) := by
  unfold readWord
  split
  · exact readUart_along address
  split
  · exact readDisplay_along address
  split
  · exact .bind .get fun _ => .pure _
  refine .bind ?_ fun value => .bind (.modify fun _ => grows_same rfl rfl rfl rfl rfl) fun _ =>
    .pure value
  split
  · exact fun _ => grows_same rfl rfl rfl rfl rfl
  split
  · exact .bind .get fun _ => .pure _
  · exact phyPart_along _

/-- A byte that is sent is put behind the others. -/
theorem sendByte_along (byte : UInt8) : Along line.Grows (sendByte byte) := by
  refine .bind (.modify fun machine sound => ⟨sound, ?_⟩) fun _ => ?_
  · show machine.sent.toList <+: (machine.sent.push byte).toList
    rw [Array.toList_push]
    exact List.prefix_append _ _
  split
  · refine .bind (.modify fun _ => grows_same rfl rfl rfl rfl rfl) fun _ => ?_
    exact .bind .get fun _ => stopAt_along _ _ _
  · exact .pure ()

/-- Showing a frame has nothing to do with the line. -/
theorem showFrame_along (address crc : UInt32) : Along line.Grows (showFrame address crc) :=
  .bind (.modify fun _ => grows_same rfl rfl rfl rfl rfl) fun _ =>
    .bind .get fun _ => stopAt_along _ _ _

/-- The writes that are recorded have nothing to do with the line. -/
theorem writeRecorded_along (address value : UInt32) :
    Along line.Grows (writeRecorded address value) := by
  refine .bind (.modify fun _ => grows_same rfl rfl rfl rfl rfl) fun _ => ?_
  split
  · refine .bind (.modify fun _ => grows_same rfl rfl rfl rfl rfl) fun _ => ?_
    exact .bind .get fun _ => stopAt_along _ _ _
  split
  · exact .modify fun _ => grows_same rfl rfl rfl rfl rfl
  split
  · exact .modify fun _ => grows_same rfl rfl rfl rfl rfl
  · exact phyPart_along _

/-- No register takes back what was sent when it is written. -/
theorem writeWord_along (address value : UInt32) : Along line.Grows (writeWord address value) := by
  unfold writeWord
  split
  · exact sendByte_along _
  split
  · exact .bind .get fun _ => showFrame_along _ _
  split
  · exact .modify fun _ => grows_same rfl rfl rfl rfl rfl
  split
  · rename_i offset _
    refine .modify fun machine => ?_
    obtain ⟨program, put⟩ := machine.putBytes_program offset (LittleEndian.bytes32 value)
    rw [put]
    exact grows_same rfl rfl rfl rfl rfl
  · exact writeRecorded_along _ _

/-- The status for sending reads as ready when its busy readings are over. -/
theorem sendStatus_polled (machine : Machine) (busy : Nat) :
    (Uart.isReady <$> platform.registers.readByte Board.uartSendStatus)
        { machine with sendBusy := busy } =
      .ok (busy == 0) { machine with sendBusy := (status busy machine.uartBusy).2 } := by
  have read : readWord Board.uartSendStatus { machine with sendBusy := busy } =
      .ok (status busy machine.uartBusy).1
        { machine with sendBusy := (status busy machine.uartBusy).2 } := by
    rw [readWord, if_pos (by decide), readUart, if_pos rfl]
  rw [← isReady_status busy machine.uartBusy]
  exact map_ok (map_ok read _) _

/-- So does the status for receiving, as long as there is a byte. -/
theorem receiveStatus_polled (machine : Machine) (present : machine.unread ≠ []) (busy : Nat) :
    (Uart.isReady <$> platform.registers.readByte Board.uartReceiveStatus)
        { machine with receiveBusy := busy } =
      .ok (busy == 0) { machine with receiveBusy := (status busy machine.uartBusy).2 } := by
  have read : readWord Board.uartReceiveStatus { machine with receiveBusy := busy } =
      .ok (status busy machine.uartBusy).1
        { machine with receiveBusy := (status busy machine.uartBusy).2 } := by
    rw [readWord, if_pos (by decide), readUart, if_neg (by decide), if_pos rfl,
      if_neg (by rwa [List.isEmpty_iff])]
  rw [← isReady_status busy machine.uartBusy]
  exact map_ok (map_ok read _) _

/-- A byte is sent, whatever it is, as long as the board does not count line feeds. -/
theorem sendByte_sent (byte : UInt8) (held : line.Holds machine unread written) :
    ∃ next, sendByte byte machine = .ok () next ∧ line.Holds next unread (written ++ [byte]) := by
  obtain ⟨⟨limits, busy⟩, left, before⟩ := held
  let pushed := { machine with sent := machine.sent.push byte }.record (.sent byte)
  have sent : pushed.sent.toList = written ++ [byte] := by
    rw [← before]
    exact Array.toList_push
  have push : (modify fun machine =>
      { machine with sent := machine.sent.push byte }.record (.sent byte) :
        EStateM Stop Machine PUnit) machine = .ok ⟨⟩ pushed := rfl
  by_cases feed : byte = 0x0a
  · refine ⟨{ pushed with lineCount := pushed.lineCount + 1 }, ?_, ⟨limits, busy⟩, left, sent⟩
    refine (bind_ok push _).trans ?_
    rw [if_pos feed]
    show stopAt machine.limits.lines _ _ _ = _
    rw [limits]
    rfl
  · refine ⟨pushed, ?_, ⟨limits, busy⟩, left, sent⟩
    refine (bind_ok push _).trans ?_
    rw [if_neg feed]
    rfl

/-- The simulated board has a line. -/
theorem talks : platform.Talks line where
  sendReady := by
    rintro machine unread written ⟨⟨limits, uart, send, receive⟩, left, before⟩
    refine ⟨_, await_status machine.sendStatus_polled machine.sendBusy send, ?_, left, before⟩
    exact ⟨limits, uart, uart, receive⟩
  send := by
    intro machine unread written held byte
    obtain ⟨next, sent, kept⟩ := sendByte_sent byte held
    refine ⟨next, Eq.trans ?_ sent, kept⟩
    show writeWord Board.uartSend byte.toUInt32 machine = _
    rw [writeWord, if_pos rfl, UInt8.toUInt8_toUInt32]
  receiveReady := by
    rintro machine byte unread written ⟨⟨limits, uart, send, receive⟩, left, before⟩
    have present : machine.unread ≠ [] := by
      change machine.unread = byte :: unread at left
      rw [left]
      exact List.cons_ne_nil byte unread
    refine ⟨_, await_status (machine.receiveStatus_polled present) machine.receiveBusy receive, ?_,
      left, before⟩
    exact ⟨limits, uart, send, uart⟩
  receive := by
    rintro machine byte unread written ⟨sound, left, before⟩
    have read : readWord Board.uartReceive machine =
        .ok byte.toUInt32 ({ machine with unread }.record (.received byte)) := by
      change machine.unread = _ at left
      rw [readWord, if_pos (by decide), readUart, if_neg (by decide), if_neg (by decide), left]
    refine ⟨{ machine with unread }.record (.received byte), (map_ok read _).trans ?_, sound, rfl,
      before⟩
    rw [UInt8.toUInt8_toUInt32]
  ended := by
    rintro machine written ⟨sound, left, before⟩
    have waited : readWord Board.uartReceiveStatus machine = .error .uart machine := by
      change machine.unread = [] at left
      rw [readWord, if_pos (by decide), readUart, if_neg (by decide), if_pos rfl, left]
      rfl
    obtain ⟨polls, positive⟩ : ∃ polls, patience = polls + 1 := ⟨UInt32.size - 1, by decide⟩
    refine ⟨.device .uart, machine, ?_, sound, left, before⟩
    show Board.await _ patience machine = _
    rw [positive]
    exact bind_error (adapt_error (map_error (map_error waited _) _) _) _
  cycles held := ⟨_, _, rfl, held⟩
  pending := by
    rintro machine unread written ⟨_, rfl, _⟩
    exact Nat.le_refl _
  readByte address := (readWord_along address).map _
  writeByte address value := writeWord_along address value.toUInt32
  readWord := readWord_along
  writeWord := writeWord_along
  readClock := by
    show Along line.Grows (counterPart.run ReadingCounter.clock.cycles)
    exact Part.run_along (fun _ _ => grows_same rfl rfl rfl rfl rfl) _

/-- Writing to the beginning of the tile buffer is recorded and kept. -/
theorem writeTile_ok (machine : Machine) (value : UInt32) :
    writeWord tileBase value machine = .ok ()
      { machine.record (.touched (.write tileBase value)) with
        tile := machine.tile.insert tileBase value } := by
  rw [writeWord, if_neg (by decide), if_neg (by decide), if_neg (by decide)]
  rfl

/-- Reading the beginning of the tile buffer gives what is kept there, and is recorded. -/
theorem readTile_ok {value : UInt32} (kept : machine.tile.getD tileBase 0 = value) :
    readWord tileBase machine = .ok value (machine.record (.touched (.read tileBase value))) := by
  subst kept
  rw [readWord, if_neg (by decide), if_neg (by decide)]
  rfl

end Bringup.Machine
