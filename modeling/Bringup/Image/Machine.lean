import Bringup.Calibration.Phy
import Bringup.Image.Platform
import Bringup.Text.Digest
import Std.Data.HashMap
/-!
# A simulated board

The board answers every register that an image may touch, keeps a record of what the image
does, and stops the image: when nothing is left to be received, when enough was done, or when
the image jumps into a loaded program.
-/

namespace Bringup

/-- Why the board stopped an image. -/
inductive Stop where
  /-- The image waits for a byte and none is left. -/
  | uart
  /-- It sent enough line feeds. -/
  | lines
  /-- It set the LEDs often enough. -/
  | leds
  /-- It showed enough frames. -/
  | frames
  /-- It jumped into the loaded program. -/
  | jump
  deriving DecidableEq, Repr

/-- The name of a stop. -/
def Stop.name : Stop → String
  | .uart => "uart"
  | .lines => "lines"
  | .leds => "leds"
  | .frames => "frames"
  | .jump => "jump"

/-- What an image did on the board. -/
inductive MachineEvent where
  | sent (byte : UInt8)
  | received (byte : UInt8)
  /-- Drove the I2C lines of the display. -/
  | droveLines (value : UInt8)
  /-- Looked whether the display is in its vertical blank. -/
  | sawBlank (blank : Bool)
  /-- Showed a frame whose pixels have this check value. -/
  | showed (frame : Nat) (crc : UInt32)
  /-- Touched any other register. -/
  | touched (access : Access)
  /-- Jumped into a program whose beginning has this check value. -/
  | jumped (crc : UInt32)
  deriving DecidableEq, Repr

/-- After how many occurrences the board stops an image. -/
structure StopLimits where
  lines : Option Nat := none
  leds : Option Nat := none
  frames : Option Nat := none

/-- The simulated board. -/
structure Machine where
  limits : StopLimits
  /-- How often a UART status reads as busy before it reads as ready. -/
  uartBusy : Nat
  /-- Busy readings left of the status for sending. -/
  sendBusy : Nat
  /-- Busy readings left of the status for receiving. -/
  receiveBusy : Nat
  unread : List UInt8
  sent : Array UInt8 := #[]
  /-- How often the display is not in its vertical blank after a frame was shown. -/
  blankWait : Nat
  /-- Such readings left. -/
  blankLeft : Nat
  /-- Values of the I2C lines and how often each is read, the last one for ever. -/
  lineRuns : List (UInt32 × Nat)
  /-- The busy readings of the rasterizer's runs to come. -/
  rasterizerRuns : List Nat
  /-- Busy readings left of the rasterizer. -/
  rasterizerBusy : Nat := 0
  /-- Words of the tile buffer that were written. -/
  tile : Std.HashMap UInt32 UInt32 := ∅
  /-- Bytes of program memory that were written. -/
  program : Std.HashMap Nat UInt8 := ∅
  phy : Calibration.Phy
  counter : ReadingCounter := ⟨0⟩
  /-- The addresses of frames, in the order in which they were first shown. -/
  frames : List UInt32 := []
  lineCount : Nat := 0
  ledCount : Nat := 0
  frameCount : Nat := 0
  events : Array MachineEvent := #[]

namespace Machine

/-- Where program memory begins. -/
def programBase : UInt32 := 0x10004000

/-- The size of program memory. -/
def programSize : Nat := 0xfc000

/-- The size of the tile buffer. -/
def tileSize : Nat := 0x1000

/-- The bytes of a program that its check value covers. -/
def checkedBytes : Nat := 4096

/-- The offset of an address in a region. -/
def offsetIn (base : UInt32) (size : Nat) (address : UInt32) : Option Nat :=
  if base.toNat ≤ address.toNat ∧ address.toNat < base.toNat + size
  then some (address.toNat - base.toNat) else none

/-- A board on which nothing was done: what the UART brings, how often its status and the
display are not ready, the values of the I2C lines and the rasterizer's runs. -/
def fresh (limits : StopLimits) (unread : List UInt8) (uartBusy blankWait : Nat)
    (lineRuns : List (UInt32 × Nat)) (rasterizerRuns : List Nat) (phy : Calibration.Phy) :
    Machine where
  limits
  uartBusy
  sendBusy := uartBusy
  receiveBusy := uartBusy
  unread
  blankWait
  blankLeft := blankWait
  lineRuns
  rasterizerRuns
  phy

/-- Adds an event to the record. -/
def record (machine : Machine) (event : MachineEvent) : Machine :=
  { machine with events := machine.events.push event }

/-- A byte of program memory. -/
def programByte (machine : Machine) (offset : Nat) : UInt8 := machine.program.getD offset 0

/-- A word of program memory. -/
def programWord (machine : Machine) (offset : Nat) : UInt32 :=
  LittleEndian.word32 ((List.range 4).map fun index => machine.programByte (offset + index))

/-- Puts bytes into program memory. -/
def putBytes (machine : Machine) : (offset : Nat) → List UInt8 → Machine
  | _, [] => machine
  | offset, byte :: rest =>
    putBytes { machine with program := machine.program.insert offset byte } (offset + 1) rest

/-- Stops the image if this was the occurrence that the limit names. -/
def stopAt (limit : Option Nat) (count : Nat) (stop : Stop) : EStateM Stop Machine Unit :=
  if limit = some count then throw stop else pure ()

/-- The next value of the I2C lines. Without any, the clock is high and the data low. -/
def nextLines : List (UInt32 × Nat) → UInt32 × List (UInt32 × Nat)
  | [] => (1, [])
  | [(value, count)] => (value, [(value, count)])
  | (value, count + 1) :: rest => (value, (value, count) :: rest)
  | (_, 0) :: rest => nextLines rest

/-- Reads a status that is busy a number of times before it is ready. -/
def status (busy reload : Nat) : UInt32 × Nat :=
  if busy = 0 then (1, reload) else (0, busy - 1)

/-- Reads a register and records it. -/
def readRecorded (address : UInt32) (read : EStateM Stop Machine UInt32) :
    EStateM Stop Machine UInt32 := do
  let value ← read
  modify (·.record (.touched (.read address value)))
  pure value

/-- Part of the board that stands in for the memory controller. -/
def phyPart : Part Machine Calibration.Phy :=
  ⟨fun machine => (machine.phy, fun phy => { machine with phy })⟩

/-- The cycle counter. -/
def counterPart : Part Machine ReadingCounter :=
  ⟨fun machine => (machine.counter, fun counter => { machine with counter })⟩

/-- Reads a register of the UART. -/
def readUart (address : UInt32) : EStateM Stop Machine UInt32 := fun machine =>
  if address = Board.uartSendStatus then
    let (value, sendBusy) := status machine.sendBusy machine.uartBusy
    .ok value { machine with sendBusy }
  else if address = Board.uartReceiveStatus then
    if machine.unread.isEmpty then .error .uart machine
    else
      let (value, receiveBusy) := status machine.receiveBusy machine.uartBusy
      .ok value { machine with receiveBusy }
  else
    match machine.unread with
    | byte :: unread => .ok byte.toUInt32 ({ machine with unread }.record (.received byte))
    | [] => .ok 0 (machine.record (.received 0))

/-- Reads a register of the display. -/
def readDisplay (address : UInt32) : EStateM Stop Machine UInt32 := fun machine =>
  if address = Board.displayStatus then
    let blank := machine.blankLeft == 0
    let machine := { machine with blankLeft := machine.blankLeft - 1 }.record (.sawBlank blank)
    .ok (if blank then 1 else 0) machine
  else
    let (value, lineRuns) := nextLines machine.lineRuns
    .ok value { machine with lineRuns }

/-- Reads the rasterizer: whether it is busy. -/
def readRasterizer : EStateM Stop Machine UInt32 := fun machine =>
  .ok (if machine.rasterizerBusy = 0 then 0 else 1)
    { machine with rasterizerBusy := machine.rasterizerBusy - 1 }

/-- Reads a word. -/
def readWord (address : UInt32) : EStateM Stop Machine UInt32 := do
  if address ∈ [Board.uartSendStatus, Board.uartReceiveStatus, Board.uartReceive] then
    readUart address
  else if address ∈ [Board.displayStatus, Board.displayLinesRead] then readDisplay address
  else if let some offset := offsetIn programBase programSize address then
    pure ((← get).programWord offset)
  else readRecorded address do
    if address = Board.rasterizer then readRasterizer
    else if (offsetIn tileBase tileSize address).isSome then pure ((← get).tile.getD address 0)
    else phyPart.run (Calibration.Phy.bus.read address)

/-- Sends a byte. -/
def sendByte (byte : UInt8) : EStateM Stop Machine Unit := do
  modify fun machine => { machine with sent := machine.sent.push byte }.record (.sent byte)
  if byte = 0x0a then
    modify fun machine => { machine with lineCount := machine.lineCount + 1 }
    let machine ← get
    stopAt machine.limits.lines machine.lineCount .lines

/-- Shows the frame at an address, given the check value of its pixels. -/
def showFrame (address : UInt32) (crc : UInt32) : EStateM Stop Machine Unit := do
  modify fun machine =>
    let frames := if address ∈ machine.frames then machine.frames else machine.frames ++ [address]
    let machine := { machine with
      frames, frameCount := machine.frameCount + 1, blankLeft := machine.blankWait }
    machine.record (.showed (frames.idxOf address) crc)
  let machine ← get
  stopAt machine.limits.frames machine.frameCount .frames

/-- The check value of a frame in memory, of which only program memory holds anything. -/
def frameCrc (machine : Machine) (address : UInt32) : UInt32 :=
  Crc32.checksum ((List.range (2 * screenPixels)).map fun index =>
    ((offsetIn programBase programSize (address + .ofNat index)).map machine.programByte).getD 0)

/-- What a recorded write does. -/
def writeRecorded (address value : UInt32) : EStateM Stop Machine Unit := do
  modify (·.record (.touched (.write address value)))
  if address = Board.leds then
    modify fun machine => { machine with ledCount := machine.ledCount + 1 }
    let machine ← get
    stopAt machine.limits.leds machine.ledCount .leds
  else if address = Board.rasterizer then
    modify fun machine => { machine with
      rasterizerBusy := machine.rasterizerRuns.headD 0
      rasterizerRuns := machine.rasterizerRuns.tail }
  else if (offsetIn tileBase tileSize address).isSome then
    modify fun machine => { machine with tile := machine.tile.insert address value }
  else phyPart.run (Calibration.Phy.bus.write address value)

/-- Writes a word. -/
def writeWord (address value : UInt32) : EStateM Stop Machine Unit :=
  if address = Board.uartSend then sendByte value.toUInt8
  else if address = Board.displayFrame then do showFrame value ((← get).frameCrc value)
  else if address = Board.displayLinesWrite then modify (·.record (.droveLines value.toUInt8))
  else
    match offsetIn programBase programSize address with
    | some offset => modify (·.putBytes offset (LittleEndian.bytes32 value))
    | none => writeRecorded address value

/-- Shows a frame of the program that runs. -/
def publish (frame : Frame) : EStateM Stop Machine Unit :=
  showFrame frame.address (Crc32.checksumHalves frame.surface.pixels)

/-- The check value of the beginning of program memory. -/
def programCrc (machine : Machine) : UInt32 :=
  Crc32.checksum ((List.range checkedBytes).map machine.programByte)

/-- More polls than any script of the board has busy readings. -/
def patience : Nat := UInt32.size

/-- The board as images see it. -/
def platform : Platform Machine Stop where
  registers := {
    readByte := fun address => UInt32.toUInt8 <$> readWord address
    writeByte := fun address value => writeWord address value.toUInt32
    readWord
    writeWord }
  clock := ReadingCounter.clock.onPart counterPart
  scanout := {
    inVerticalBlank := (· &&& 1 != 0) <$> readWord Board.displayStatus
    publish }
  pending machine := machine.unread.length
  programSize
  storeProgram offset byte := modify (·.putBytes offset [byte])
  jump := do
    modify fun machine => machine.record (.jumped machine.programCrc)
    throw .jump
  patience

/-- Rounds after which the board has stopped any image that it stops at all. -/
def rounds (machine : Machine) : Nat :=
  machine.unread.length + machine.limits.lines.getD 0 + machine.limits.leds.getD 0
    + machine.limits.frames.getD 0 + 1

/-- Runs an image until the board stops it. -/
def run (image : Platform Machine Stop → Nat → EStateM (Halt Stop) Machine Unit)
    (machine : Machine) : Option Stop × Machine :=
  match image platform machine.rounds machine with
  | .error (.device stop) machine => (some stop, machine)
  | .error _ machine => (none, machine)
  | .ok _ machine => (none, machine)

end Machine

/-- What the host heard. -/
inductive Heard where
  /-- Console text and nothing else. -/
  | console (text : String)
  | bytes (bytes : List UInt8)

/-- Every other entry of a list, from the first on. -/
def everyOther {α : Type} : List α → List α
  | [] => []
  | [a] => [a]
  | a :: _ :: rest => a :: everyOther rest

/-- Reads what was sent: console text if only messages with a console byte were sent. -/
def Heard.of (sent : List UInt8) : Heard :=
  if (everyOther sent).all (· == 0) then .console (Text.decodeLossy (everyOther (sent.drop 1)))
  else .bytes sent

/-- A record under construction: the finished entries, and the one that still grows. -/
structure Transcript where
  entries : Array String := #[]
  growing : Option (String × String) := none

namespace Transcript

/-- The longest entry that is shown as it is. -/
def longest : Nat := 200

/-- An entry of a kind; a long one is shown by its length and check value. -/
def entry (kind text : String) : String :=
  if longest < kind.length + text.length then
    kind ++ "#" ++ Text.decimal text.length ++ ":"
      ++ Text.hex 8 (Crc32.checksum (Text.utf8Bytes text)).toNat
  else kind ++ text

/-- Finishes the entry that grows. -/
def finish (transcript : Transcript) : Transcript :=
  match transcript.growing with
  | some (kind, text) => ⟨transcript.entries.push (entry kind text), none⟩
  | none => transcript

/-- Adds an entry that stands alone. -/
def single (transcript : Transcript) (text : String) : Transcript :=
  let finished := transcript.finish
  ⟨finished.entries.push text, none⟩

/-- Adds to the growing entry if it is of the same kind, or begins one. -/
def grow (transcript : Transcript) (kind text : String) : Transcript :=
  match transcript.growing with
  | some (current, sofar) =>
    if current = kind then { transcript with growing := some (kind, sofar ++ text) }
    else { transcript.finish with growing := some (kind, text) }
  | none => { transcript with growing := some (kind, text) }

/-- Adds an event. -/
def add (transcript : Transcript) : MachineEvent → Transcript
  | .sent byte => transcript.grow "T" (Text.hex 2 byte.toNat)
  | .received byte => transcript.grow "U" (Text.hex 2 byte.toNat)
  | .droveLines value => transcript.grow "I" (Text.decimal value.toNat)
  | .sawBlank blank => transcript.grow "V" (if blank then "1" else "0")
  | .showed frame crc =>
    transcript.single ("F" ++ Text.decimal frame ++ " " ++ Text.hex 8 crc.toNat)
  | .touched access => transcript.single access.wideText
  | .jumped crc => transcript.single
    ("jump " ++ Text.hex 8 Machine.programBase.toNat ++ " " ++ Text.hex 8 crc.toNat)

/-- The entries of a record of events. -/
def ofEvents (events : Array MachineEvent) : Array String :=
  (events.foldl add {}).finish.entries

end Transcript

end Bringup
