import Bringup.Simulation.Memory
import Bringup.Text.Radix
/-!
# The memory controller

A behavioural model of a DDR3 controller as its bus master sees it. DRAM timing is not
tracked. The controller takes a while to come up, queues a few commands, completes each one
a fixed number of cycles after it was started, and puts in a refresh at regular intervals.
One step of the model is one clock cycle.
-/

namespace Bringup

/-- What the bus master drives in one cycle. -/
structure MemoryRequest where
  burstBegin : Bool := false
  /-- The address of a word. -/
  address : UInt32 := 0
  data : UInt64 := 0
  byteEnable : UInt32 := 0
  read : Bool := false
  write : Bool := false
  /-- The number of words in the burst. -/
  size : UInt32 := 0
  deriving DecidableEq, Repr

/-- What the controller drives in one cycle. -/
structure MemoryResponse where
  ready : Bool := false
  data : UInt64 := 0
  /-- Whether the data is the answer to a read. -/
  valid : Bool := false
  deriving DecidableEq, Repr

/-- A request that the controller cannot serve. -/
inductive Violation where
  | readAndWrite
  | burstWithoutRequest
  | burstSize (size : UInt32)
  | addressOutOfRange (address : UInt32)
  deriving DecidableEq, Repr

/-- The kind of a violation. -/
def Violation.kind : Violation → String
  | .readAndWrite => "ReadAndWrite"
  | .burstWithoutRequest => "BurstWithoutRequest"
  | .burstSize _ => "BurstSize"
  | .addressOutOfRange _ => "AddressOutOfRange"

/-- The wording of a violation. -/
def Violation.message : Violation → String
  | .readAndWrite => "read and write requested in the same cycle"
  | .burstWithoutRequest => "burstbegin asserted without a read or write request"
  | .burstSize size =>
    "burst of size " ++ Text.decimal size.toNat ++ " requested, only single beats are supported"
  | .addressOutOfRange address =>
    "word address " ++ Text.markedHex 1 address.toNat ++ " is outside the memory"

/-- What the controller carries out. -/
inductive MemoryCommand where
  | read (address : Nat) (byteEnable : UInt32)
  | write (address : Nat) (byteEnable : UInt32) (data : UInt64)
  | refresh
  deriving DecidableEq, Repr

/-- The command a request asks for, if any, of a memory of `words` words. -/
def MemoryRequest.command? (request : MemoryRequest) (words : Nat) :
    Except Violation (Option MemoryCommand) :=
  if request.read && request.write then .error .readAndWrite
  else if request.burstBegin && !(request.read || request.write) then .error .burstWithoutRequest
  else if request.burstBegin && request.size ≠ 1 then .error (.burstSize request.size)
  else if (request.read || request.write) && words ≤ request.address.toNat then
    .error (.addressOutOfRange request.address)
  else if request.read then .ok (some (.read request.address.toNat request.byteEnable))
  else if request.write then
    .ok (some (.write request.address.toNat request.byteEnable request.data))
  else .ok none

/-- The state of the controller and its memory. -/
structure Ddr3 where
  memory : Memory
  /-- Commands that wait to be started, the oldest first. -/
  queue : List MemoryCommand := []
  /-- The command in flight and the cycles it has been running. -/
  current : Option (MemoryCommand × Nat) := none
  sinceRefresh : Nat := 0
  /-- Cycles seen while coming up. -/
  startup : Nat := 0
  response : MemoryResponse := {}

namespace Ddr3

/-- The cycles it takes to come up. -/
def startupCycles : Nat := 100

/-- The most commands that wait. -/
def queueDepth : Nat := 10

/-- The cycles from the start of a command to its completion. -/
def latency : Nat := 2

/-- The cycles between refreshes. -/
def refreshInterval : Nat := 200

/-- The size of the memory unless another one is asked for. -/
def defaultWords : Nat := 0x1000000

/-- A controller that has seen no cycle. -/
def fresh (words : Nat) : Ddr3 := { memory := .zeros words }

/-- Whether the controller has come up. -/
def initDone (ddr3 : Ddr3) : Bool := startupCycles ≤ ddr3.startup

/-- There is no calibration to fail: it has succeeded once the controller has come up. -/
def calibrated (ddr3 : Ddr3) : Bool := ddr3.initDone

/-- Whether calibration has failed. -/
def calibrationFailed (_ : Ddr3) : Bool := false

/-- Carries a command out. A read leaves the bytes that are not enabled as the last read
left them. -/
def execute (ddr3 : Ddr3) : MemoryCommand → Ddr3
  | .read address byteEnable =>
    let data := mergeBytes byteEnable ddr3.response.data (ddr3.memory.get address)
    { ddr3 with response := { ddr3.response with data, valid := true } }
  | .write address byteEnable data =>
    let word := mergeBytes byteEnable (ddr3.memory.get address) data
    { ddr3 with memory := ddr3.memory.set address word }
  | .refresh => ddr3

/-- Completes the command in flight when its time has come. A controller without one starts
a refresh that is due, or else the oldest waiting command. -/
def progress (ddr3 : Ddr3) : Ddr3 :=
  match ddr3.current with
  | some (command, elapsed) =>
    if latency ≤ elapsed + 1 then execute { ddr3 with current := none } command
    else { ddr3 with current := some (command, elapsed + 1) }
  | none =>
    if refreshInterval ≤ ddr3.sinceRefresh then
      { ddr3 with current := some (.refresh, 0), sinceRefresh := 0 }
    else match ddr3.queue with
      | command :: queue => { ddr3 with current := some (command, 0), queue }
      | [] => ddr3

/-- What happens in a cycle before the request is looked at. -/
def advance (ddr3 : Ddr3) : Ddr3 :=
  progress { ddr3 with
    response := { ddr3.response with valid := false }, sinceRefresh := ddr3.sinceRefresh + 1 }

/-- Queues a command if there is room, and says so. -/
def enqueue (ddr3 : Ddr3) (command : Option MemoryCommand) : Ddr3 :=
  let ready := ddr3.queue.length < queueDepth
  { ddr3 with
    response := { ddr3.response with ready }
    queue := if ready then ddr3.queue ++ command.toList else ddr3.queue }

/-- One clock cycle. While the controller comes up it ignores the master. -/
def eval (request : MemoryRequest) : EStateM Violation Ddr3 MemoryResponse := fun ddr3 =>
  if ddr3.initDone then
    let advanced := ddr3.advance
    match request.command? advanced.memory.words with
    | .ok command =>
      let served := advanced.enqueue command
      .ok served.response served
    | .error violation => .error violation advanced
  else .ok ddr3.response { ddr3 with startup := ddr3.startup + 1 }

/-- At most `cycles` cycles with one and the same request, and the responses in order. A
violation ends the run. -/
def evalMany (request : MemoryRequest) : (cycles : Nat) → Ddr3 →
    List MemoryResponse × Option Violation × Ddr3
  | 0, ddr3 => ([], none, ddr3)
  | cycles + 1, ddr3 =>
    match eval request ddr3 with
    | .ok response ddr3 =>
      let (responses, violation, ddr3) := evalMany request cycles ddr3
      (response :: responses, violation, ddr3)
    | .error violation ddr3 => ([], some violation, ddr3)

end Ddr3

end Bringup
