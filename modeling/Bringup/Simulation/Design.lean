import Bringup.Simulation.Ddr3
import Bringup.Text.Utf8
/-!
# Simulated designs

A compiled design is driven through its ports: each can be read and set, the design can be
evaluated and shut down, and a point in time can be added to its trace. What lies behind the
ports is left open.
-/

namespace Bringup

/-- The designs there are benches for. -/
inductive Top where
  /-- The complete system: processor, program ROM port, LEDs and memory bus. -/
  | system
  /-- A traffic generator on the memory bus, with the status of the controller. -/
  | memoryTest
  deriving DecidableEq, Repr

/-- The name of a design. -/
def Top.name : Top → String
  | .system => "xenowing"
  | .memoryTest => "ddr3_test"

/-- The ports of the designs. -/
inductive Port where
  | resetN | clk
  | programRomAddr | programRomQ
  | leds | ledsN
  | avlReady | avlBurstBegin | avlAddr | avlRdataValid | avlRdata | avlWdata | avlBe
  | avlReadReq | avlWriteReq | avlSize
  | ddr3InitDone | ddr3CalSuccess | ddr3CalFail
  deriving DecidableEq, Repr

namespace Port

/-- All ports. -/
def all : List Port :=
  [.resetN, .clk, .programRomAddr, .programRomQ, .leds, .ledsN, .avlReady, .avlBurstBegin, .avlAddr,
    .avlRdataValid, .avlRdata, .avlWdata, .avlBe, .avlReadReq, .avlWriteReq, .avlSize,
    .ddr3InitDone, .ddr3CalSuccess, .ddr3CalFail]

/-- The place of a port among all ports. -/
def index (port : Port) : Fin all.length := ⟨port.ctorIdx, by cases port <;> decide⟩

/-- The name of a port. -/
def name : Port → String
  | .resetN => "reset_n"
  | .clk => "clk"
  | .programRomAddr => "program_rom_addr"
  | .programRomQ => "program_rom_q"
  | .leds => "leds"
  | .ledsN => "leds_n"
  | .avlReady => "avl_ready"
  | .avlBurstBegin => "avl_burstbegin"
  | .avlAddr => "avl_addr"
  | .avlRdataValid => "avl_rdata_valid"
  | .avlRdata => "avl_rdata"
  | .avlWdata => "avl_wdata"
  | .avlBe => "avl_be"
  | .avlReadReq => "avl_read_req"
  | .avlWriteReq => "avl_write_req"
  | .avlSize => "avl_size"
  | .ddr3InitDone => "ddr3_init_done"
  | .ddr3CalSuccess => "ddr3_cal_success"
  | .ddr3CalFail => "ddr3_cal_fail"

/-- The port of a name. -/
def named? (name : String) : Option Port := all.find? (·.name == name)

/-- Whether a port carries 64 bits; the others carry 32 at most. -/
def isWide : Port → Bool
  | .avlRdata | .avlWdata => true
  | _ => false

/-- What remains of a value on a port. -/
def fit (port : Port) (value : UInt64) : UInt64 :=
  if port.isWide then value else value.toUInt32.toUInt64

end Port

/-- A compiled design over a state `σ`. -/
structure Design (σ : Type) where
  get : Port → σ → UInt64
  set : Port → UInt64 → σ → σ
  eval : σ → σ
  /-- Shuts the design down. -/
  finish : σ → σ
  /-- Adds a point in time to the trace. -/
  dump : (time : Nat) → σ → σ

namespace Design

variable {σ : Type}

/-- The value of a port of 32 bits. -/
def word (design : Design σ) (port : Port) (state : σ) : UInt32 := (design.get port state).toUInt32

/-- The value of a port of one bit. Every number but zero stands for high. -/
def isHigh (design : Design σ) (port : Port) (state : σ) : Bool := design.word port state ≠ 0

/-- The request that the design's bus master drives. -/
def request (design : Design σ) (state : σ) : MemoryRequest where
  burstBegin := design.isHigh .avlBurstBegin state
  address := design.word .avlAddr state
  data := design.get .avlWdata state
  byteEnable := design.word .avlBe state
  read := design.isHigh .avlReadReq state
  write := design.isHigh .avlWriteReq state
  size := design.word .avlSize state

/-- A design beside something else. -/
def onFirst {ρ : Type} (design : Design σ) : Design (σ × ρ) where
  get port state := design.get port state.1
  set port value state := (design.set port value state.1, state.2)
  eval state := (design.eval state.1, state.2)
  finish state := (design.finish state.1, state.2)
  dump time state := (design.dump time state.1, state.2)

end Design

/-- Why a simulation could not be set up or went wrong. -/
inductive SimulationError where
  /-- There is no design that can be loaded, for this cause. -/
  | load (path cause : String)
  /-- What was loaded lacks a symbol, for this cause. -/
  | symbol (name cause : String)
  /-- The design returned no port table. -/
  | noPorts
  /-- The design is another one than the bench is for. -/
  | wrongTop (expected : Top) (found : String)
  /-- No trace could be opened. -/
  | trace (path : String)
  | romTooLarge (length capacity : Nat)
  | protocol (cycle : Nat) (violation : Violation)
  deriving DecidableEq, Repr

namespace SimulationError

/-- The wording of a simulation error. -/
def message : SimulationError → String
  | .load path cause => "cannot load simulation model " ++ path ++ ": " ++ cause
  | .symbol name cause => "simulation model does not export " ++ name ++ ": " ++ cause
  | .noPorts => "simulation model returned no port table"
  | .wrongTop expected found =>
    "simulation model implements " ++ found ++ ", expected " ++ expected.name
  | .trace path => "cannot open trace " ++ path
  | .romTooLarge length capacity =>
    "program ROM image is " ++ Text.decimal length ++ " bytes, the ROM holds "
      ++ Text.decimal capacity
  | .protocol cycle violation =>
    "DDR3 protocol violation at cycle " ++ Text.decimal cycle ++ ": " ++ violation.message

/-- The wording of a simulation error, followed by that of the cause below it. -/
def chain (error : SimulationError) : List String :=
  error.message :: match error with
    | .load _ cause | .symbol _ cause => [cause]
    | _ => []

end SimulationError

end Bringup
