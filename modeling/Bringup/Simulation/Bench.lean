import Bringup.Part
import Bringup.Simulation.Rom
/-!
# Test benches

A bench clocks a design, answers the reads of its program ROM and connects the memory
controller to its bus. Every clock cycle adds two points to the trace, one after the rising
edge of the clock and one after the falling edge.
-/

namespace Bringup

/-- What a bench works with, over a state `σ`. -/
structure Bench (σ : Type) where
  design : Design σ
  log : Logger σ Empty
  rom : ProgramRom

/-- The state of a bench. Its two counters are natural numbers: they agree with counters of 64 bits
up to the 2^64th point of a trace, and beyond that they go on where those overflow. -/
structure Benched (σ : Type) where
  /-- The design and whatever is around it. -/
  world : σ
  ddr3 : Ddr3
  /-- The address whose word the program ROM answers in the next cycle. -/
  romAddress : UInt32 := 0
  /-- The LEDs as they were last seen. -/
  leds : UInt32 := 0
  /-- The number of points in the trace. -/
  time : Nat := 0
  /-- The number of cycles begun. -/
  cycles : Nat := 0

/-- An action on a bench. -/
abbrev BenchAction (σ α : Type) : Type := EStateM SimulationError (Benched σ) α

namespace Bench

variable {σ : Type}

/-- The part of the system that runs benches, as the log names it. -/
def logTarget : String := "xw_host::sim::bench"

/-- Changes the design. -/
@[inline] def changing (change : σ → σ) : BenchAction σ Unit :=
  modify fun bench => { bench with world := change bench.world }

/-- Looks at the design. -/
@[inline] def looking {α : Type} (look : σ → α) : BenchAction σ α := do
  pure (look (← get).world)

/-- Sets a port. -/
@[inline] def set (bench : Bench σ) (port : Port) (value : UInt64) : BenchAction σ Unit :=
  changing (bench.design.set port value)

/-- Sets a port of one bit. -/
@[inline] def setBit (bench : Bench σ) (port : Port) (high : Bool) : BenchAction σ Unit :=
  bench.set port (if high then 1 else 0)

/-- Evaluates the design. -/
@[inline] def eval (bench : Bench σ) : BenchAction σ Unit := changing bench.design.eval

/-- Adds the next point to the trace. -/
@[inline] def dump (bench : Bench σ) : BenchAction σ Unit :=
  modify fun state =>
    { state with world := bench.design.dump state.time state.world, time := state.time + 1 }

/-- Drives the clock, evaluates the design and adds a point to the trace. -/
@[inline] def edge (bench : Bench σ) (clock : Bool) : BenchAction σ Unit := do
  bench.setBit .clk clock
  bench.eval
  bench.dump

/-- Writes to the log. -/
def note (bench : Bench σ) (level : Level) (message : String) : BenchAction σ Unit := fun state =>
  match bench.log.note ⟨level, logTarget, message⟩ state.world with
  | .ok _ world => .ok () { state with world }
  | .error error world => .error error { state with world }

/-- Lets the controller answer what the design asks of it. -/
def exchange (bench : Bench σ) : BenchAction σ Unit := do
  let response ← fun state =>
    match Ddr3.eval (bench.design.request state.world) state.ddr3 with
    | .ok response ddr3 => .ok response { state with ddr3 }
    | .error violation ddr3 => .error (.protocol state.cycles violation) { state with ddr3 }
  bench.setBit .avlReady response.ready
  bench.set .avlRdata response.data
  bench.setBit .avlRdataValid response.valid

/-- Remembers the LEDs; says what they show if that is new. -/
def watchLeds (bench : Bench σ) (leds : UInt32) : BenchAction σ (Option UInt32) := do
  let state ← get
  if leds = state.leds then pure none
  else
    bench.note .info ("LEDs changed: " ++ Text.markedBinary 8 leds.toNat ++ " (cycle "
      ++ Text.decimal state.cycles ++ ")")
    modify fun state => { state with leds }
    pure (some leds)

/-- Takes steps until one fails. -/
def repeatStep (step : BenchAction σ (Option UInt32)) : (count : Nat) → BenchAction σ Unit
  | 0 => pure ()
  | count + 1 => do
    let _ ← step
    repeatStep step count

/-- Shuts the design down. -/
def finish (bench : Bench σ) : BenchAction σ Unit := changing bench.design.finish

/-- Drives the bus as a controller does that answers nothing. -/
def quietBus (bench : Bench σ) : BenchAction σ Unit := do
  bench.setBit .avlReady false
  bench.setBit .avlRdataValid false
  bench.set .avlRdata 0

end Bench

namespace SystemBench

variable {σ : Type}

/-- Takes the system through a reset. -/
def reset (bench : Bench σ) : BenchAction σ Unit := do
  bench.setBit .resetN false
  bench.setBit .clk false
  bench.set .programRomQ 0
  bench.quietBus
  bench.eval
  bench.dump
  bench.edge true
  bench.setBit .resetN true
  bench.edge false
  let leds ← Bench.looking (bench.design.word .leds)
  modify fun state => { state with romAddress := 0, leds }
  bench.note .debug ("reset done at time " ++ Text.decimal (← get).time)

/-- Runs one clock cycle; says what the LEDs show if that is new. The program ROM answers
with one cycle of latency. -/
def step (bench : Bench σ) : BenchAction σ (Option UInt32) := do
  modify fun state => { state with cycles := state.cycles + 1 }
  bench.setBit .clk true
  bench.eval
  bench.set .programRomQ (bench.rom.word (← get).romAddress).toUInt64
  let romAddress ← Bench.looking (bench.design.word .programRomAddr)
  modify fun state => { state with romAddress }
  let changed ← bench.watchLeds (← Bench.looking (bench.design.word .leds))
  bench.exchange
  bench.eval
  bench.dump
  bench.edge false
  pure changed

/-- Runs clock cycles until one fails. -/
def run (bench : Bench σ) (cycles : Nat) : BenchAction σ Unit :=
  Bench.repeatStep (step bench) cycles

end SystemBench

/-- What a memory test has found. -/
structure MemoryStatus where
  initDone : Bool
  calibrated : Bool
  calibrationFailed : Bool
  /-- The LEDs that are lit. -/
  leds : UInt32
  deriving DecidableEq, Repr

namespace MemoryBench

variable {σ : Type}

/-- The LEDs that are lit; their port is active low. -/
def litLeds (design : Design σ) (state : σ) : UInt32 := ~~~design.word .ledsN state &&& 0xff

/-- Takes the test through a reset. -/
def reset (bench : Bench σ) : BenchAction σ Unit := do
  bench.setBit .resetN false
  bench.setBit .clk false
  bench.quietBus
  bench.setBit .ddr3InitDone false
  bench.setBit .ddr3CalSuccess false
  bench.setBit .ddr3CalFail false
  bench.eval
  bench.dump
  bench.edge true
  bench.setBit .resetN true
  bench.edge false
  let leds ← Bench.looking (litLeds bench.design)
  modify fun state => { state with leds }

/-- Shows the design the status of the controller. -/
def showStatus (bench : Bench σ) : BenchAction σ Unit := do
  let state ← get
  if state.ddr3.initDone && !bench.design.isHigh .ddr3InitDone state.world then
    bench.note .info ("DDR3 initialized (cycle " ++ Text.decimal state.cycles ++ ")")
  bench.setBit .ddr3InitDone state.ddr3.initDone
  bench.setBit .ddr3CalSuccess state.ddr3.calibrated
  bench.setBit .ddr3CalFail state.ddr3.calibrationFailed

/-- Runs one clock cycle; says what the LEDs show if that is new. -/
def step (bench : Bench σ) : BenchAction σ (Option UInt32) := do
  modify fun state => { state with cycles := state.cycles + 1 }
  bench.setBit .clk true
  bench.eval
  bench.exchange
  showStatus bench
  bench.eval
  bench.dump
  bench.edge false
  bench.watchLeds (← Bench.looking (litLeds bench.design))

/-- Runs clock cycles until one fails. -/
def run (bench : Bench σ) (cycles : Nat) : BenchAction σ Unit :=
  Bench.repeatStep (step bench) cycles

/-- What the test has found. -/
def status (bench : Bench σ) (state : Benched σ) : MemoryStatus where
  initDone := bench.design.isHigh .ddr3InitDone state.world
  calibrated := bench.design.isHigh .ddr3CalSuccess state.world
  calibrationFailed := bench.design.isHigh .ddr3CalFail state.world
  leds := state.leds

end MemoryBench

namespace Bench

variable {σ : Type}

/-- Takes a design through a reset. -/
def resetOf (bench : Bench σ) : Top → BenchAction σ Unit
  | .system => SystemBench.reset bench
  | .memoryTest => MemoryBench.reset bench

/-- Runs one clock cycle of a design. -/
def stepOf (bench : Bench σ) : Top → BenchAction σ (Option UInt32)
  | .system => SystemBench.step bench
  | .memoryTest => MemoryBench.step bench

/-- Runs clock cycles of a design until one fails. -/
def runOf (bench : Bench σ) (top : Top) (cycles : Nat) : BenchAction σ Unit :=
  repeatStep (bench.stepOf top) cycles

/-- A bench that keeps its log beside the design. -/
def keepingLog (design : Design σ) (rom : ProgramRom) : Bench (σ × Array LogRecord) :=
  ⟨design.onFirst, Logger.keeping.onPart Part.second, rom⟩

end Bench

end Bringup
