import Bringup.Simulation.PortValues
/-!
# A design with a script

The design follows its clock: on each rising edge outside of reset it counts the edge,
drives its outputs as it was told to, keeps the data it is given and carries out the part of
the script for that edge. Everything that is done to it is recorded.
-/

namespace Bringup

/-- What was done to a scripted design. -/
inductive DesignEvent where
  | set (port : Port) (value : UInt64)
  | eval
  | dump (time : Nat)
  | finish
  deriving DecidableEq, Repr

/-- The event as a record shows it. -/
def DesignEvent.text : DesignEvent → String
  | .set port value => port.name ++ "=" ++ Text.hex 1 value.toNat
  | .eval => "eval"
  | .dump time => "dump " ++ Text.decimal time
  | .finish => "final"

/-- A scripted design. -/
structure ScriptedDesign where
  ports : PortValues
  /-- Whether the LEDs show what the program ROM answers. -/
  showsRom : Bool := false
  /-- How far apart the addresses are that it fetches from the program ROM. -/
  stride : Option UInt32 := none
  /-- What the active-low LEDs show once calibration has succeeded. -/
  passLeds : Option UInt64 := none
  /-- What to put on the ports, by the number of the edge. -/
  script : List (Nat × List (Port × UInt64)) := []
  edges : Nat := 0
  /-- The clock at the last evaluation. -/
  clock : Bool := false
  /-- The data it was given. -/
  latched : Array UInt64 := #[]
  events : Array DesignEvent := #[]

namespace ScriptedDesign

/-- Adds an event to the record. -/
def record (state : ScriptedDesign) (event : DesignEvent) : ScriptedDesign :=
  { state with events := state.events.push event }

/-- Puts a value on a port and records nothing. -/
def assign (state : ScriptedDesign) (port : Port) (value : UInt64) : ScriptedDesign :=
  { state with ports := state.ports.set port value }

/-- A rising edge of the clock outside of reset. -/
def risingEdge (state : ScriptedDesign) : ScriptedDesign :=
  let edges := state.edges + 1
  let ports := if state.showsRom then state.ports.set .leds (state.ports.get .programRomQ)
    else state.ports
  let ports := match state.stride with
    | some stride => ports.set .programRomAddr (UInt32.ofNat state.edges * stride).toUInt64
    | none => ports
  let latched := if ports.isHigh .avlRdataValid then state.latched.push (ports.get .avlRdata)
    else state.latched
  let due := state.script.filter (·.1 == edges)
  { state with edges, latched, ports := ports.setAll (due.flatMap (·.2)) }

/-- Evaluates the design. -/
def eval (state : ScriptedDesign) : ScriptedDesign :=
  let state := state.record .eval
  let state := match state.passLeds with
    | some leds => if state.ports.isHigh .ddr3CalSuccess then state.assign .ledsN leds else state
    | none => state
  let clock := state.ports.isHigh .clk
  let rising := clock && !state.clock
  let state := { state with clock }
  if rising && state.ports.isHigh .resetN then state.risingEdge else state

/-- Starts a new record. -/
def forget (state : ScriptedDesign) : ScriptedDesign := { state with events := #[], latched := #[] }

/-- The scripted design behind its ports. -/
def design : Design ScriptedDesign where
  get port state := state.ports.get port
  set port value state := (state.assign port value).record (.set port value)
  eval := eval
  finish state := state.record .finish
  dump time state := state.record (.dump time)

end ScriptedDesign

end Bringup
