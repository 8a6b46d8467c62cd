import Bringup.Simulation.Design
/-!
# Values on ports

The values that the ports of a design hold. A port that was never set holds zero, and a
port holds no more bits than it has.
-/

namespace Bringup

/-- The values on the ports, in the order of the ports. -/
structure PortValues where
  values : Vector UInt64 Port.all.length

namespace PortValues

/-- All ports hold zero. -/
def zeros : PortValues := ⟨.replicate _ 0⟩

/-- The value on a port. -/
def get (ports : PortValues) (port : Port) : UInt64 := ports.values[port.index]

/-- Puts a value on a port. -/
def set (ports : PortValues) (port : Port) (value : UInt64) : PortValues :=
  ⟨ports.values.set port.index (port.fit value)⟩

/-- Puts values on ports, one after the other. -/
def setAll (ports : PortValues) (assignments : List (Port × UInt64)) : PortValues :=
  assignments.foldl (fun ports (port, value) => ports.set port value) ports

/-- Whether a port holds anything but zero. -/
def isHigh (ports : PortValues) (port : Port) : Bool := ports.get port ≠ 0

/-- Puts one or zero on a port. -/
def setBit (ports : PortValues) (port : Port) (high : Bool) : PortValues :=
  ports.set port (if high then 1 else 0)

end PortValues

end Bringup
