/-!
# Registers of the managers

Offsets from the base address of the manager that a register belongs to, and the values
that some registers take.
-/

namespace Bringup.Calibration

namespace RwManager

/-- Runs a program for one group; the groups follow at a distance of four. -/
def runSingleGroup : UInt32 := 0x0000
/-- Runs a program for all groups. -/
def runAllGroups : UInt32 := 0x0400
/-- The first of the four loop counters. -/
def loadCounter : UInt32 := 0x0800
/-- The first of the four jump targets that belong to the counters. -/
def loadJump : UInt32 := 0x0c00
/-- Brings the read data path to a known state. -/
def resetReadDatapath : UInt32 := 0x1000
/-- Selects ranks and their on-die termination. -/
def setRankAndOdtMask : UInt32 := 0x1400
/-- Restarts the managers. -/
def softReset : UInt32 := 0x2000
/-- Selects every rank. -/
def allRanks : UInt32 := 0

end RwManager

/-- The four loop counters of the read-write manager. -/
inductive LoopCounter where
  | zero | one | two | three
  deriving DecidableEq, Repr

/-- How far the registers of a loop counter lie behind those of the first. -/
def LoopCounter.offset : LoopCounter → UInt32
  | .zero => 0
  | .one => 4
  | .two => 8
  | .three => 12

namespace PhyManager

/-- Moves the read-valid FIFO of a group on by one position. -/
def incrementVfifo : UInt32 := 0x0004
/-- Brings the FIFO pointers to a known state. -/
def fifoReset : UInt32 := 0x0008
/-- Holds the write latency of the memory. -/
def memoryWriteLatency : UInt32 := 0x001c
/-- Sets the read latency of the controller. -/
def readLatency : UInt32 := 0x4000
/-- Says whether the memory clock is stable. -/
def memoryStable : UInt32 := 0x4004
/-- Says who owns the path to the memory. -/
def muxSelect : UInt32 := 0x4008
/-- Publishes the result of the calibration. -/
def calibrationStatus : UInt32 := 0x400c
/-- Sets the write latency of the controller. -/
def afiWriteLatency : UInt32 := 0x4018

/-- Published when every group was calibrated. -/
def calibrationSuccess : UInt32 := 1
/-- Published when a group was not. -/
def calibrationFailure : UInt32 := 2

end PhyManager

namespace PllManager

/-- Moves a clock one phase step up. -/
def increment : UInt32 := 1
/-- Moves a clock one phase step down. -/
def decrement : UInt32 := 0

end PllManager

/-- How many positions the read-valid FIFO has. -/
def vfifoPositions : Nat := 8

/-- How many phase steps a sweep takes before it gives up. -/
def maxPhaseSteps : Nat := 600

end Bringup.Calibration
