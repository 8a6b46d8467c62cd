import Bringup.Calibration.Config
/-!
# A sample configuration

A small memory behind one capture group, with a program in every entry of the instruction
memory. It serves where any configuration does.
-/

namespace Bringup.Calibration

/-- Programs at distinct places. -/
def Programs.sample : Programs
  | .idleLoop1 => 0x10
  | .idleLoop2 => 0x11
  | .initReset0Cke0 => 0x12
  | .initReset0Cke0Inner => 0x13
  | .initReset1Cke0 => 0x14
  | .initReset1Cke0Inner => 0x15
  | .initCke0 => 0x16
  | .initCke0Inner => 0x17
  | .nop => 0x18
  | .zqcl => 0x19
  | .refresh => 0x1a
  | .prechargeAll => 0x1b
  | .mrs0DllReset => 0x20
  | .mrs0User => 0x21
  | .mrs1 => 0x22
  | .mrs2 => 0x23
  | .mrs3 => 0x24
  | .emr => 0x30
  | .emr2 => 0x31
  | .emr3 => 0x32
  | .emrOcdEnable => 0x33
  | .mrDllReset => 0x34
  | .mrCalib => 0x35
  | .mrUser => 0x36
  | .mr63Reset => 0x40
  | .mr10Zqc => 0x41
  | .mr1Calib => 0x42
  | .mr1User => 0x43
  | .mr2 => 0x44
  | .mr3 => 0x45
  | .guaranteedWrite => 0x50
  | .readBackToBack => 0x60
  | .readBackToBackWait1 => 0x61
  | .readBackToBackWait2 => 0x62
  | .clearDqsEnable => 0x63
  | .activate => 0x70
  | .activateWait1 => 0x71
  | .activateWait2 => 0x72
  | .guaranteedWriteWait0 => 0x51
  | .guaranteedWriteWait1 => 0x52
  | .guaranteedWriteWait2 => 0x53
  | .guaranteedWriteWait3 => 0x54

/-- Eight data lines, all captured by one strobe. -/
def Geometry.sample : Geometry
  | .dqPerReadDqs => 8
  | .dqPerWriteDqs => 8
  | .virtualGroupsPerReadDqs => 1
  | .dataWidth => 8
  | .dataMaskWidth => 1
  | .readDqsWidth => 1
  | .afiRateRatio => 2
  | .afiClockFrequency => 150

/-- Managers that do not overlap. -/
def Layout.sample : Layout := ⟨0x88000, 0x90000, defaultPllManager⟩

/-- A DDR3 memory of the sample geometry. -/
def Config.sample : Config := ⟨.sample, .sample, .sample, .ddr3, .x8⟩

end Bringup.Calibration
