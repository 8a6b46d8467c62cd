import Bringup.Word.Checked
/-!
# The memory that is calibrated

A configuration says where the managers of the memory controller lie, where the programs of
the instruction memory begin, how the memory is shaped, which protocol it speaks and how its
data lines form capture groups.
-/

namespace Bringup.Calibration

/-- Base addresses of the managers. -/
structure Layout where
  phyManager : UInt32
  rwManager : UInt32
  pllManager : UInt32
  deriving DecidableEq, Repr

/-- Where the PLL manager lies unless a configuration says otherwise. -/
def defaultPllManager : UInt32 := 0x58000

/-- A program of the instruction memory. -/
inductive RomProgram where
  | idleLoop1
  | idleLoop2
  | initReset0Cke0
  | initReset0Cke0Inner
  | initReset1Cke0
  | initReset1Cke0Inner
  | initCke0
  | initCke0Inner
  | nop
  | zqcl
  | refresh
  | prechargeAll
  | mrs0DllReset
  | mrs0User
  | mrs1
  | mrs2
  | mrs3
  | emr
  | emr2
  | emr3
  | emrOcdEnable
  | mrDllReset
  | mrCalib
  | mrUser
  | mr63Reset
  | mr10Zqc
  | mr1Calib
  | mr1User
  | mr2
  | mr3
  | guaranteedWrite
  | readBackToBack
  | readBackToBackWait1
  | readBackToBackWait2
  | clearDqsEnable
  | activate
  | activateWait1
  | activateWait2
  | guaranteedWriteWait0
  | guaranteedWriteWait1
  | guaranteedWriteWait2
  | guaranteedWriteWait3
  deriving DecidableEq, Repr

/-- The entry of a program in a configuration. -/
def RomProgram.field : RomProgram → String
  | .idleLoop1 => "idle_loop1"
  | .idleLoop2 => "idle_loop2"
  | .initReset0Cke0 => "init_reset_0_cke_0"
  | .initReset0Cke0Inner => "init_reset_0_cke_0_inloop"
  | .initReset1Cke0 => "init_reset_1_cke_0"
  | .initReset1Cke0Inner => "init_reset_1_cke_0_inloop_1"
  | .initCke0 => "init_cke_0"
  | .initCke0Inner => "init_cke_0_inloop"
  | .nop => "nop"
  | .zqcl => "zqcl"
  | .refresh => "refresh"
  | .prechargeAll => "precharge_all"
  | .mrs0DllReset => "mrs0_dll_reset"
  | .mrs0User => "mrs0_user"
  | .mrs1 => "mrs1"
  | .mrs2 => "mrs2"
  | .mrs3 => "mrs3"
  | .emr => "emr"
  | .emr2 => "emr2"
  | .emr3 => "emr3"
  | .emrOcdEnable => "emr_ocd_enable"
  | .mrDllReset => "mr_dll_reset"
  | .mrCalib => "mr_calib"
  | .mrUser => "mr_user"
  | .mr63Reset => "mr63_reset"
  | .mr10Zqc => "mr10_zqc"
  | .mr1Calib => "mr1_calib"
  | .mr1User => "mr1_user"
  | .mr2 => "mr2"
  | .mr3 => "mr3"
  | .guaranteedWrite => "guaranteed_write"
  | .readBackToBack => "read_b2b"
  | .readBackToBackWait1 => "read_b2b_wait1"
  | .readBackToBackWait2 => "read_b2b_wait2"
  | .clearDqsEnable => "clear_dqs_enable"
  | .activate => "activate_0_and_1"
  | .activateWait1 => "activate_0_and_1_wait1"
  | .activateWait2 => "activate_0_and_1_wait2"
  | .guaranteedWriteWait0 => "guaranteed_write_wait0"
  | .guaranteedWriteWait1 => "guaranteed_write_wait1"
  | .guaranteedWriteWait2 => "guaranteed_write_wait2"
  | .guaranteedWriteWait3 => "guaranteed_write_wait3"

/-- Every program, in the order in which configurations list them. -/
def RomProgram.all : List RomProgram :=
  [.idleLoop1, .idleLoop2, .initReset0Cke0, .initReset0Cke0Inner, .initReset1Cke0,
   .initReset1Cke0Inner, .initCke0, .initCke0Inner, .nop, .zqcl, .refresh, .prechargeAll,
   .mrs0DllReset, .mrs0User, .mrs1, .mrs2, .mrs3, .emr, .emr2, .emr3, .emrOcdEnable,
   .mrDllReset, .mrCalib, .mrUser, .mr63Reset, .mr10Zqc, .mr1Calib, .mr1User, .mr2, .mr3,
   .guaranteedWrite, .readBackToBack, .readBackToBackWait1, .readBackToBackWait2,
   .clearDqsEnable, .activate, .activateWait1, .activateWait2, .guaranteedWriteWait0,
   .guaranteedWriteWait1, .guaranteedWriteWait2, .guaranteedWriteWait3]

/-- The list of programs leaves none out. -/
theorem RomProgram.mem_all (program : RomProgram) : program ∈ RomProgram.all := by
  cases program <;> decide

/-- Where the programs begin. An entry that the protocol does not use may be zero. -/
abbrev Programs : Type := RomProgram → UInt32

/-- A number that describes the shape of the memory. -/
inductive Dimension where
  /-- Data lines captured by one read strobe. -/
  | dqPerReadDqs
  /-- Data lines sent with one write strobe. -/
  | dqPerWriteDqs
  /-- Parts into which the data lines of a read strobe are divided. -/
  | virtualGroupsPerReadDqs
  /-- Data lines of the memory. -/
  | dataWidth
  /-- Data mask lines of the memory. -/
  | dataMaskWidth
  /-- Read strobes of the memory. -/
  | readDqsWidth
  /-- Memory clocks in a clock of the controller. -/
  | afiRateRatio
  /-- Frequency of the controller's clock in megahertz. -/
  | afiClockFrequency
  deriving DecidableEq, Repr

/-- The entry of a dimension in a configuration. -/
def Dimension.field : Dimension → String
  | .dqPerReadDqs => "dq_per_read_dqs"
  | .dqPerWriteDqs => "dq_per_write_dqs"
  | .virtualGroupsPerReadDqs => "virtual_groups_per_read_dqs"
  | .dataWidth => "data_width"
  | .dataMaskWidth => "data_mask_width"
  | .readDqsWidth => "read_dqs_width"
  | .afiRateRatio => "afi_rate_ratio"
  | .afiClockFrequency => "afi_clk_freq"

/-- Every dimension, in the order in which configurations list them. -/
def Dimension.all : List Dimension :=
  [.dqPerReadDqs, .dqPerWriteDqs, .virtualGroupsPerReadDqs, .dataWidth, .dataMaskWidth,
   .readDqsWidth, .afiRateRatio, .afiClockFrequency]

/-- The list of dimensions leaves none out. -/
theorem Dimension.mem_all (dimension : Dimension) : dimension ∈ Dimension.all := by
  cases dimension <;> decide

/-- The shape of the memory. -/
abbrev Geometry : Type := Dimension → UInt32

/-- The protocol of the memory. -/
inductive Protocol where
  | ddr2
  | ddr3
  | lpddr2
  deriving DecidableEq, Repr

/-- The name of a protocol. -/
def Protocol.name : Protocol → String
  | .ddr2 => "DDR2"
  | .ddr3 => "DDR3"
  | .lpddr2 => "LPDDR2"

/-- How the data lines form capture groups. -/
inductive GroupLayout where
  | x8
  | x16 (twoCaptureClocks : Bool)
  | x24
  deriving DecidableEq, Repr

/-- The groups whose DQS enable phase is calibrated, in order. -/
def GroupLayout.groups : GroupLayout → List UInt32
  | .x8 => [0]
  | .x16 true => [0, 1]
  | .x16 false => [0]
  | .x24 => [0, 2]

/-- The clock that captures the data of a group. -/
def captureClock (group : UInt32) : UInt32 := if group = 2 then 1 else group

/-- The lowest `count` bits, all of them where there are no more. -/
def lowBits (count : UInt32) : UInt32 :=
  if 32 ≤ count then 0xffffffff else (1 <<< count) - 1

/-- Bit masks of reads and writes without error. -/
structure Masks where
  readVirtualGroup : UInt32
  writeVirtualGroup : UInt32
  read : UInt32
  write : UInt32
  dataMask : UInt32
  deriving DecidableEq, Repr

/-- The masks of a geometry. -/
def Masks.ofGeometry (geometry : Geometry) : Except Fault Masks := do
  let perGroup ← Word.div32 (geometry .dqPerReadDqs) (geometry .virtualGroupsPerReadDqs)
  let perMask ← Word.div32 (geometry .dataWidth) (geometry .dataMaskWidth)
  pure {
    readVirtualGroup := lowBits perGroup
    writeVirtualGroup := lowBits perGroup
    read := lowBits (geometry .dqPerReadDqs)
    write := lowBits (geometry .dqPerWriteDqs)
    dataMask := lowBits perMask }

/-- A configuration. -/
structure Config where
  layout : Layout
  programs : Programs
  geometry : Geometry
  protocol : Protocol
  groups : GroupLayout

end Bringup.Calibration
