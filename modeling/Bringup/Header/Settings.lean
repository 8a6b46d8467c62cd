import Bringup.Calibration.Config
import Bringup.Header.Defines
import Bringup.Text.Radix
/-!
# Settings from a header

The constants of a memory controller's headers become the configuration of the sequencer.
Every constant that the sequencer needs has to be there, its divisors must not be zero, and
exactly one protocol and one width must be chosen. The settings are written out as the text
of a constant that the calibrator is compiled with.
-/

namespace Bringup

open Calibration

/-- Why headers give no settings. -/
inductive SettingsError where
  | noConstants
  | define (error : DefineError)
  | clockTooFast
  | protocolChoice
  | widthChoice
  deriving DecidableEq, Repr

/-- The wording of a settings error. -/
def SettingsError.message : SettingsError → String
  | .noConstants => "no #define constants found in the sequencer headers"
  | .define error => error.message
  | .clockTooFast => "AFI_CLK_FREQ is in MHz and must not exceed 1000000"
  | .protocolChoice => "exactly one of DDR2, DDR3 and LPDDR2 must be defined to 1"
  | .widthChoice => "exactly one of M10_DQ_WIDTH_8, _16 and _24 must be defined to 1"

namespace Calibration

/-- The constant that holds the entry point of a program. -/
def RomProgram.constant : RomProgram → String
  | .idleLoop1 => "__RW_MGR_IDLE_LOOP1"
  | .idleLoop2 => "__RW_MGR_IDLE_LOOP2"
  | .initReset0Cke0 => "__RW_MGR_INIT_RESET_0_CKE_0"
  | .initReset0Cke0Inner => "__RW_MGR_INIT_RESET_0_CKE_0_inloop"
  | .initReset1Cke0 => "__RW_MGR_INIT_RESET_1_CKE_0"
  | .initReset1Cke0Inner => "__RW_MGR_INIT_RESET_1_CKE_0_inloop_1"
  | .initCke0 => "__RW_MGR_INIT_CKE_0"
  | .initCke0Inner => "__RW_MGR_INIT_CKE_0_inloop"
  | .nop => "__RW_MGR_NOP"
  | .zqcl => "__RW_MGR_ZQCL"
  | .refresh => "__RW_MGR_REFRESH"
  | .prechargeAll => "__RW_MGR_PRECHARGE_ALL"
  | .mrs0DllReset => "__RW_MGR_MRS0_DLL_RESET"
  | .mrs0User => "__RW_MGR_MRS0_USER"
  | .mrs1 => "__RW_MGR_MRS1"
  | .mrs2 => "__RW_MGR_MRS2"
  | .mrs3 => "__RW_MGR_MRS3"
  | .emr => "__RW_MGR_EMR"
  | .emr2 => "__RW_MGR_EMR2"
  | .emr3 => "__RW_MGR_EMR3"
  | .emrOcdEnable => "__RW_MGR_EMR_OCD_ENABLE"
  | .mrDllReset => "__RW_MGR_MR_DLL_RESET"
  | .mrCalib => "__RW_MGR_MR_CALIB"
  | .mrUser => "__RW_MGR_MR_USER"
  | .mr63Reset => "__RW_MGR_MR63_RESET"
  | .mr10Zqc => "__RW_MGR_MR10_ZQC"
  | .mr1Calib => "__RW_MGR_MR1_CALIB"
  | .mr1User => "__RW_MGR_MR1_USER"
  | .mr2 => "__RW_MGR_MR2"
  | .mr3 => "__RW_MGR_MR3"
  | .guaranteedWrite => "__RW_MGR_GUARANTEED_WRITE"
  | .readBackToBack => "__RW_MGR_READ_B2B"
  | .readBackToBackWait1 => "__RW_MGR_READ_B2B_WAIT1"
  | .readBackToBackWait2 => "__RW_MGR_READ_B2B_WAIT2"
  | .clearDqsEnable => "__RW_MGR_CLEAR_DQS_ENABLE"
  | .activate => "__RW_MGR_ACTIVATE_0_AND_1"
  | .activateWait1 => "__RW_MGR_ACTIVATE_0_AND_1_WAIT1"
  | .activateWait2 => "__RW_MGR_ACTIVATE_0_AND_1_WAIT2"
  | .guaranteedWriteWait0 => "__RW_MGR_GUARANTEED_WRITE_WAIT0"
  | .guaranteedWriteWait1 => "__RW_MGR_GUARANTEED_WRITE_WAIT1"
  | .guaranteedWriteWait2 => "__RW_MGR_GUARANTEED_WRITE_WAIT2"
  | .guaranteedWriteWait3 => "__RW_MGR_GUARANTEED_WRITE_WAIT3"

/-- The constant that holds a dimension. -/
def Dimension.constant : Dimension → String
  | .dqPerReadDqs => "RW_MGR_MEM_DQ_PER_READ_DQS"
  | .dqPerWriteDqs => "RW_MGR_MEM_DQ_PER_WRITE_DQS"
  | .virtualGroupsPerReadDqs => "RW_MGR_MEM_VIRTUAL_GROUPS_PER_READ_DQS"
  | .dataWidth => "RW_MGR_MEM_DATA_WIDTH"
  | .dataMaskWidth => "RW_MGR_MEM_DATA_MASK_WIDTH"
  | .readDqsWidth => "RW_MGR_MEM_IF_READ_DQS_WIDTH"
  | .afiRateRatio => "AFI_RATE_RATIO"
  | .afiClockFrequency => "AFI_CLK_FREQ"

/-- Whether the sequencer divides by a dimension. -/
def Dimension.isDivisor : Dimension → Bool
  | .virtualGroupsPerReadDqs | .afiRateRatio | .afiClockFrequency => true
  | _ => false

/-- The value of a dimension. -/
def Dimension.read (defines : Defines) (dimension : Dimension) : Except DefineError UInt32 :=
  if dimension.isDivisor then defines.requireNonzero dimension.constant
  else defines.require dimension.constant

end Calibration

/-- The settings of a calibrator. -/
structure Settings where
  phyManager : UInt32
  rwManager : UInt32
  /-- Absent where the usual place is meant. -/
  pllManager : Option UInt32
  programs : Programs
  geometry : Geometry
  protocol : Protocol
  groups : GroupLayout

namespace Settings

/-- The configuration that the settings stand for. -/
def config (settings : Settings) : Config where
  layout := ⟨settings.phyManager, settings.rwManager, settings.pllManager.getD defaultPllManager⟩
  programs := settings.programs
  geometry := settings.geometry
  protocol := settings.protocol
  groups := settings.groups

/-- The one protocol that is chosen. -/
def protocolOf (defines : Defines) : Except SettingsError Protocol :=
  match defines.flag "DDR2", defines.flag "DDR3", defines.flag "LPDDR2" with
  | true, false, false => .ok .ddr2
  | false, true, false => .ok .ddr3
  | false, false, true => .ok .lpddr2
  | _, _, _ => .error .protocolChoice

/-- The group layout of the one width that is chosen. -/
def groupsOf (defines : Defines) : Except SettingsError GroupLayout :=
  match defines.flag "M10_DQ_WIDTH_8", defines.flag "M10_DQ_WIDTH_16",
      defines.flag "M10_DQ_WIDTH_24" with
  | true, false, false => .ok .x8
  | false, true, false => .ok (.x16 (defines.flag "TW0_CAPTURE_CLOCKS"))
  | false, false, true => .ok .x24
  | _, _, _ => .error .widthChoice

/-- The highest frequency of the controller's clock in megahertz, whose period is one
picosecond. -/
def maxFrequency : UInt32 := 1000000

/-- Goes on with a constant, or ends with its error. -/
def needing {α : Type} (value : Except DefineError α) : Except SettingsError α :=
  value.mapError .define

/-- The geometry that a table of all dimensions gives. -/
def geometryOf (table : List (Dimension × UInt32)) : Geometry := fun dimension =>
  (table.lookup dimension).getD 0

/-- Reads all dimensions in order. -/
def readDimensions (defines : Defines) :
    List Dimension → Except DefineError (List (Dimension × UInt32))
  | [] => .ok []
  | dimension :: rest => do
    let value ← dimension.read defines
    let others ← readDimensions defines rest
    pure ((dimension, value) :: others)

/-- Headers are looked at further only if they hold constants and a clock that is slow enough. -/
def inspect (defines : Defines) : Except SettingsError Unit := do
  if defines.isEmpty then throw .noConstants
  let frequency ← needing (defines.requireNonzero Dimension.afiClockFrequency.constant)
  if maxFrequency < frequency then throw .clockTooFast

/-- The settings that headers give, once they have passed inspection. -/
def generate (defines : Defines) : Except SettingsError Settings := do
  let phyManager ← needing (defines.require "SEQUENCER_PHY_MGR_INST_BASE")
  let rwManager ← needing (defines.require "SEQUENCER_RW_MGR_INST_BASE")
  let table ← needing (readDimensions defines Dimension.all)
  let protocol ← protocolOf defines
  let groups ← groupsOf defines
  pure {
    phyManager, rwManager, protocol, groups
    pllManager := defines.get? "BASE_PLL_MGR"
    programs := fun program => (defines.get? program.constant).getD 0
    geometry := geometryOf table }

/-- The settings that headers give. -/
def ofDefines (defines : Defines) : Except SettingsError Settings := do
  inspect defines
  generate defines

/-- A word behind its radix mark. -/
def wordText (word : UInt32) : String := Text.markedHex 1 word.toNat

/-- A field that holds a structure. -/
def block (name type : String) (fields : List String) : List String :=
  ["    " ++ name ++ ": " ++ type ++ " \x7b"] ++ fields.map ("        " ++ ·) ++ ["    \x7d,"]

/-- A field and its value. -/
def entry (name value : String) : String := name ++ ": " ++ value ++ ","

/-- The programs that fill in the waits of the guaranteed write. -/
def waitPrograms : List RomProgram :=
  [.guaranteedWriteWait0, .guaranteedWriteWait1, .guaranteedWriteWait2, .guaranteedWriteWait3]

/-- The name of a protocol in the text. -/
def protocolText : Protocol → String
  | .ddr2 => "Protocol::Ddr2"
  | .ddr3 => "Protocol::Ddr3"
  | .lpddr2 => "Protocol::Lpddr2"

/-- The group layout in the text. -/
def groupsText : GroupLayout → String
  | .x8 => "GroupLayout::X8"
  | .x16 twoCaptureClocks =>
    "GroupLayout::X16 \x7b two_capture_clocks: " ++ (if twoCaptureClocks then "true" else "false")
      ++ " \x7d"
  | .x24 => "GroupLayout::X24"

/-- The lines of the text. -/
def textLines (settings : Settings) : List String :=
  let named := RomProgram.all.filter (· ∉ waitPrograms)
  ["pub const CONFIG: Config = Config \x7b"]
    ++ block "layout" "Layout" [
      entry "phy_mgr" (wordText settings.phyManager),
      entry "rw_mgr" (wordText settings.rwManager),
      entry "pll_mgr" (match settings.pllManager with
        | some base => wordText base
        | none => "DEFAULT_PLL_MGR")]
    ++ block "rom" "InstRom"
      (named.map (fun program => entry program.field (wordText (settings.programs program)))
        ++ [entry "guaranteed_write_wait" ("[" ++ ", ".intercalate
          (waitPrograms.map fun program => wordText (settings.programs program)) ++ "]")])
    ++ block "geometry" "Geometry" (Dimension.all.map fun dimension =>
      entry dimension.field (Text.decimal (settings.geometry dimension).toNat))
    ++ ["    " ++ entry "protocol" (protocolText settings.protocol),
      "    " ++ entry "groups" (groupsText settings.groups), "\x7d;"]

/-- The settings as the text of a constant. -/
def render (settings : Settings) : String :=
  String.join (settings.textLines.map (· ++ "\n"))

end Settings

end Bringup
