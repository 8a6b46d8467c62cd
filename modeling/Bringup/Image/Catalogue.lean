import Bringup.Build.Script
import Bringup.Calibration.Sample
import Bringup.Header.Standard
import Bringup.Image.BootRom
import Bringup.Image.Calibrator
import Bringup.Image.Demo
import Bringup.Image.MonitorImage
/-!
# The images

The images there are, each with what it was built with.
-/

namespace Bringup

/-- An image and what it was built with. -/
inductive Image where
  /-- The boot ROM, which asks for a program of this name. -/
  | bootRom (program : String)
  | monitor
  | demo
  /-- The calibrator for a configuration; it may scan all phases afterwards. -/
  | calibrator (config : Calibration.Config) (scans : Bool)

namespace Image

variable {σ ε : Type}

/-- The image itself, with a bound on the rounds of its loops. -/
def program (platform : Platform σ ε) (rounds : Nat) : Image → EStateM (Halt ε) σ Unit
  | .bootRom name => BootRom.run platform name
  | .monitor => MonitorImage.run platform rounds
  | .demo => Demo.run platform rounds
  | .calibrator config scans => Calibrator.run platform config scans

/-- Runs an image. What it attempts and must not is reported on the board. -/
def run (image : Image) (platform : Platform σ ε) (rounds : Nat) : EStateM (Halt ε) σ Unit :=
  platform.guard rounds (image.program platform rounds)

/-- The calibrator that headers give, or the one of the sample configuration. -/
def calibratorOf (defines : Defines) (scans : Bool) : Image :=
  match Settings.ofDefines defines with
  | .ok settings => .calibrator settings.config scans
  | .error _ => .calibrator .sample scans

/-- The images by name: each as it is built by default, and some that are built for another
program or another memory. -/
def named? (name : String) : Option Image :=
  [("bootrom", bootRom Build.defaultProgram), ("bootrom_other", bootRom "other/é.bin"),
    ("monitor", monitor), ("demo", demo),
    ("calibrator", calibratorOf .standard false),
    ("calibrator_scan", calibratorOf .standard true),
    ("calibrator_ddr2_x16", calibratorOf (.variant [("DDR2", 1), ("DDR3", 0),
      ("M10_DQ_WIDTH_8", 0), ("M10_DQ_WIDTH_16", 1), ("TW0_CAPTURE_CLOCKS", 1)]) false),
    ("calibrator_lpddr2", calibratorOf (.variant [("DDR3", 0), ("LPDDR2", 1),
      ("AFI_RATE_RATIO", 1)]) false),
    ("calibrator_x24", calibratorOf (.variant [("M10_DQ_WIDTH_8", 0), ("M10_DQ_WIDTH_24", 1),
      ("RW_MGR_MEM_VIRTUAL_GROUPS_PER_READ_DQS", 2)]) false),
    ("calibrator_overflow", calibratorOf (.variant
      [("SEQUENCER_RW_MGR_INST_BASE", 0xfffff000)]) false)].lookup name

end Image

end Bringup
