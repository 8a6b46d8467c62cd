import Bringup.Calibration.Sequencer
/-!
# Starting the memory and handing it over

Each protocol has its own order of reset, clock enable, mode registers and waits. Handing
over sets the mode registers to what the user of the memory wants.
-/

namespace Bringup.Calibration.Sequencer

variable {σ ε : Type}

/-- The start of a DDR3 memory. Reset and clock enable go to all ranks. -/
def startDdr3 (sequencer : Sequencer σ ε) : Procedure σ ε Unit := do
  sequencer.writeRw RwManager.setRankAndOdtMask RwManager.allRanks
  sequencer.load .zero 2 .initReset0Cke0
  sequencer.load .one 2 .initReset0Cke0Inner
  sequencer.run .initReset0Cke0
  sequencer.writePhy PhyManager.memoryStable 1
  sequencer.load .zero 2 .initReset1Cke0
  sequencer.load .one 2 .initReset1Cke0Inner
  sequencer.run .initReset1Cke0
  sequencer.delayClocks 250
  sequencer.runAll [.mrs2, .mrs3, .mrs1, .mrs0DllReset, .zqcl]
  sequencer.delayClocks 512

/-- The start of a DDR2 memory. -/
def startDdr2 (sequencer : Sequencer σ ε) : Procedure σ ε Unit := do
  sequencer.load .zero 2 .initCke0
  sequencer.load .one 2 .initCke0Inner
  sequencer.run .initCke0
  sequencer.writePhy PhyManager.memoryStable 1
  sequencer.run .nop
  sequencer.delayNanoseconds 400
  sequencer.runAll [.prechargeAll, .emr2, .emr3, .emr, .mrDllReset,
    .prechargeAll, .refresh]
  sequencer.delayNanoseconds 200
  sequencer.run .refresh
  sequencer.delayNanoseconds 200
  sequencer.runAll [.mrCalib, .emrOcdEnable, .emr]
  sequencer.delayClocks 200

/-- The start of an LPDDR2 memory. -/
def startLpddr2 (sequencer : Sequencer σ ε) : Procedure σ ε Unit := do
  sequencer.load .zero 0x10 .initCke0
  sequencer.run .initCke0
  sequencer.delayNanoseconds 200000
  sequencer.writePhy PhyManager.memoryStable 1
  sequencer.run .mr63Reset
  sequencer.delayNanoseconds 10000
  sequencer.run .mr10Zqc
  sequencer.delayNanoseconds 1000
  sequencer.runAll [.mr1Calib, .mr2, .mr3]

/-- Starts the memory. -/
def startMemory (sequencer : Sequencer σ ε) : Procedure σ ε Unit :=
  match sequencer.config.protocol with
  | .ddr2 => sequencer.startDdr2
  | .ddr3 => sequencer.startDdr3
  | .lpddr2 => sequencer.startLpddr2

/-- The programs that set the mode registers of the user. -/
def handoffPrograms (protocol : Protocol) : List RomProgram :=
  .prechargeAll ::
    match protocol with
    | .ddr2 => [.emr2, .emr3, .emr, .mrUser]
    | .ddr3 => [.mrs2, .mrs3, .mrs1, .mrs0User]
    | .lpddr2 => [.mr1User, .mr2, .mr3]

/-- Hands the memory over to its user. -/
def handOff (sequencer : Sequencer σ ε) : Procedure σ ε Unit :=
  sequencer.runAll (handoffPrograms sequencer.config.protocol)

end Bringup.Calibration.Sequencer
