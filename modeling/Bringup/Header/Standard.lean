import Bringup.Header.Settings
/-!
# The standard header

The constants that a calibrator is built with unless it is given headers of its own: an
eight-bit DDR3 memory. Variants replace some of the constants.
-/

namespace Bringup

namespace Defines

/-- The constants of the standard header. -/
def standard : Defines := ⟨
  [("SEQUENCER_PHY_MGR_INST_BASE", 0x88000), ("SEQUENCER_RW_MGR_INST_BASE", 0x90000),
    ("BASE_PLL_MGR", 0x58000),
    ("DDR2", 0), ("DDR3", 1), ("LPDDR2", 0),
    ("M10_DQ_WIDTH_8", 1), ("M10_DQ_WIDTH_16", 0), ("M10_DQ_WIDTH_24", 0),
    ("TW0_CAPTURE_CLOCKS", 0),
    ("RW_MGR_MEM_DQ_PER_READ_DQS", 8), ("RW_MGR_MEM_DQ_PER_WRITE_DQS", 8),
    ("RW_MGR_MEM_VIRTUAL_GROUPS_PER_READ_DQS", 1), ("RW_MGR_MEM_DATA_WIDTH", 8),
    ("RW_MGR_MEM_DATA_MASK_WIDTH", 1), ("RW_MGR_MEM_IF_READ_DQS_WIDTH", 1),
    ("AFI_RATE_RATIO", 2), ("AFI_CLK_FREQ", 150),
    ("__RW_MGR_ACTIVATE_0_AND_1", 0x0d), ("__RW_MGR_ACTIVATE_0_AND_1_WAIT1", 0x0e),
    ("__RW_MGR_ACTIVATE_0_AND_1_WAIT2", 0x0f), ("__RW_MGR_CLEAR_DQS_ENABLE", 0x48),
    ("__RW_MGR_GUARANTEED_WRITE", 0x5d), ("__RW_MGR_GUARANTEED_WRITE_WAIT0", 0x65),
    ("__RW_MGR_GUARANTEED_WRITE_WAIT1", 0x73), ("__RW_MGR_GUARANTEED_WRITE_WAIT2", 0x69),
    ("__RW_MGR_GUARANTEED_WRITE_WAIT3", 0x6f), ("__RW_MGR_IDLE_LOOP1", 0x7e),
    ("__RW_MGR_IDLE_LOOP2", 0x7d), ("__RW_MGR_INIT_RESET_0_CKE_0", 0x72),
    ("__RW_MGR_INIT_RESET_0_CKE_0_inloop", 0x74), ("__RW_MGR_INIT_RESET_1_CKE_0", 0x77),
    ("__RW_MGR_INIT_RESET_1_CKE_0_inloop_1", 0x79), ("__RW_MGR_MRS0_DLL_RESET", 0x02),
    ("__RW_MGR_MRS0_USER", 0x07), ("__RW_MGR_MRS1", 0x03), ("__RW_MGR_MRS2", 0x04),
    ("__RW_MGR_MRS3", 0x05), ("__RW_MGR_NOP", 0x80), ("__RW_MGR_PRECHARGE_ALL", 0x12),
    ("__RW_MGR_READ_B2B", 0x3c), ("__RW_MGR_READ_B2B_WAIT1", 0x44),
    ("__RW_MGR_READ_B2B_WAIT2", 0x4e), ("__RW_MGR_REFRESH", 0x14), ("__RW_MGR_ZQCL", 0x7f)]⟩

/-- The standard header with some constants replaced. -/
def variant (replaced : List (String × UInt32)) : Defines := standard.merge ⟨replaced⟩

end Defines

end Bringup
