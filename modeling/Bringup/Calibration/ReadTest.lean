import Bringup.Calibration.Sequencer
/-!
# Read tests

Constant bursts are written once and read back many times. A test reads every virtual group
of a group, from the last to the first, and puts their error bits together into one word.
-/

namespace Bringup.Calibration.Sequencer

open Procedure (checked device updateStatus)

variable {σ ε : Type}

/-- Writes the bursts that the read tests compare with. -/
def loadReadPatterns (sequencer : Sequencer σ ε) : Procedure σ ε Unit := do
  sequencer.load .zero 0x20 .guaranteedWriteWait0
  sequencer.load .one 0x20 .guaranteedWriteWait1
  sequencer.load .two 0x02 .guaranteedWriteWait2
  sequencer.load .three 0x02 .guaranteedWriteWait3
  sequencer.run .guaranteedWrite

/-- Shifts a word to the left; nothing is left of it when the amount reaches its width. -/
def shiftOut (word amount : UInt32) : UInt32 := if amount < 32 then word <<< amount else 0

/-- Reads one virtual group and appends its good bits to those read before. -/
def readVirtualGroup (sequencer : Sequencer σ ε) (base group shift good : UInt32)
    (index : UInt32) : Procedure σ ε UInt32 := do
  sequencer.writePhy PhyManager.fifoReset 0
  sequencer.writeRw RwManager.resetReadDatapath 0
  let slot ← checked do
    let first ← Word.mul32 group (sequencer.config.geometry .virtualGroupsPerReadDqs)
    Word.add32 first index
  let offset ← checked (Word.add32 base (slot <<< 2))
  sequencer.writeRw offset (sequencer.entry .readBackToBack)
  let errors ← device (sequencer.bus.read sequencer.config.layout.rwManager)
  pure (shiftOut good shift ||| (sequencer.masks.readVirtualGroup &&& ~~~errors))

/-- Reads virtual groups from number `count` down to the first. -/
def readVirtualGroups (sequencer : Sequencer σ ε) (base group shift : UInt32) :
    (count : Nat) → (good : UInt32) → Procedure σ ε UInt32
  | 0, good => pure good
  | count + 1, good => do
    let good ← sequencer.readVirtualGroup base group shift good (UInt32.ofNat count)
    readVirtualGroups sequencer base group shift count good

/-- Tests whether a group reads well. Answers whether the test passed and the good bits. With
`allCorrect` every bit has to be good, otherwise one is enough. With `allGroups` the reads go
to all groups at once. -/
def readTest (sequencer : Sequencer σ ε) (group : UInt32) (allCorrect allGroups : Bool) :
    Procedure σ ε (Bool × UInt32) := do
  let geometry := sequencer.config.geometry
  let virtualGroups := geometry .virtualGroupsPerReadDqs
  let shift ← checked (Word.div32 (geometry .dqPerReadDqs) virtualGroups)
  sequencer.load .one 0x10 .readBackToBackWait1
  sequencer.load .two 0x10 .readBackToBackWait2
  sequencer.load .zero (if allGroups then 0x06 else 0x32) .readBackToBack
  let rounds ← checked do
    if allGroups then
      let total ← Word.mul32 (geometry .readDqsWidth) virtualGroups
      Word.sub32 total 1
    else pure 0
  sequencer.load .three rounds .readBackToBack
  let base := if allGroups then RwManager.runAllGroups else RwManager.runSingleGroup
  let good ← sequencer.readVirtualGroups base group shift virtualGroups.toNat 0
  let bits := sequencer.masks.read &&& good
  sequencer.writeRw (RwManager.runSingleGroup + (group <<< 2)) (sequencer.entry .clearDqsEnable)
  pure (if allCorrect then bits == sequencer.masks.read else bits != 0, bits)

end Bringup.Calibration.Sequencer
