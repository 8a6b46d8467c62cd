import Bringup.Board.Breather
import Bringup.Board.Clock
import Bringup.Board.Console
import Bringup.Board.I2c
import Bringup.Board.Panel
import Bringup.Board.Registers
import Bringup.Board.ScriptedRegisters
import Bringup.Board.SimulatedPins
import Bringup.Board.Transmitter
import Bringup.Board.Uart
import Bringup.Build.Script
import Bringup.Bus
import Bringup.Calibration.Config
import Bringup.Calibration.Delay
import Bringup.Calibration.PhaseSearch
import Bringup.Calibration.Phy
import Bringup.Calibration.ReadTest
import Bringup.Calibration.Registers
import Bringup.Calibration.Rehearsal
import Bringup.Calibration.Run
import Bringup.Calibration.Sample
import Bringup.Calibration.Scan
import Bringup.Calibration.Sequencer
import Bringup.Calibration.Startup
import Bringup.Calibration.Status
import Bringup.CommandLine.Arguments
import Bringup.CommandLine.Help
import Bringup.CommandLine.LogFilter
import Bringup.CommandLine.Run
import Bringup.Display.Bouncing
import Bringup.Display.Buffering
import Bringup.Display.Rehearsal
import Bringup.Display.Surface
import Bringup.Files.Tree
import Bringup.Header.Defines
import Bringup.Header.Settings
import Bringup.Header.Standard
import Bringup.Host.Client
import Bringup.Host.Device
import Bringup.Host.Rehearsal
import Bringup.Host.Screen
import Bringup.Host.Session
import Bringup.Host.Terminal
import Bringup.Image.BootRom
import Bringup.Image.Calibrator
import Bringup.Image.Catalogue
import Bringup.Image.Demo
import Bringup.Image.Machine
import Bringup.Image.MonitorImage
import Bringup.Image.Platform
import Bringup.Log
import Bringup.Main
import Bringup.Monitor.Frame
import Bringup.Monitor.Simulated
import Bringup.Monitor.Target
import Bringup.Part
import Bringup.Pattern.Accepted
import Bringup.Pattern.Atom
import Bringup.Pattern.Bracket
import Bringup.Pattern.CharSet
import Bringup.Pattern.Complaint
import Bringup.Pattern.Cursor
import Bringup.Pattern.Expr
import Bringup.Pattern.Meaning
import Bringup.Pattern.Reader
import Bringup.Pattern.Size
import Bringup.Pattern.Span
import Bringup.Pattern.Tree
import Bringup.Proofs.Action
import Bringup.Proofs.Calibration.Accesses
import Bringup.Proofs.Calibration.Centering
import Bringup.Proofs.Calibration.ReadTest
import Bringup.Proofs.Calibration.Search
import Bringup.Proofs.Calibration.SimulatedPhy
import Bringup.Proofs.Calibration.Tuning
import Bringup.Proofs.Host.Conversation
import Bringup.Proofs.Image.Line
import Bringup.Proofs.Image.SharedLine
import Bringup.Proofs.Image.SimulatedLine
import Bringup.Proofs.Monitor.Agreement
import Bringup.Proofs.Monitor.Along
import Bringup.Proofs.Monitor.Execution
import Bringup.Proofs.Monitor.Service
import Bringup.Proofs.Simulation.ByteLanes
import Bringup.Proofs.Simulation.SequentialMemory
import Bringup.Proofs.Stream.Along
import Bringup.Proofs.Stream.Carrying
import Bringup.Proofs.Trace
import Bringup.Proofs.Wire.Answers
import Bringup.Proofs.Wire.MessageCodec
import Bringup.Proofs.Wire.RequestCodec
import Bringup.Simulation.Bench
import Bringup.Simulation.Ddr3
import Bringup.Simulation.Design
import Bringup.Simulation.Library
import Bringup.Simulation.Memory
import Bringup.Simulation.ObjectFile
import Bringup.Simulation.PortValues
import Bringup.Simulation.Rom
import Bringup.Simulation.SampleDesign
import Bringup.Simulation.ScriptedDesign
import Bringup.Stream.Basic
import Bringup.Stream.Cursor
import Bringup.Stream.Scripted
import Bringup.Text.Blank
import Bringup.Text.Digest
import Bringup.Text.Escapes
import Bringup.Text.Letters
import Bringup.Text.Radix
import Bringup.Text.Unsigned
import Bringup.Text.Utf8
import Bringup.Text.Wrap
import Bringup.Wire.Capture
import Bringup.Wire.Message
import Bringup.Wire.Program
import Bringup.Wire.Request
import Bringup.Word.Checked
import Bringup.Word.Crc32
import Bringup.Word.LittleEndian
import Bringup.Proofs.Monitor.Interruption
import Bringup.Proofs.Text.Utf8
import Bringup.Proofs.Host.BootSession
import Bringup.Proofs.Calibration.Chores
import Bringup.Proofs.Calibration.Rounds
import Bringup.Proofs.Calibration.Handover
import Bringup.Proofs.Calibration.Neighbors
import Bringup.Proofs.Calibration.Soundness
import Bringup.Proofs.Board.Bits
import Bringup.Proofs.Board.LineEvents
import Bringup.Proofs.Board.Course
import Bringup.Proofs.Board.Framing
import Bringup.Board.Slave
import Bringup.Proofs.Board.Answering
import Bringup.Proofs.Board.RegisterHistory
import Bringup.Proofs.Calibration.Divisions
import Bringup.Proofs.Header.Divisors
import Bringup.Proofs.Header.RomPrograms
import Bringup.Proofs.Text.Numerals
import Bringup.Proofs.Header.Constants
import Bringup.Proofs.InStep
import Bringup.Proofs.Stream.Ending
import Bringup.Proofs.Stream.ScriptedBounds
import Bringup.Proofs.Wire.Cutting
import Bringup.Proofs.Wire.Format
import Bringup.Proofs.Wire.ProgramCodec
import Bringup.Proofs.Wire.ProgramLength
import Bringup.Proofs.Wire.RequestFormat
import Bringup.Proofs.Wire.MessageFormat
import Bringup.Proofs.Monitor.Cutting
import Bringup.Proofs.Host.ConsoleReaders
import Bringup.Proofs.Simulation.Regularity
import Bringup.Proofs.Files.Paths
import Bringup.Proofs.Host.ServedFiles
import Bringup.Proofs.Calibration.Retrace
import Bringup.Proofs.Calibration.ClockCounts
import Bringup.Proofs.Calibration.Turns
import Bringup.Proofs.Calibration.CountedPhases
import Bringup.Proofs.Calibration.Undisturbed
import Bringup.Proofs.Wire.ProgramArrival
import Bringup.Proofs.Display.Drawing
import Bringup.Proofs.Display.Exchange
import Bringup.Proofs.Simulation.Recording
import Bringup.Proofs.Simulation.Clocking
import Bringup.Proofs.Calibration.ProgramTables
import Bringup.Proofs.Calibration.RomPrograms
import Bringup.Proofs.Word.CheckValue
import Bringup.Proofs.Wire.ProgramCorruption
import Bringup.Proofs.Calibration.IdleLoops
import Bringup.Proofs.Calibration.TimedWaits
import Bringup.Proofs.Calibration.ErrorBits
import Bringup.Proofs.Calibration.Beside
import Bringup.Proofs.Calibration.SearchBounds
import Bringup.Proofs.Calibration.PhaseScan
import Bringup.Proofs.Board.TransfersInStep
import Bringup.Proofs.Board.BringUp
import Bringup.Proofs.Text.Printed
import Bringup.Proofs.Files.Written
import Bringup.Proofs.Header.ReadBack
import Bringup.Proofs.Header.Completeness
import Bringup.Proofs.Build.AllOrNothing
import Bringup.Proofs.Calibration.Saturation
import Bringup.Proofs.Display.Clipping
import Bringup.Proofs.Display.Bouncing
import Bringup.Proofs.Header.Merging
import Bringup.Proofs.Build.JoinedHeaders
import Bringup.Proofs.Zigzag
import Bringup.Proofs.Board.Breathing
import Bringup.Proofs.Text.LooseNumbers
