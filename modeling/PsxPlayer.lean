import PsxPlayer.Audio.Stream
import PsxPlayer.Audio.Wave
import PsxPlayer.CommandLine.Folder
import PsxPlayer.Cpu.Change
import PsxPlayer.Instruction.Mnemonic
import PsxPlayer.Main
import PsxPlayer.Player
import PsxPlayer.Settings.Environment
import PsxPlayer.Proofs.Memory.Bytes
import PsxPlayer.Proofs.Sound.Instrument
import PsxPlayer.Proofs.Sound.Reverb
import PsxPlayer.Proofs.Sound.Coherence
import PsxPlayer.Proofs.Sound.Worker
import PsxPlayer.Proofs.Sound.Playback
import PsxPlayer.Proofs.Sound.Checked.Frame
import PsxPlayer.Proofs.Sound.Rendezvous.Safety
import PsxPlayer.Proofs.Cpu.Run
import PsxPlayer.Proofs.Cpu.System
import PsxPlayer.Proofs.Cpu.Transfer
import PsxPlayer.Proofs.Memory.Program
import PsxPlayer.Proofs.Firmware.Interrupt
import PsxPlayer.Proofs.Cpu.Guest
import PsxPlayer.Proofs.Cpu.Unread
import PsxPlayer.Proofs.Cpu.LoadDelay
import PsxPlayer.Proofs.Clock
import PsxPlayer.Proofs.Bus
import PsxPlayer.Proofs.TwoRuns
import PsxPlayer.Proofs.Sound.Recording
import PsxPlayer.Proofs.Recording
import PsxPlayer.Proofs.Cpu.Deaf
import PsxPlayer.Proofs.Sound.Pacing
import PsxPlayer.Proofs.Counter.Deadline
import PsxPlayer.Proofs.Counter.Pacer
import PsxPlayer.Proofs.Counter.Invariant
import PsxPlayer.Proofs.Counter.Firing
import PsxPlayer.Proofs.Counter.Count
import PsxPlayer.Proofs.Counter.Rate
import PsxPlayer.Proofs.Cpu.Composed
import PsxPlayer.Proofs.Firmware.Composed
import PsxPlayer.Proofs.Cpu.Pace
import PsxPlayer.Proofs.Cpu.Commands
import PsxPlayer.Proofs.Cpu.Nesting
import PsxPlayer.Proofs.Cpu.Operands
import PsxPlayer.Proofs.Player
import PsxPlayer.Proofs.Reset
import PsxPlayer.Sound.Rendezvous
import PsxPlayer.Proofs.Sound.Register
import PsxPlayer.Proofs.Memory.Mirror
import PsxPlayer.Proofs.Sound.Soloist
import PsxPlayer.Proofs.NarrowWrite
import PsxPlayer.Proofs.Cpu.Course
import PsxPlayer.Proofs.Cpu.Standing
import PsxPlayer.Proofs.Firmware.Standing
import PsxPlayer.Proofs.Cpu.Invariant
import PsxPlayer.Proofs.Cpu.Precise
import PsxPlayer.Proofs.Cpu.Unaligned
import PsxPlayer.Proofs.Firmware.CriticalSection
import PsxPlayer.Proofs.Cpu.Alignment
import PsxPlayer.Proofs.Cpu.Bookkeeping
import PsxPlayer.Proofs.Firmware.Hook
import PsxPlayer.Proofs.Firmware.ReturnFromException
import PsxPlayer.Proofs.Sound.Envelope
import PsxPlayer.Proofs.Sound.Resampling
import PsxPlayer.Proofs.Firmware.EventHistory
import PsxPlayer.Proofs.Sound.PhaseEnd
import PsxPlayer.Proofs.Sound.Fifo
import PsxPlayer.Proofs.Dma
import PsxPlayer.Proofs.Sound.WorkArea
import PsxPlayer.Proofs.Memory.Load
import PsxPlayer.Proofs.Firmware.HeapCall
import PsxPlayer.Proofs.Firmware.HeapRelease
import PsxPlayer.Proofs.Firmware.BlockCopy
import PsxPlayer.Proofs.Firmware.HeapAlignment
import PsxPlayer.Proofs.Firmware.FormatLength
import PsxPlayer.Proofs.Firmware.SavedContext
import PsxPlayer.Proofs.Firmware.TextCall
import PsxPlayer.Proofs.Sound.CubicCurve
import PsxPlayer.Proofs.Sound.NoiseLevels
import PsxPlayer.Proofs.Sound.Sweep
import PsxPlayer.Proofs.Cpu.Stopping
import PsxPlayer.Proofs.Settings.Environment
import PsxPlayer.Proofs.Sound.OwnBlocks
