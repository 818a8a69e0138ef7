import PsxPlayer.Cpu.System
import PsxPlayer.Firmware.Event
import PsxPlayer.Firmware.Heap

namespace PsxPlayer

/-!
# Firmware state

What the firmware remembers between calls.
-/

/-- The firmware's memory. -/
structure Firmware where
  heap : Heap
  events : EventTable
  /-- State of the random number generator. -/
  seed : UInt32
  /-- Jump buffer to continue at after an interrupt, or 0. -/
  hook : UInt32
  /-- The registers when an interrupt was taken. -/
  savedContext? : Option Registers
  /-- Flags that the guest sets and reads back, one per counter. -/
  clearFlags : Vector UInt32 4
  /-- Characters printed since the last end of line. -/
  line : String
  deriving DecidableEq, Repr

namespace Firmware

/-- The state after power-on. -/
def initial : Firmware where
  heap := .empty
  events := .empty
  seed := 0x248040B5
  hook := 0
  savedContext? := none
  clearFlags := Vector.replicate 4 1
  line := ""

end Firmware

end PsxPlayer
