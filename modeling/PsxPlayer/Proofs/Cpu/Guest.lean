import PsxPlayer.Proofs.Cpu.Transfer
import PsxPlayer.Proofs.Memory.Program

namespace PsxPlayer

/-!
# Guest programs

A machine right after power-on with the traps and the words of a guest program in
RAM.  It executes the word at its program counter as long as the words stay.
-/

namespace Machine

/-- A machine after power-on with a guest program, about to execute at `entry`. -/
def guest (words : List (UInt32 × UInt32)) (entry : UInt32) : Machine where
  cpu := { Cpu.initial with registers := { Registers.initial with pc := entry } }
  firmware := .initial
  bus :=
    { Bus.initial 60 (.start .initial .blank 64) with
      memory := memoryWith words }
  printed := #[]

/-- The guest program is in memory. -/
def Holds (machine : Machine) (words : List (UInt32 × UInt32)) : Prop :=
  machine.bus.memory = memoryWith words

/-- A word of the guest program that the program counter has come to. -/
theorem Holds.read
    {machine : Machine}
    {words : List (UInt32 × UInt32)}
    {address word : UInt32}
    (holds : machine.Holds words)
    (program : isProgram words = true)
    (member : (address, word) ∈ Trap.planted ++ words)
    (noPort : port? address = none) :
    machine.bus.read .word address = word := by
  rw [Bus.read_of_noPort noPort, holds, read_memoryWith program member]

end Machine

end PsxPlayer
