import PsxPlayer.Proofs.Cpu.Unaligned
import PsxPlayer.Proofs.Firmware.Standing

namespace PsxPlayer

/-!
# Calls of library functions

A guest asks for a library function by its number and goes on at its return address.  Most of them
leave behind a result, and what they have done to memory.
-/

namespace Machine

/-- The machine asks for a library function. -/
def AsksLibrary
    (machine : Machine)
    (function : LibraryFunction) :
    Prop :=
  LibraryFunction.ofNumber? (machine.cpu.registers.get Reg.t1 &&& 0xFF) = some function

/-- A call comes back to its caller with a result, and has changed nothing else but memory. -/
structure ReturnsWith
    (machine : Machine)
    (value : UInt32)
    (after : Machine) :
    Prop where
  result : after.cpu.registers.get Reg.v0 = value
  place : after.cpu.registers.pc = machine.cpu.registers.get Reg.ra
  sameRegisters :
    ∀ register,
      register ≠ Reg.v0 →
      after.cpu.registers.get register = machine.cpu.registers.get register
  sameProduct :
    after.cpu.registers.hi = machine.cpu.registers.hi ∧
      after.cpu.registers.lo = machine.cpu.registers.lo
  sameOtherwise :
    after = (machine.withRegisters after.cpu.registers).withMemory after.bus.memory

/-- The machine after a call that has left `memory` behind. -/
def answered
    (machine : Machine)
    (value : UInt32)
    (memory : AddressSpace) :
    Machine :=
  (machine.withMemory memory).withRegisters (machine.cpu.registers.set Reg.v0 value)

@[simp]
theorem memory_answered
    (machine : Machine)
    (value : UInt32)
    (memory : AddressSpace) :
    (machine.answered value memory).bus.memory = memory :=
  rfl

theorem returnsWith_answered
    (machine : Machine)
    (value : UInt32)
    (memory : AddressSpace) :
    machine.ReturnsWith value (machine.atCaller.answered value memory) where
  result := Registers.get_set_self _ (by decide) _
  place := Registers.pc_set _ _ _
  sameRegisters _ differs := Registers.get_set_of_ne _ differs.symm _
  sameProduct := ⟨Registers.hi_set _ _ _, Registers.lo_set _ _ _⟩
  sameOtherwise := rfl

end Machine

theorem Action.run_serveTrap_of_asksLibrary
    {machine : Machine}
    {function : LibraryFunction}
    (asks : machine.AsksLibrary function)
    (step : Action Unit) :
    (serveTrap step .tableA).run machine = (callLibrary function).run machine.atCaller := by
  have entered := Execution.run_serveTrap_tableA ⟨.trap 0, machine⟩ step
  rw [entered, Execution.function, asks]

/-- A machine with a heap that asks for a library function. -/
def callingLibrary (heap : Heap) (number first second : UInt32) : Machine :=
  let registers := Cpu.initial.registers.set Reg.t1 number
  { Machine.guest [] 0x80010000 with
    cpu := { Cpu.initial with registers := (registers.set Reg.a0 first).set Reg.a1 second }
    firmware := { Firmware.initial with heap := heap } }

end PsxPlayer
