import PsxPlayer.Cpu.Registers

namespace PsxPlayer

/-!
# System control

The system coprocessor's registers and the entry into the exception handler. The
status register keeps three pairs of mode bits as a stack: an exception pushes
it, a return pops it.
-/

/-- Causes of an exception. -/
inductive ExceptionCause where
  | interrupt
  | addressErrorLoad
  | addressErrorStore
  | busErrorInstruction
  | busErrorData
  | syscall
  | breakpoint
  | reservedInstruction
  | coprocessorUnusable
  | overflow
  deriving DecidableEq, Repr

namespace ExceptionCause

/-- The code in the cause register. -/
def code : ExceptionCause → UInt32
  | .interrupt => 0
  | .addressErrorLoad => 4
  | .addressErrorStore => 5
  | .busErrorInstruction => 6
  | .busErrorData => 7
  | .syscall => 8
  | .breakpoint => 9
  | .reservedInstruction => 10
  | .coprocessorUnusable => 11
  | .overflow => 12

/-- All causes. -/
def all : List ExceptionCause :=
  [.interrupt, .addressErrorLoad, .addressErrorStore, .busErrorInstruction, .busErrorData,
    .syscall, .breakpoint, .reservedInstruction, .coprocessorUnusable, .overflow]

/-- The cause with a code. -/
def ofCode? (code : UInt32) : Option ExceptionCause :=
  all.find? fun cause => cause.code == code

end ExceptionCause

/-- The registers of the system coprocessor. -/
structure SystemRegisters where
  values : Vector UInt32 32
  deriving DecidableEq, Repr

namespace SystemRegisters

/-- Register with the address that a misaligned access used. -/
def badAddress : Fin 32 := 8

/-- Status register. -/
def status : Fin 32 := 12

/-- Cause register. -/
def cause : Fin 32 := 13

/-- Register with the address to return to. -/
def returnAddress : Fin 32 := 14

/-- Processor identification. -/
def processorId : Fin 32 := 15

/-- Status bits 0 and 10: interrupts enabled and the hardware line unmasked. -/
def interruptBits : UInt32 := 0x401

/-- Status bit 16: stores do not reach memory. -/
def isolateBit : UInt32 := 0x10000

/-- Status bit 22: exceptions go to the ROM. -/
def bootBit : UInt32 := 0x400000

/-- Cause bit 10: the hardware line is raised. -/
def lineBit : UInt32 := 0x400

/-- Cause bit 31: the exception was taken in a delay slot. -/
def delaySlotBit : UInt32 := 0x80000000

/-- The cause bits that an exception replaces. -/
def causeFields : UInt32 := 0x8000007C

/-- The state after power-on. -/
def initial : SystemRegisters :=
  ⟨((Vector.replicate 32 0).set status 0x10900000).set processorId 2⟩

def get (registers : SystemRegisters) (index : Fin 32) : UInt32 :=
  registers.values[index]

def set (registers : SystemRegisters) (index : Fin 32) (value : UInt32) : SystemRegisters :=
  ⟨registers.values.set index value⟩

/-- The exception code in the cause register. -/
def causeCode (registers : SystemRegisters) : UInt32 :=
  (registers.get cause >>> 2) &&& 0x1F

/-- Push the mode stack. -/
def pushMode (registers : SystemRegisters) : SystemRegisters :=
  let value := registers.get status
  registers.set status ((value &&& ~~~(0x3F : UInt32)) ||| ((value <<< 2) &&& 0x3F))

/-- Pop the mode stack. -/
def popMode (registers : SystemRegisters) : SystemRegisters :=
  let value := registers.get status
  registers.set status ((value &&& ~~~(0x0F : UInt32)) ||| ((value >>> 2) &&& 0x0F))

/-- Whether an interrupt would be taken. -/
def takesInterrupts (registers : SystemRegisters) : Bool :=
  registers.get status &&& interruptBits == interruptBits

/-- Show the state of the hardware line in the cause register. -/
def setLine (registers : SystemRegisters) (raised : Bool) : SystemRegisters :=
  let value := registers.get cause
  registers.set cause (if raised then value ||| lineBit else value &&& ~~~lineBit)

/-- Where exceptions go. -/
def handler (registers : SystemRegisters) : UInt32 :=
  if registers.get status &&& bootBit != 0 then 0xBFC00180 else 0x80000080

end SystemRegisters

/-- The processor. -/
structure Cpu where
  registers : Registers
  system : SystemRegisters
  /-- Whether the delay slot of a taken branch is executing. -/
  inDelaySlot : Bool
  /-- Set by an exception, so that a branch notices what its delay slot did. -/
  exceptionTaken : Bool
  /-- A load held back until the branch at its hazard target has decided. -/
  deferredLoad? : Option (Reg × UInt32)
  /-- Whether the clock jumps ahead in idle loops. -/
  skipsIdleLoops : Bool
  deriving DecidableEq, Repr

namespace Cpu

/-- The processor after power-on. -/
def initial : Cpu where
  registers := .initial
  system := .initial
  inDelaySlot := false
  exceptionTaken := false
  deferredLoad? := none
  skipsIdleLoops := false

/-- The processor after a reset, which keeps the choice about idle loops. -/
def reset (cpu : Cpu) : Cpu :=
  { initial with skipsIdleLoops := cpu.skipsIdleLoops }

/-- Enter the exception handler. -/
def enterException
    (cpu : Cpu)
    (cause : ExceptionCause)
    (returnAddress : UInt32)
    (inDelaySlot : Bool) :
    Cpu :=
  let kept := cpu.system.get SystemRegisters.cause &&& ~~~SystemRegisters.causeFields
  let slot := if inDelaySlot then SystemRegisters.delaySlotBit else 0
  let system :=
    cpu.system.set SystemRegisters.cause (kept ||| (cause.code <<< 2) ||| slot)
  let system := (system.set SystemRegisters.returnAddress returnAddress).pushMode
  { cpu with
    system := system
    registers := { cpu.registers with pc := system.handler }
    exceptionTaken := true }

/--
Raise an exception in the instruction before the program counter. In a delay
slot the exception returns to the branch.
-/
def raise (cpu : Cpu) (cause : ExceptionCause) : Cpu :=
  let faulting := cpu.registers.pc - 4
  let returnAddress := if cpu.inDelaySlot then faulting - 4 else faulting
  cpu.enterException cause returnAddress cpu.inDelaySlot

/-- Raise an address error. -/
def raiseAddress (cpu : Cpu) (cause : ExceptionCause) (address : UInt32) : Cpu :=
  { cpu with
    system := cpu.system.set SystemRegisters.badAddress address }.raise cause

end Cpu

end PsxPlayer
