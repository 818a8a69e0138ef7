import PsxPlayer.Cpu.Access
import PsxPlayer.Cpu.Arithmetic
import PsxPlayer.Cpu.Transfer
import PsxPlayer.Firmware.Service

namespace PsxPlayer

/-!
# Execution

One step reads the word at the program counter, moves the clock and executes the
instruction. A transfer executes its delay slot inside its own step, and a
firmware call may run guest functions inside the step of the call, so that
instructions nest; `nestingLimit` bounds how deeply.
-/

namespace Action

/-- Put a result into a register, or raise an overflow if there is none. -/
@[inline]
def settleResult (target : Reg) : Option UInt32 → Action Unit
  | some value => setReg target value
  | none => raise .overflow

/-- Put a 64-bit result into HI and LO. -/
def setWide (wide : WideResult) : Action Unit :=
  modifyRegisters fun registers => { registers with hi := wide.hi, lo := wide.lo }

/-- Let a register hold the address behind the delay slot. -/
def link (register : Reg) : Action Unit := do
  setReg register ((← getPc) + 4)

/-- The address that a jump's field stands for, in the current 256 MB. -/
def jumpTarget (field : UInt32) : Action UInt32 := do
  return ((← getPc) &&& 0xF0000000) ||| (4 * field)

/-- The address that a branch's offset stands for. -/
def branchTarget (offset : UInt32) : Action UInt32 := do
  return (← getPc) + 4 * signExtend16 offset

/-- Execute the instruction at the program counter. -/
@[inline]
def stepWith (execute : Instruction → Action Unit) : Action Unit := do
  let address ← getPc
  let word ← read .word address
  tick
  setPc (address + 4)
  execute (Instruction.ofWord word)

/-- Execute an instruction, with `execute` for the instructions nested in it. -/
def executeWith (execute : Instruction → Action Unit) : Instruction → Action Unit
  | .shift op rd rt amount => do
      setReg rd (op.apply (← getReg rt) amount)
  | .shiftVariable op rd rt rs => do
      setReg rd (op.apply (← getReg rt) (← getReg rs))
  | .alu op rd rs rt => do
      settleResult rd (op.compute? (← getReg rs) (← getReg rt))
  | .immediate op rt rs value => do
      settleResult rt (op.compute? (← getReg rs) value)
  | .loadUpper rt value => setReg rt (value <<< (16 : UInt32))
  | .wide op rs rt => do
      setWide (op.apply (← getReg rs) (← getReg rt))
  | .moveFromHi rd => do
      setReg rd (← ofRegisters Registers.hi)
  | .moveFromLo rd => do
      setReg rd (← ofRegisters Registers.lo)
  | .moveToHi rs => do
      let value ← getReg rs
      modifyRegisters fun registers => { registers with hi := value }
  | .moveToLo rs => do
      let value ← getReg rs
      modifyRegisters fun registers => { registers with lo := value }
  | .jump field => do
      transfer execute (stepWith execute) (← jumpTarget field)
  | .jumpLink field => do
      link linkRegister
      transfer execute (stepWith execute) (← jumpTarget field)
  | .jumpRegister rs => do
      transfer execute (stepWith execute) (← getReg rs)
  | .jumpLinkRegister rd rs => do
      let target ← getReg rs
      link rd
      transfer execute (stepWith execute) target
  | .branch test rs rt offset => do
      if test.holds (← getReg rs) (← getReg rt) then
        transfer execute (stepWith execute) (← branchTarget offset)
  | .branchSign nonNegative links rs offset => do
      let taken := nonNegative == decide (0 ≤ signed (← getReg rs))
      if links then
        link linkRegister
      if taken then
        transfer execute (stepWith execute) (← branchTarget offset)
  | .load op rt base offset => load op rt base offset
  | .store op rt base offset => store op rt base offset
  | .systemCall => raise .syscall
  | .breakpoint => raise .breakpoint
  | .moveFromSystem rt rd => do
      setReg rt (← getSystem rd)
  | .moveToSystem rt rd => do
      let value ← getReg rt
      modifySystem fun system => system.set rd value
  | .returnFromException => modifySystem SystemRegisters.popMode
  | .geometry => pure ()
  | .loadGeometry _ => pure ()
  | .storeGeometry _ => pure ()
  | .trap code =>
      match Trap.ofCode? code with
      | some trap => serveTrap (stepWith execute) trap
      | none => pure ()
  | .unknown => pure ()

/-- Execute an instruction in which others nest at most `depth` deep. -/
def executeNested : Nat → Instruction → Action Unit
  | 0, _ => throw .nestingTooDeep
  | depth + 1, instruction => executeWith (executeNested depth) instruction

/-- How deeply instructions may nest: more deeply than there are words in RAM and ROM. -/
def nestingLimit : Nat := 0x100000

/-- Execute one instruction. -/
def execute (instruction : Instruction) : Action Unit :=
  executeNested nestingLimit instruction

/-- Execute the instruction at the program counter. -/
def step : Action Unit :=
  stepWith execute

end Action

end PsxPlayer
