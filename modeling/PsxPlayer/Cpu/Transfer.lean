import PsxPlayer.Cpu.Machine

namespace PsxPlayer

/-!
# Transfer of control

A jump or a taken branch executes the instruction behind it, its delay slot,
before it arrives at its target. On arrival the counters and the interrupts are
served.

Loads take effect at once, except for a load in a delay slot whose register the
target reads: the target then runs with the old value. Where the target is a
transfer itself, the loaded value appears before that transfer's delay slot.
-/

namespace Action

/-- Move the clock by one instruction. -/
@[inline]
def tick : Action Unit :=
  modifyBus Bus.tick

/-- Make a load visible that was held back. -/
def commitDeferredLoad : Action Unit :=
  modifyCpu fun cpu =>
    match cpu.deferredLoad? with
    | some (register, value) =>
        { cpu with
          registers := cpu.registers.set register value
          deferredLoad? := none }
    | none => cpu

/-- Hold back a load: the register keeps its old value until the commit. -/
def deferLoad (register : Reg) (old loaded : UInt32) : Action Unit :=
  modifyCpu fun cpu =>
    { cpu with
      registers := cpu.registers.set register old
      deferredLoad? := some (register, loaded) }

/-- Begin the delay slot, which ends at `next`. -/
def enterDelaySlot (next : UInt32) : Action Unit :=
  modifyCpu fun cpu =>
    { cpu with
      registers := { cpu.registers with pc := next }
      inDelaySlot := true
      exceptionTaken := false }

/-- End the delay slot. -/
def leaveDelaySlot : Action Unit :=
  modifyCpu fun cpu => { cpu with inDelaySlot := false }

/-- Take an interrupt before the next instruction. -/
def interrupt : Action Unit :=
  modifyCpu fun cpu => cpu.enterException .interrupt cpu.registers.pc false

/-- Serve the counters if one is due. -/
def serveCounters : Action Unit := do
  if ← ofBus fun bus => bus.counters.deadlineReached then
    onBus Bus.updateCounters

/-- Move the clock to the next deadline, where the settings allow it. -/
def skipIdleTime : Action Unit := do
  if ← ofCpu Cpu.skipsIdleLoops then
    modifyBus fun bus => { bus with counters := bus.counters.skipToDeadline }

/--
Serve counters and interrupts after arriving at a target; `idle` says that the
target is an empty loop.
-/
def settle (idle : Bool) : Action Unit := do
  serveCounters
  if ← ofBus fun bus => bus.interrupts.isPending then
    modifySystem fun system => system.setLine true
    if ← ofCpu fun cpu => cpu.system.takesInterrupts then
      interrupt
      return
  else
    modifySystem fun system => system.setLine false
  if idle then
    skipIdleTime

/-- Arrive at the target, unless the delay slot went elsewhere by an exception. -/
def arrive (target : UInt32) (idle : Bool) : Action Unit := do
  leaveDelaySlot
  unless ← ofCpu Cpu.exceptionTaken do
    setPc target
    settle idle

/--
Execute a delay slot that loads `register`, and the target with the old value of
that register.
-/
def transferHolding
    (slot : Action Unit)
    (step : Action Unit)
    (register : Reg)
    (target : UInt32) :
    Action Unit := do
  let old ← getReg register
  slot
  leaveDelaySlot
  unless ← ofCpu Cpu.exceptionTaken do
    let loaded ← getReg register
    setPc target
    deferLoad register old loaded
    step
    commitDeferredLoad
    settle false

/-- The general purpose register that an instruction loads from memory. -/
def loadedRegister? : Instruction → Option Reg
  | .load _ register _ _ => if register = 0 then none else some register
  | _ => none

/-- How the word at `target` uses the register that the delay slot loads. -/
def hazardOf (slot : Instruction) (target : UInt32) : Action (Option (Reg × Hazard)) := do
  match loadedRegister? slot with
  | some register => return some (register, hazardAt (← read .word target) register)
  | none => return none

/-- Execute the delay slot and transfer control to `target`. -/
def transfer
    (execute : Instruction → Action Unit)
    (step : Action Unit)
    (target : UInt32) :
    Action Unit := do
  commitDeferredLoad
  let slotAddress ← getPc
  let word ← read .word slotAddress
  tick
  enterDelaySlot (slotAddress + 4)
  let slot := Instruction.ofWord word
  let idle := target == slotAddress - 4 && word == 0
  match ← hazardOf slot target with
  | some (_, .readsAndWrites) => arrive target idle
  | some (register, .reads) => transferHolding (execute slot) step register target
  | _ =>
      execute slot
      arrive target idle

end Action

end PsxPlayer
