import PsxPlayer.Proofs.Cpu.Run

namespace PsxPlayer

/-!
# The parts of a transfer

A transfer enters its delay slot, and the hazard between the slot and the target
decides how it goes on.
-/

/-- The bus after its counters have been served, if one is due. -/
def Bus.serviced (bus : Bus) : EStateM.Result Fault Bus Unit :=
  if bus.counters.deadlineReached then Bus.updateCounters.run bus else .ok () bus

/-- Until a deadline is reached, there is nothing to serve. -/
theorem Bus.serviced_of_early
    {bus : Bus}
    (early : bus.counters.deadlineReached = false) :
    bus.serviced = .ok () bus := by
  rw [serviced, if_neg (by simp [early])]

/-- Serving the counters leaves memory alone. -/
theorem Bus.serviced_memory
    {bus after : Bus}
    (served : bus.serviced = .ok () after) :
    after.memory = bus.memory := by
  unfold serviced at served
  split at served
  · rcases bus with ⟨memory, interrupts, counters, dma, link⟩
    simp only [updateCounters, EStateM.run] at served
    split at served
    · cases served
      rfl
    · cases served
  · cases served
    rfl

/-- The processor in which a load that was held back is visible. -/
def Cpu.committed (cpu : Cpu) : Cpu :=
  match cpu.deferredLoad? with
  | some (register, value) =>
      { cpu with
        registers := cpu.registers.set register value
        deferredLoad? := none }
  | none => cpu

@[simp]
theorem Cpu.pc_committed (cpu : Cpu) :
    cpu.committed.registers.pc = cpu.registers.pc := by
  unfold committed
  split <;> simp

/-- Once a load is committed, none is held back. -/
@[simp]
theorem Cpu.deferredLoad?_committed (cpu : Cpu) : cpu.committed.deferredLoad? = none := by
  unfold committed
  split
  · rfl
  · next nothingHeld => exact nothingHeld

@[simp]
theorem Cpu.system_committed (cpu : Cpu) : cpu.committed.system = cpu.system := by
  unfold committed
  split <;> rfl

@[simp]
theorem Cpu.skipsIdleLoops_committed (cpu : Cpu) :
    cpu.committed.skipsIdleLoops = cpu.skipsIdleLoops := by
  unfold committed
  split <;> rfl

namespace Machine

/-- The machine in which a load that was held back is visible. -/
def committed (machine : Machine) : Machine :=
  { machine with cpu := machine.cpu.committed }

/-- The machine as the instruction in the delay slot starts. -/
def inSlot (machine : Machine) : Machine :=
  { machine.committed with
    bus := machine.bus.tick
    cpu :=
      { machine.committed.cpu with
        registers :=
          { machine.committed.cpu.registers with
            pc := machine.committed.cpu.registers.pc + 4 }
        inDelaySlot := true
        exceptionTaken := false } }

@[simp]
theorem nextWord_committed (machine : Machine) :
    machine.committed.nextWord = machine.nextWord := by
  simp [nextWord, committed]

/-- The machine outside of a delay slot. -/
def slotLeft (machine : Machine) : Machine :=
  { machine with cpu := { machine.cpu with inDelaySlot := false } }

/-- The machine outside of the delay slot, at the target. -/
def atTarget (machine : Machine) (target : UInt32) : Machine :=
  machine.slotLeft.withRegisters { machine.cpu.registers with pc := target }

/-- The machine after a transfer to `target` that no interrupt meets. -/
def arrived (machine : Machine) (target : UInt32) : Machine :=
  { machine with
    cpu :=
      { machine.cpu with
        registers := { machine.cpu.registers with pc := target }
        system := machine.cpu.system.setLine machine.bus.interrupts.isPending
        inDelaySlot := false } }

/-- The machine after an interrupt has been taken. -/
def interrupted (machine : Machine) : Machine :=
  { machine with
    cpu :=
      { machine.cpu with
        system := machine.cpu.system.setLine true }.enterException
        .interrupt machine.cpu.registers.pc false }

/-- The machine after the check for interrupts on arrival. -/
def checked (machine : Machine) : Machine :=
  if machine.bus.interrupts.isPending then
    if (machine.cpu.system.setLine true).takesInterrupts then
      machine.interrupted
    else
      machine.withSystem (machine.cpu.system.setLine true)
  else
    machine.withSystem (machine.cpu.system.setLine false)

/-- The instruction at the program counter. -/
def nextInstruction (machine : Machine) : Instruction :=
  .ofWord machine.nextWord

/-- The register that the delay slot loads, with the use that the target makes of it. -/
def hazard? (machine : Machine) (target : UInt32) : Option (Reg × Hazard) :=
  (Action.loadedRegister? machine.nextInstruction).map fun register =>
    (register, hazardAt (machine.inSlot.bus.read .word target) register)

/-- Whether a transfer to `target` closes an empty loop. -/
def loopsTo (machine : Machine) (target : UInt32) : Bool :=
  target == machine.cpu.registers.pc - 4 && machine.nextWord == 0

@[simp]
theorem loopsTo_committed (machine : Machine) (target : UInt32) :
    machine.committed.loopsTo target = machine.loopsTo target := by
  simp [loopsTo, committed, nextWord]

end Machine

namespace Instruction

/--
Where an instruction transfers control to, if it does; the program counter is the
address of the delay slot.
-/
def target? (registers : Registers) : Instruction → Option UInt32
  | .jump field | .jumpLink field =>
      some ((registers.pc &&& 0xF0000000) ||| (4 * field))
  | .jumpRegister source | .jumpLinkRegister _ source => some (registers.get source)
  | .branch test first second offset =>
      if test.holds (registers.get first) (registers.get second) then
        some (registers.pc + 4 * signExtend16 offset)
      else
        none
  | .branchSign nonNegative _ source offset =>
      if nonNegative == decide (0 ≤ signed (registers.get source)) then
        some (registers.pc + 4 * signExtend16 offset)
      else
        none
  | _ => none

/-- The registers after an instruction has linked, if it does. -/
def linked (registers : Registers) : Instruction → Registers
  | .jumpLink _ | .branchSign _ true _ _ =>
      registers.set linkRegister (registers.pc + 4)
  | .jumpLinkRegister target _ => registers.set target (registers.pc + 4)
  | _ => registers

end Instruction

namespace Action

/-- An instruction is executed with one level of nesting used up. -/
theorem execute_eq (instruction : Instruction) :
    execute instruction = executeWith (executeNested (nestingLimit - 1)) instruction := by
  rw [execute, show nestingLimit = nestingLimit - 1 + 1 from rfl, executeNested]
  rfl

@[simp]
theorem run_commitDeferredLoad (machine : Machine) :
    commitDeferredLoad.run machine = .ok () machine.committed :=
  rfl

@[simp]
theorem run_leaveDelaySlot (machine : Machine) :
    leaveDelaySlot.run machine = .ok () machine.slotLeft :=
  rfl

/-- How a transfer goes on after it has entered the delay slot. -/
def continueTransfer
    (execute : Instruction → Action Unit)
    (step : Action Unit)
    (target : UInt32)
    (slot : Instruction)
    (idle : Bool)
    (hazard? : Option (Reg × Hazard)) :
    Action Unit :=
  match hazard? with
  | some (_, .readsAndWrites) => arrive target idle
  | some (register, .reads) => transferHolding (execute slot) step register target
  | _ => do
      execute slot
      arrive target idle

/-- The hazard is read off the word at the target. -/
theorem run_hazardOf
    (slot : Instruction)
    (target : UInt32)
    (machine : Machine) :
    (hazardOf slot target).run machine =
      .ok
        ((loadedRegister? slot).map fun register =>
          (register, hazardAt (machine.bus.read .word target) register))
        machine := by
  unfold hazardOf
  cases loadedRegister? slot with
  | none => rfl
  | some register => rfl

/-- A transfer enters its delay slot and goes on as the hazard asks. -/
theorem run_transfer
    (execute : Instruction → Action Unit)
    (step : Action Unit)
    (target : UInt32)
    (machine : Machine) :
    (transfer execute step target).run machine =
      (continueTransfer execute step target machine.nextInstruction
          (machine.loopsTo target) (machine.hazard? target)).run
        machine.inSlot := by
  have entered :
      (transfer execute step target).run machine =
        (do
            let found ← hazardOf (.ofWord machine.committed.nextWord) target
            continueTransfer execute step target
              (.ofWord machine.committed.nextWord)
              (machine.committed.loopsTo target) found :
            Action Unit).run
          machine.inSlot :=
    rfl
  rw [entered, Machine.nextWord_committed, Machine.loopsTo_committed]
  simp only [EStateM.run_bind, run_hazardOf, Machine.hazard?,
    Machine.nextInstruction]

@[simp]
theorem run_link (register : Reg) (machine : Machine) :
    (link register).run machine =
      .ok ()
        (machine.withRegisters
          (machine.cpu.registers.set register (machine.cpu.registers.pc + 4))) := by
  rw [link, EStateM.run_bind, run_getPc]
  exact run_setReg _ _ _

@[simp]
theorem run_jumpTarget (field : UInt32) (machine : Machine) :
    (jumpTarget field).run machine =
      .ok ((machine.cpu.registers.pc &&& 0xF0000000) ||| (4 * field)) machine :=
  rfl

@[simp]
theorem run_branchTarget (offset : UInt32) (machine : Machine) :
    (branchTarget offset).run machine =
      .ok (machine.cpu.registers.pc + 4 * signExtend16 offset) machine :=
  rfl

/-- A jump or a taken branch links and transfers control. -/
theorem run_executeWith_of_target
    (execute : Instruction → Action Unit)
    {instruction : Instruction}
    {machine : Machine}
    {target : UInt32}
    (taken : instruction.target? machine.cpu.registers = some target) :
    (executeWith execute instruction).run machine =
      (transfer execute (stepWith execute) target).run
        (machine.withRegisters (instruction.linked machine.cpu.registers)) := by
  cases instruction <;> simp only [Instruction.target?, reduceCtorEq] at taken
  case jump field =>
    cases taken
    rw [executeWith, EStateM.run_bind, run_jumpTarget, Instruction.linked,
      Machine.withRegisters_self]
    all_goals simp
  case jumpLink field =>
    cases taken
    rw [executeWith, EStateM.run_bind, run_link, Instruction.linked]
    simp only
    rw [EStateM.run_bind, run_jumpTarget]
    simp only [Machine.withRegisters_registers, Registers.pc_set]
  case jumpRegister source =>
    cases taken
    rw [executeWith, EStateM.run_bind, run_getReg, Instruction.linked,
      Machine.withRegisters_self]
    all_goals simp
  case jumpLinkRegister link source =>
    cases taken
    rw [executeWith, EStateM.run_bind, run_getReg]
    simp only
    rw [EStateM.run_bind, run_link, Instruction.linked]
  case branch test first second offset =>
    split at taken
    · next holds =>
        cases taken
        rw [executeWith, EStateM.run_bind, run_getReg]
        simp only
        rw [EStateM.run_bind, run_getReg]
        simp only
        rw [if_pos holds, EStateM.run_bind, run_branchTarget, Instruction.linked,
          Machine.withRegisters_self]
        all_goals simp
    · cases taken
  case branchSign nonNegative links source offset =>
    split at taken
    · next holds =>
        cases taken
        rw [executeWith, EStateM.run_bind, run_getReg]
        simp only
        cases links with
        | true =>
            rw [if_pos rfl, EStateM.run_bind, run_link, Instruction.linked]
            simp only
            rw [if_pos holds, EStateM.run_bind, run_branchTarget]
            simp only [Machine.withRegisters_registers, Registers.pc_set]
        | false =>
            rw [if_neg Bool.false_ne_true, if_pos holds, EStateM.run_bind,
              run_branchTarget, Instruction.linked, Machine.withRegisters_self]
            all_goals simp
    · cases taken

/-- A branch that is not taken does no more than link. -/
theorem run_executeWith_of_untaken
    (execute : Instruction → Action Unit)
    {instruction : Instruction}
    {machine : Machine}
    (transfers : instruction.isTransfer = true)
    (untaken : instruction.target? machine.cpu.registers = none) :
    (executeWith execute instruction).run machine =
      .ok () (machine.withRegisters (instruction.linked machine.cpu.registers)) := by
  cases instruction <;> simp only [Instruction.isTransfer, Bool.false_eq_true] at transfers
  case jump field => cases untaken
  case jumpLink field => cases untaken
  case jumpRegister source => cases untaken
  case jumpLinkRegister target source => cases untaken
  case branch test first second offset =>
    have fails :
        ¬test.holds (machine.cpu.registers.get first) (machine.cpu.registers.get second) =
          true := by
      intro holds
      simp only [Instruction.target?, holds, ↓reduceIte, reduceCtorEq] at untaken
    rw [executeWith, EStateM.run_bind, run_getReg]
    simp only
    rw [EStateM.run_bind, run_getReg]
    simp only
    rw [if_neg fails]
    rfl
  case branchSign nonNegative links source offset =>
    have fails :
        ¬(nonNegative == decide (0 ≤ signed (machine.cpu.registers.get source))) =
          true := by
      intro holds
      simp only [Instruction.target?, holds, ↓reduceIte, reduceCtorEq] at untaken
    rw [executeWith, EStateM.run_bind, run_getReg]
    simp only
    cases links with
    | true =>
        rw [if_pos rfl, EStateM.run_bind, run_link]
        simp only
        rw [if_neg fails]
        rfl
    | false =>
        rw [if_neg Bool.false_ne_true, if_neg fails]
        rfl

/-- Without a hazard, the slot is executed and the transfer arrives. -/
theorem run_transfer_of_no_hazard
    (execute : Instruction → Action Unit)
    (step : Action Unit)
    {target : UInt32}
    {machine : Machine}
    (noLoad : loadedRegister? machine.nextInstruction = none) :
    (transfer execute step target).run machine =
      (do
          execute machine.nextInstruction
          arrive target (machine.loopsTo target) :
          Action Unit).run
        machine.inSlot := by
  simp only [run_transfer, Machine.hazard?, noLoad, Option.map_none, continueTransfer]

/-- A transfer arrives at its target unless its delay slot took an exception. -/
theorem run_arrive
    (target : UInt32)
    (idle : Bool)
    (machine : Machine) :
    (arrive target idle).run machine =
      if machine.cpu.exceptionTaken then
        .ok () machine.slotLeft
      else
        (settle idle).run (machine.atTarget target) := by
  have kept : machine.slotLeft.cpu.exceptionTaken = machine.cpu.exceptionTaken := rfl
  simp only [arrive, EStateM.run_bind, run_leaveDelaySlot, run_ofCpu, kept]
  cases machine.cpu.exceptionTaken with
  | true => rfl
  | false => rfl

/-- Serving the counters happens on the bus alone. -/
theorem run_serveCounters (machine : Machine) :
    serveCounters.run machine =
      match machine.bus.serviced with
      | .ok _ bus => .ok () (machine.withBus bus)
      | .error fault bus => .error fault (machine.withBus bus) := by
  rw [serveCounters, EStateM.run_bind, run_ofBus, Bus.serviced]
  simp only
  split
  · rw [run_onBus]
    cases Bus.updateCounters.run machine.bus with
    | ok value bus => rfl
    | error fault bus => rfl
  · rfl

/-- On arrival the counters are served and then the interrupts are checked. -/
theorem run_settle (machine : Machine) :
    (settle false).run machine =
      match machine.bus.serviced with
      | .ok _ bus => .ok () (machine.withBus bus).checked
      | .error fault bus => .error fault (machine.withBus bus) := by
  rw [settle, EStateM.run_bind, run_serveCounters]
  cases machine.bus.serviced with
  | error fault bus => rfl
  | ok value bus =>
      simp only
      rw [EStateM.run_bind, run_ofBus, Machine.checked]
      simp only
      split
      · rw [EStateM.run_bind, run_modifySystem]
        simp only
        rw [EStateM.run_bind, run_ofCpu]
        simp only [Machine.withSystem_system]
        by_cases takes :
          ((machine.withBus bus).cpu.system.setLine true).takesInterrupts = true
        · simp only [takes, ↓reduceIte]
          rfl
        · simp only [takes, Bool.false_eq_true, ↓reduceIte]
          rfl
      · rfl

/-- After the check on arrival either an interrupt has been taken or its line is set. -/
theorem settle_cases
    {machine after : Machine}
    (ran : (settle false).run machine = .ok () after) :
    ∃ bus,
      machine.bus.serviced = .ok () bus ∧
        (after = (machine.withBus bus).interrupted ∨
          ∃ isUp,
            after = (machine.withBus bus).withSystem (machine.cpu.system.setLine isUp)) := by
  rw [run_settle] at ran
  cases serviced : machine.bus.serviced with
  | error fault bus =>
      rw [serviced] at ran
      cases ran
  | ok value bus =>
      rw [serviced] at ran
      cases ran
      refine ⟨bus, rfl, ?_⟩
      unfold Machine.checked
      split
      · split
        · exact .inl rfl
        · exact .inr ⟨true, rfl⟩
      · exact .inr ⟨false, rfl⟩

/-- Nothing happens on arrival while no deadline is reached and no interrupt is taken. -/
theorem run_settle_of_quiet
    {machine : Machine}
    (early : machine.bus.counters.deadlineReached = false)
    (masked :
      machine.bus.interrupts.isPending = true →
      (machine.cpu.system.setLine true).takesInterrupts = false) :
    (settle false).run machine =
      .ok ()
        (machine.withSystem
          (machine.cpu.system.setLine machine.bus.interrupts.isPending)) := by
  rw [run_settle, Bus.serviced_of_early early]
  simp only [Machine.checked, Machine.withBus_self]
  by_cases pending : machine.bus.interrupts.isPending = true
  · simp [pending, masked pending]
  · simp [pending]

/-- A transfer that nothing disturbs arrives at its target. -/
theorem run_arrive_of_quiet
    {machine : Machine}
    (target : UInt32)
    (noException : machine.cpu.exceptionTaken = false)
    (early : machine.bus.counters.deadlineReached = false)
    (masked :
      machine.bus.interrupts.isPending = true →
      (machine.cpu.system.setLine true).takesInterrupts = false) :
    (arrive target false).run machine = .ok () (machine.arrived target) := by
  rw [run_arrive, noException, if_neg Bool.false_ne_true, run_settle_of_quiet]
  · rfl
  · exact early
  · exact masked

end Action

end PsxPlayer
