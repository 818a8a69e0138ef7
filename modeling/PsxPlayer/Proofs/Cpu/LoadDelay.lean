import PsxPlayer.Proofs.Cpu.Guest
import PsxPlayer.Proofs.Cpu.Holding

namespace PsxPlayer

/-!
# A load in a delay slot becomes visible late

The processor carries out a load at once.  Where a branch has a load in its delay
slot, it still lets the instruction at the target see the old value, as if the load
became visible one instruction later.  If the target reads the register and writes
it too, the load is left out.
-/

namespace Bus

variable {bus after : Bus}

/-- Serving the counters changes nothing that is read from plain memory. -/
theorem read_serviced_of_noPort
    {address : UInt32}
    (noPort : port? address = none)
    (serviced : bus.serviced = .ok () after)
    (width : Width) :
    after.read width address = bus.read width address := by
  rw [read_of_noPort noPort, read_of_noPort noPort, serviced_memory serviced]

end Bus

namespace Action

/-- Execute the instruction at the program counter unless an exception came between. -/
def stepOn : Action Unit := do
  unless ← ofCpu Cpu.exceptionTaken do
    step

/-- A step of a branch, and then one of its target if the branch has not replayed it. -/
def stepThrough (isReplayed : Bool) : Action Unit := do
  step
  unless isReplayed do
    stepOn

/-- Let a loaded value appear unless the instruction before has written the register. -/
def finishLoad (register : Reg) (loaded : UInt32) (isWritten : Bool) : Action Unit := do
  unless isWritten && !(← ofCpu Cpu.exceptionTaken) do
    setReg register loaded

/--
Arrive at the target and execute it before a loaded value appears.  The check for
interrupts comes before the instruction at the target or, if it is late, after it.
-/
def arriveBefore (register : Reg) (loaded : UInt32) (isWritten isLate : Bool) :
    Action Unit := do
  if isLate then
    stepOn
    finishLoad register loaded isWritten
    settle false
  else
    settle false
    stepOn
    finishLoad register loaded isWritten

/--
A load in a delay slot that becomes visible after the instruction at the target,
unless that one writes the register.
-/
def delayLoad
    (load : Action Unit)
    (register : Reg)
    (target : UInt32)
    (isWritten isLate : Bool) :
    Action Unit := do
  let old ← getReg register
  load
  leaveDelaySlot
  unless ← ofCpu Cpu.exceptionTaken do
    let loaded ← getReg register
    setReg register old
    setPc target
    arriveBefore register loaded isWritten isLate

/-- A load in a delay slot that is left out. -/
def dropLoad (target : UInt32) : Action Unit := do
  leaveDelaySlot
  setPc target
  settle false
  stepOn

/--
What becomes of a load in a delay slot before the instruction `next` at the target: it
is left out if that one reads its register and writes it, and delayed otherwise.
-/
def delayAcross
    (load : Action Unit)
    (register : Reg)
    (target : UInt32)
    (next : Instruction) :
    Action Unit :=
  let isRead := next.sources.contains register
  let isWritten := next.destination? == some register
  if isRead && isWritten then
    dropLoad target
  else
    delayLoad load register target isWritten isRead

/-- Two runs end in the same machine or with the same fault. -/
inductive SameOutcome :
    EStateM.Result Fault Machine Unit → EStateM.Result Fault Machine Unit → Prop where
  | ok (machine : Machine) : SameOutcome (.ok () machine) (.ok () machine)
  | error (fault : Fault) (first second : Machine) :
      SameOutcome (.error fault first) (.error fault second)

theorem SameOutcome.refl (result : EStateM.Result Fault Machine Unit) :
    SameOutcome result result := by
  cases result with
  | ok value machine => exact .ok machine
  | error fault failed => exact .error fault failed failed

/-- Runs with the same outcome that succeed leave the same machine. -/
theorem SameOutcome.eq_of_ok
    {first second : Machine}
    (same : SameOutcome (.ok () first) (.ok () second)) :
    first = second := by
  cases same
  rfl

section

variable (machine : Machine) (register : Reg) (value : UInt32)
  (deferred? : Option (Reg × UInt32))

/-- An interrupt does not touch an overlay. -/
theorem interrupted_overlaid :
    (machine.overlaid register value deferred?).interrupted =
      machine.interrupted.overlaid register value deferred? := by
  have entered :=
    Cpu.enterException_overlaid
      { machine.cpu with system := machine.cpu.system.setLine true }
      .interrupt register value deferred? machine.cpu.registers.pc false
  unfold Machine.interrupted
  change
    ({ machine with
        cpu :=
          (Cpu.overlaid
                { machine.cpu with system := machine.cpu.system.setLine true }
                register value deferred?).enterException
            .interrupt (machine.cpu.registers.set register value).pc false } :
      Machine) = _
  rw [Registers.pc_set, entered]
  rfl

/-- The check for interrupts does not touch an overlay. -/
theorem checked_overlaid :
    (machine.overlaid register value deferred?).checked =
      machine.checked.overlaid register value deferred? := by
  unfold Machine.checked
  change
    (if machine.bus.interrupts.isPending then
        if (machine.cpu.system.setLine true).takesInterrupts then
          (machine.overlaid register value deferred?).interrupted
        else
          (machine.withSystem (machine.cpu.system.setLine true)).overlaid
            register value deferred?
      else
        (machine.withSystem (machine.cpu.system.setLine false)).overlaid
          register value deferred?) = _
  rw [interrupted_overlaid]
  split
  · split
    · rfl
    · rfl
  · rfl

/-- The check on arrival does not touch an overlay. -/
theorem run_settle_overlaid :
    (settle false).run (machine.overlaid register value deferred?) =
      match (settle false).run machine with
      | .ok _ after => .ok () (after.overlaid register value deferred?)
      | .error fault failed =>
          .error fault (failed.overlaid register value deferred?) := by
  have sameBus : (machine.overlaid register value deferred?).bus = machine.bus := rfl
  rw [run_settle, run_settle, sameBus]
  cases machine.bus.serviced with
  | error fault bus => rfl
  | ok _ bus =>
      exact
        congrArg (EStateM.Result.ok ())
          (checked_overlaid (machine.withBus bus) register value deferred?)

end

/-- How an instruction that nests no other is executed does not depend on nesting. -/
theorem executeWith_of_isPlain
    {instruction : Instruction}
    (plain : instruction.isPlain = true)
    (first second : Instruction → Action Unit) :
    executeWith first instruction = executeWith second instruction := by
  cases instruction <;>
    simp only [Instruction.isPlain, Instruction.isTransfer, Bool.not_true,
      Bool.false_eq_true] at plain <;>
    rfl

/-- A step of an instruction that nests no other. -/
theorem run_step_of_isPlain
    {machine : Machine}
    (plain : machine.nextInstruction.isPlain = true)
    (execute : Instruction → Action Unit) :
    step.run machine =
      (executeWith execute machine.nextInstruction).run machine.fetched := by
  rw [step, run_stepWith, execute_eq]
  exact congrArg (EStateM.run · machine.fetched) (executeWith_of_isPlain plain _ _)

/-- Fetching does not look at a load that is held back. -/
theorem fetched_overlaid
    (machine : Machine)
    (register : Reg)
    (value : UInt32)
    (deferred? : Option (Reg × UInt32)) :
    (machine.overlaid register value deferred?).fetched =
      machine.fetched.overlaid register value deferred? := by
  unfold Machine.fetched Machine.overlaid Cpu.overlaid Machine.withRegisters
  simp only [Machine.withBus, Registers.pc_set, Registers.set_withPc]

/-- A step of an instruction that does not read a register carries an overlay of it. -/
theorem run_step_overlaid
    {machine : Machine}
    {register : Reg}
    (plain : machine.nextInstruction.isPlain = true)
    (unread : register = 0 ∨ register ∉ machine.nextInstruction.sources)
    (calm : machine.cpu.exceptionTaken = false)
    (value : UInt32)
    (deferred? : Option (Reg × UInt32))
    (execute : Instruction → Action Unit) :
    (executeWith execute machine.nextInstruction).run
        (machine.overlaid register value deferred?).fetched =
      match step.run machine with
      | .ok _ after =>
          .ok ()
            (after.overlaid
              (if machine.nextInstruction.destination? == some register &&
                  !after.cpu.exceptionTaken then
                0
              else
                register)
              value deferred?)
      | .error fault failed =>
          .error fault (failed.overlaid register value deferred?) := by
  rw [fetched_overlaid, run_step_of_isPlain plain execute]
  exact carries_executeWith execute plain unread machine.fetched calm

/-- Runs that follow each other up to an overlay, and go on alike, have the same outcome. -/
theorem SameOutcome.bind
    {first second : Action Unit}
    {next other : Action Unit}
    {shown hidden : Machine}
    {overlay fail : Machine → Machine}
    (follows :
      first.run shown =
        match second.run hidden with
        | .ok _ after => .ok () (overlay after)
        | .error fault failed => .error fault (fail failed))
    (continues :
      ∀ after,
        second.run hidden = .ok () after →
        SameOutcome (next.run (overlay after)) (other.run after)) :
    SameOutcome
      ((first >>= fun _ => next).run shown)
      ((second >>= fun _ => other).run hidden) := by
  rw [EStateM.run_bind, EStateM.run_bind, follows]
  cases ran : second.run hidden with
  | error fault failed => exact .error fault _ _
  | ok value after => exact continues after ran

/-- The check on arrival leaves a load that is held back alone. -/
theorem deferredLoad?_of_settle
    {machine after : Machine}
    (ran : (settle false).run machine = .ok () after) :
    after.cpu.deferredLoad? = machine.cpu.deferredLoad? := by
  obtain ⟨bus, -, interrupted | ⟨isUp, lineSet⟩⟩ := settle_cases ran
  · rw [interrupted]
    rfl
  · rw [lineSet]
    rfl

/-- An instruction that nests no other leaves no load held back. -/
theorem deferredLoad?_of_step
    {machine after : Machine}
    (plain : machine.nextInstruction.isPlain = true)
    (calm : machine.cpu.exceptionTaken = false)
    (nothingHeld : machine.cpu.deferredLoad? = none)
    (ran : step.run machine = .ok () after) :
    after.cpu.deferredLoad? = none := by
  have carried :=
    run_step_overlaid plain (.inl rfl : (0 : Reg) = 0 ∨ _) calm 0 none execute
  rw [machine.overlaid_zero nothingHeld, ← run_step_of_isPlain plain execute,
    ran] at carried
  injection carried with _ same
  rw [same]
  rfl

/-- The instruction at the target is the one that the hazard was read off. -/
theorem nextInstruction_of_settle
    {machine after : Machine}
    {word : UInt32}
    (steady :
      ∀ bus,
        machine.bus.serviced = .ok () bus →
        bus.read .word machine.cpu.registers.pc = word)
    (ran : (settle false).run machine = .ok () after)
    (calm : after.cpu.exceptionTaken = false) :
    after.nextInstruction = .ofWord word := by
  obtain ⟨bus, serviced, interrupted | ⟨isUp, lineSet⟩⟩ := settle_cases ran
  · have taken : after.cpu.exceptionTaken = true := by
      rw [interrupted]
      rfl
    exact absurd (calm.symm.trans taken) Bool.false_ne_true
  · rw [lineSet, ← steady bus serviced]
    rfl

/-- Without an exception another step is taken. -/
theorem run_stepOn_of_calm
    {machine : Machine}
    (calm : machine.cpu.exceptionTaken = false) :
    stepOn.run machine = step.run machine := by
  rw [stepOn, EStateM.run_bind, run_ofCpu]
  simp only [calm, Bool.false_eq_true, ↓reduceIte]

/-- After an exception no further step is taken. -/
theorem run_stepOn_of_exceptionTaken
    {machine : Machine}
    (taken : machine.cpu.exceptionTaken = true) :
    stepOn.run machine = .ok () machine := by
  rw [stepOn, EStateM.run_bind, run_ofCpu]
  simp only [taken, ↓reduceIte, EStateM.run_pure]

/-- At last the value that was loaded is written, unless something newer stands there. -/
theorem run_finishLoad
    (register : Reg)
    (loaded : UInt32)
    (isWritten : Bool)
    (machine : Machine) :
    (finishLoad register loaded isWritten).run machine =
      .ok ()
        (if isWritten && !machine.cpu.exceptionTaken then
          machine
        else
          machine.withRegisters (machine.cpu.registers.set register loaded)) := by
  rw [finishLoad, EStateM.run_bind, run_ofCpu]
  simp only
  split <;> rfl

/-- The instruction at the target does not notice a loaded value that it does not read. -/
theorem sameOutcome_stepOn
    {machine : Machine}
    {register : Reg}
    (plain : machine.nextInstruction.isPlain = true)
    (unread : register ∉ machine.nextInstruction.sources)
    (nothingHeld : machine.cpu.deferredLoad? = none)
    (calm : machine.cpu.exceptionTaken = false)
    (loaded : UInt32) :
    SameOutcome
      (stepOn.run (machine.overlaid register loaded none))
      ((stepOn >>= fun _ =>
            finishLoad register loaded
              (machine.nextInstruction.destination? == some register)).run
        machine) := by
  have overlaidStep :
      (stepOn.run (machine.overlaid register loaded none)) =
        (executeWith execute machine.nextInstruction).run
          (machine.overlaid register loaded none).fetched := by
    have samePlain :
        (machine.overlaid register loaded none).nextInstruction.isPlain = true := by
      rw [Machine.nextInstruction_overlaid]
      exact plain
    have stillCalm : (machine.overlaid register loaded none).cpu.exceptionTaken = false :=
      calm
    rw [run_stepOn_of_calm stillCalm, run_step_of_isPlain samePlain execute,
      Machine.nextInstruction_overlaid]
  rw [overlaidStep, run_step_overlaid plain (.inr unread) calm, EStateM.run_bind,
    run_stepOn_of_calm calm]
  cases ran : step.run machine with
  | error fault failed => exact .error fault _ _
  | ok value after =>
      have stillNothing := deferredLoad?_of_step plain calm nothingHeld ran
      simp only [run_finishLoad]
      split
      · rw [after.overlaid_zero stillNothing]
        exact .ok after
      · rw [after.overlaid_eq_withRegisters stillNothing]
        exact .ok _

/-- A load that the target does not read may be visible before the target. -/
theorem sameOutcome_early
    {machine : Machine}
    {register : Reg}
    {word : UInt32}
    (plain : (Instruction.ofWord word).isPlain = true)
    (unread : register ∉ (Instruction.ofWord word).sources)
    (nothingHeld : machine.cpu.deferredLoad? = none)
    (steady :
      ∀ bus,
        machine.bus.serviced = .ok () bus →
        bus.read .word machine.cpu.registers.pc = word)
    (loaded : UInt32) :
    SameOutcome
      ((settle false >>= fun _ => stepOn).run (machine.overlaid register loaded none))
      ((arriveBefore register loaded
            ((Instruction.ofWord word).destination? == some register) false).run
        machine) := by
  refine SameOutcome.bind (run_settle_overlaid machine register loaded none) ?_
  intro after ran
  have stillNothing := (deferredLoad?_of_settle ran).trans nothingHeld
  by_cases taken : after.cpu.exceptionTaken = true
  · have stillTaken : (after.overlaid register loaded none).cpu.exceptionTaken = true :=
      taken
    rw [run_stepOn_of_exceptionTaken stillTaken, EStateM.run_bind,
      run_stepOn_of_exceptionTaken taken]
    simp only [run_finishLoad, taken, Bool.not_true, Bool.and_false, Bool.false_eq_true,
      ↓reduceIte]
    rw [after.overlaid_eq_withRegisters stillNothing]
    exact .ok _
  · have calm : after.cpu.exceptionTaken = false := by simpa using taken
    have sameNext := nextInstruction_of_settle steady ran calm
    rw [← sameNext] at plain unread ⊢
    exact sameOutcome_stepOn plain unread stillNothing calm loaded

/-- A load that the target reads is held back until after the target. -/
theorem sameOutcome_late
    {machine : Machine}
    (plain : machine.nextInstruction.isPlain = true)
    (nothingHeld : machine.cpu.deferredLoad? = none)
    (calm : machine.cpu.exceptionTaken = false)
    (register : Reg)
    (loaded : UInt32)
    (nested : Instruction → Action Unit) :
    SameOutcome
      ((stepWith (executeWith nested) >>= fun _ =>
            commitDeferredLoad >>= fun _ => settle false).run
        (machine.overlaid 0 0 (some (register, loaded))))
      ((arriveBefore register loaded false true).run machine) := by
  have held :
      (stepWith (executeWith nested)).run
          (machine.overlaid 0 0 (some (register, loaded))) =
        (executeWith nested machine.nextInstruction).run
          (machine.overlaid 0 0 (some (register, loaded))).fetched := by
    rw [run_stepWith, ← Machine.nextInstruction, Machine.nextInstruction_overlaid]
  have carried :=
    run_step_overlaid plain (.inl rfl : (0 : Reg) = 0 ∨ _) calm 0
      (some (register, loaded)) nested
  rw [← held] at carried
  rw [arriveBefore]
  simp only [↓reduceIte]
  rw [EStateM.run_bind, EStateM.run_bind, carried, run_stepOn_of_calm calm]
  cases ran : step.run machine with
  | error fault failed => exact .error fault _ _
  | ok value after =>
      have stillNothing := deferredLoad?_of_step plain calm nothingHeld ran
      have committed :
          (after.overlaid (if machine.nextInstruction.destination? == some 0 &&
              !after.cpu.exceptionTaken then 0 else 0) 0
              (some (register, loaded))).committed =
            after.withRegisters (after.cpu.registers.set register loaded) := by
        rw [ite_self, ← after.overlaid_eq_withRegisters stillNothing]
        unfold Machine.committed Machine.overlaid Cpu.overlaid Cpu.committed
        simp only [Registers.set_zero]
      simp only
      rw [EStateM.run_bind, EStateM.run_bind, run_commitDeferredLoad, run_finishLoad]
      simp only [committed, Bool.false_and, Bool.false_eq_true, ↓reduceIte]
      exact SameOutcome.refl _

/-- A jump or a taken branch goes on in its delay slot. -/
theorem run_step_of_target
    {machine : Machine}
    {target : UInt32}
    (taken :
      machine.nextInstruction.target? machine.fetched.cpu.registers = some target) :
    ∃ nested,
      step.run machine =
        (continueTransfer (executeWith nested) (stepWith (executeWith nested)) target
            machine.branched.nextInstruction (machine.branched.loopsTo target)
            (machine.branched.hazard? target)).run
          machine.branched.inSlot := by
  have nestsOne : nestingLimit - 1 = nestingLimit - 2 + 1 := by decide
  refine ⟨executeNested (nestingLimit - 2), ?_⟩
  have twice :
      executeNested (nestingLimit - 1) =
        executeWith (executeNested (nestingLimit - 2)) := by
    rw [nestsOne]
    rfl
  rw [step, run_stepWith, execute_eq, twice]
  exact (run_executeWith_of_target _ taken).trans (run_transfer _ _ _ _)

section

variable {machine after : Machine} {load : Action Unit} {register : Reg}
  {loaded target : UInt32} {isWritten isLate : Bool}

/-- A load that raises an exception ends the transfer. -/
theorem run_delayLoad_of_exception
    (ran : load.run machine = .ok () after)
    (taken : after.cpu.exceptionTaken = true) :
    (delayLoad load register target isWritten isLate).run machine =
      .ok () after.slotLeft :=
  run_loadAround_of_exception _ ran taken

/-- A load that succeeds is held back while the next instruction arrives. -/
theorem run_delayLoad_of_value
    (nonzero : register ≠ 0)
    (calm : machine.cpu.exceptionTaken = false)
    (ran :
      load.run machine =
        .ok () (machine.withRegisters (machine.cpu.registers.set register loaded))) :
    (delayLoad load register target isWritten isLate).run machine =
      (arriveBefore register loaded isWritten isLate).run (machine.atTarget target) := by
  have restored :
      ((machine.withRegisters
              (machine.cpu.registers.set register loaded)).slotLeft.withRegisters
          ((machine.cpu.registers.set register loaded).set register
            (machine.cpu.registers.get register))).withRegisters
          { (machine.cpu.registers.set register loaded).set register
              (machine.cpu.registers.get register) with pc := target } =
        machine.atTarget target := by
    rw [Registers.set_set, Registers.set_get]
    rfl
  refine (run_loadAround_of_value _ nonzero calm ran).trans ?_
  rw [EStateM.run_bind, run_setReg]
  simp only
  rw [EStateM.run_bind, run_setPc]
  exact congrArg (arriveBefore register loaded isWritten isLate).run restored

theorem run_stepThrough_replayed : (stepThrough true).run machine = step.run machine := by
  rw [stepThrough, EStateM.run_bind]
  generalize step.run machine = result
  cases result <;> rfl

/-- A step that does what an action does may stand in its place. -/
theorem run_stepThrough_eq
    {action : Action Unit}
    {start : Machine}
    (ran : step.run machine = action.run start) :
    (stepThrough false).run machine = (action >>= fun _ => stepOn).run start := by
  rw [stepThrough, EStateM.run_bind, EStateM.run_bind, ran]
  generalize action.run start = result
  cases result <;> rfl

/-- A load that is dropped leaves the transfer as one without it. -/
theorem run_dropLoad :
    (dropLoad target).run machine =
      (settle false >>= fun _ => stepOn).run (machine.atTarget target) := by
  rw [dropLoad, EStateM.run_bind, run_leaveDelaySlot]
  simp only
  rw [EStateM.run_bind, run_setPc]
  rfl

end

section

variable {slotted : Machine} {target : UInt32} {register : Reg} (op : LoadOp) (base : Reg)
  (offset : UInt32)

/-- A load that the target reads and does not write is delayed. -/
theorem sameOutcome_transferHolding
    (nonzero : register ≠ 0)
    (plain : (slotted.atTarget target).nextInstruction.isPlain = true)
    (nothingHeld : slotted.cpu.deferredLoad? = none)
    (calm : slotted.cpu.exceptionTaken = false)
    (nested : Instruction → Action Unit) :
    SameOutcome
      ((transferHolding (load op register base offset) (stepWith (executeWith nested))
            register target).run
        slotted)
      ((delayLoad (load op register base offset) register target false true).run
        slotted) := by
  obtain ⟨after, ran, outcome⟩ := load_outcome op register base offset slotted
  rcases outcome with exception | ⟨loaded, rfl⟩
  · rw [run_transferHolding_of_exception _ ran exception,
      run_delayLoad_of_exception ran exception]
    exact SameOutcome.refl _
  · have nothingHeldThere : (slotted.atTarget target).cpu.deferredLoad? = none :=
      nothingHeld
    rw [run_transferHolding_of_value _ nonzero calm ran,
      run_delayLoad_of_value nonzero calm ran]
    exact sameOutcome_late plain nothingHeldThere calm register loaded nested

/-- A load that the target does not read is delayed, as far as anything shows. -/
theorem sameOutcome_arrive
    (nonzero : register ≠ 0)
    {next : Instruction}
    (found : .ofWord (slotted.bus.read .word target) = next)
    (plain : next.isPlain = true)
    (unread : register ∉ next.sources)
    (nothingHeld : slotted.cpu.deferredLoad? = none)
    (calm : slotted.cpu.exceptionTaken = false)
    (steady :
      ∀ bus,
        slotted.bus.serviced = .ok () bus →
        bus.read .word target = slotted.bus.read .word target) :
    SameOutcome
      (((load op register base offset >>= fun _ => arrive target false) >>= fun _ =>
            stepOn).run
        slotted)
      ((delayLoad (load op register base offset) register target
            (next.destination? == some register) false).run
        slotted) := by
  obtain ⟨after, ran, outcome⟩ := load_outcome op register base offset slotted
  rw [EStateM.run_bind, EStateM.run_bind, ran]
  simp only
  rcases outcome with exception | ⟨loaded, rfl⟩
  · have stillTaken : after.slotLeft.cpu.exceptionTaken = true := exception
    rw [run_arrive, exception, if_pos rfl, run_delayLoad_of_exception ran exception]
    simp only
    rw [run_stepOn_of_exceptionTaken stillTaken]
    exact SameOutcome.refl _
  · have stillCalm :
        (slotted.withRegisters
            (slotted.cpu.registers.set register loaded)).cpu.exceptionTaken =
          false :=
      calm
    have nothingHeldThere : (slotted.atTarget target).cpu.deferredLoad? = none :=
      nothingHeld
    have shown :
        (slotted.withRegisters (slotted.cpu.registers.set register loaded)).atTarget
            target =
          (slotted.atTarget target).overlaid register loaded none := by
      rw [Machine.overlaid_eq_withRegisters _ nothingHeldThere]
      unfold Machine.atTarget
      simp only [Machine.withRegisters_registers, Registers.set_withPc]
      rfl
    rw [run_arrive_of_calm stillCalm, run_delayLoad_of_value nonzero calm ran, shown,
      ← EStateM.run_bind, ← found]
    rw [← found] at plain unread
    exact sameOutcome_early plain unread nothingHeldThere steady loaded

end

/-- A jump or a taken branch with a load in its delay slot goes on as the hazard asks. -/
theorem run_step_of_load
    {machine : Machine}
    {target offset : UInt32}
    {op : LoadOp}
    {register base : Reg}
    {next : Instruction}
    (taken :
      machine.nextInstruction.target? machine.fetched.cpu.registers = some target)
    (slot : machine.branched.nextInstruction = .load op register base offset)
    (nonzero : register ≠ 0)
    (found : .ofWord (machine.branched.inSlot.bus.read .word target) = next) :
    ∃ nested,
      step.run machine =
        (continueTransfer (executeWith nested) (stepWith (executeWith nested)) target
            (.load op register base offset) false
            (some (register, next.hazard register))).run
          machine.branched.inSlot := by
  obtain ⟨nested, stepped⟩ := run_step_of_target taken
  have notIdle : machine.branched.loopsTo target = false := by
    have nop : Instruction.ofWord 0 = .shift .left 0 0 0 := by decide
    have notNop : machine.branched.nextWord ≠ 0 := by
      intro isNop
      rw [Machine.nextInstruction, isNop, nop] at slot
      cases slot
    simp [Machine.loopsTo, notNop]
  have hazard :
      machine.branched.hazard? target = some (register, next.hazard register) := by
    rw [Machine.hazard?, slot, loadedRegister?, if_neg nonzero, ← found]
    rfl
  rw [slot, notIdle, hazard] at stepped
  exact ⟨nested, stepped⟩

/-- A jump or a taken branch holds back the load in its delay slot. -/
theorem stepThrough_delaysLoad
    (machine : Machine)
    {target offset : UInt32}
    {op : LoadOp}
    {register base : Reg}
    {next : Instruction}
    (taken :
      machine.nextInstruction.target? machine.fetched.cpu.registers = some target)
    (slot : machine.branched.nextInstruction = .load op register base offset)
    (nonzero : register ≠ 0)
    (found : .ofWord (machine.branched.inSlot.bus.read .word target) = next)
    (plain : next.isPlain = true)
    (steady :
      ∀ bus,
        machine.branched.inSlot.bus.serviced = .ok () bus →
        bus.read .word target = machine.branched.inSlot.bus.read .word target) :
    SameOutcome
      ((stepThrough (next.hazard register == .reads)).run machine)
      ((delayAcross (load op register base offset) register target next).run
        machine.branched.inSlot) := by
  obtain ⟨nested, stepped⟩ := run_step_of_load taken slot nonzero found
  have nothingHeld : machine.branched.inSlot.cpu.deferredLoad? = none :=
    Cpu.deferredLoad?_committed _
  have calm : machine.branched.inSlot.cpu.exceptionTaken = false := rfl
  generalize machine.branched.inSlot = slotted at found steady stepped nothingHeld calm ⊢
  have loads (nested : Instruction → Action Unit) :
      executeWith nested (.load op register base offset) = load op register base offset :=
    rfl
  -- what the code does is chosen by the hazard, what it should do by the two uses
  unfold delayAcross
  unfold Instruction.hazard at stepped ⊢
  cases isRead : next.sources.contains register with
  | true =>
      cases isWritten : next.destination? == some register with
      | true =>
          simp only [isRead, isWritten, continueTransfer] at stepped
          change
            SameOutcome ((stepThrough false).run machine) ((dropLoad target).run slotted)
          rw [run_stepThrough_eq (stepped.trans (run_arrive_of_calm calm target)),
            run_dropLoad]
          exact SameOutcome.refl _
      | false =>
          have plainThere : (slotted.atTarget target).nextInstruction.isPlain = true := by
            rw [← found] at plain
            exact plain
          simp only [isRead, isWritten, continueTransfer, loads] at stepped
          change
            SameOutcome ((stepThrough true).run machine)
              ((delayLoad (load op register base offset) register target false true).run
                slotted)
          rw [run_stepThrough_replayed, stepped]
          exact sameOutcome_transferHolding op base offset nonzero plainThere nothingHeld calm
            nested
  | false =>
      have unread : register ∉ next.sources := by
        intro member
        rw [List.contains_iff_mem.mpr member] at isRead
        cases isRead
      have early :=
        sameOutcome_arrive op base offset nonzero found plain unread nothingHeld calm steady
      cases isWritten : next.destination? == some register with
      | true =>
          simp only [isRead, isWritten, continueTransfer, loads] at stepped
          rw [← run_stepThrough_eq stepped, isWritten] at early
          exact early
      | false =>
          simp only [isRead, isWritten, continueTransfer, loads] at stepped
          rw [← run_stepThrough_eq stepped, isWritten] at early
          exact early

/-- A branch with a word in its delay slot and another at its target. -/
def branchOver (slot next : UInt32) : List (UInt32 × UInt32) :=
  [(0x80010000, 0x10000007), (0x80010004, slot), (0x80010020, next)]

/-- A machine about to execute the branch. -/
def branching (slot next : UInt32) : Machine :=
  .guest (branchOver slot next) 0x80010000

section

variable {slot next : UInt32} (program : isProgram (branchOver slot next) = true)

include program

/-- The machine is about to branch. -/
theorem nextInstruction_branching :
    (branching slot next).nextInstruction = .branch .equal 0 0 7 := by
  have holds : (branching slot next).Holds (branchOver slot next) := rfl
  have word : (branching slot next).nextWord = 0x10000007 :=
    holds.read program (List.mem_append_right _ (.head _))
      (show port? 0x80010000 = none by decide)
  rw [Machine.nextInstruction, word]
  decide

/-- The branch is taken. -/
theorem taken_branching :
    (branching slot next).nextInstruction.target?
        (branching slot next).fetched.cpu.registers =
      some 0x80010020 := by
  have entry : (branching slot next).fetched.cpu.registers.pc = 0x80010004 :=
    show (0x80010000 : UInt32) + 4 = 0x80010004 by decide
  rw [nextInstruction_branching program, Instruction.target?, if_pos, entry]
  · decide
  · simp only [Registers.get_zero]
    decide

theorem branched_branching :
    (branching slot next).branched = (branching slot next).fetched := by
  rw [Machine.branched, nextInstruction_branching program]
  rfl

theorem slot_branching :
    (branching slot next).branched.nextInstruction = .ofWord slot := by
  have holds : (branching slot next).fetched.Holds (branchOver slot next) := rfl
  have word : (branching slot next).fetched.nextWord = slot :=
    holds.read program (List.mem_append_right _ (.tail _ (.head _)))
      (show port? 0x80010004 = none by decide)
  rw [branched_branching program, Machine.nextInstruction, word]

/-- The slot and the target hold what they were given. -/
theorem inSlot_branching :
    (branching slot next).branched.inSlot.Holds (branchOver slot next) := by
  rw [branched_branching program]
  rfl

theorem target_branching :
    (branching slot next).branched.inSlot.bus.read .word 0x80010020 = next :=
  (inSlot_branching program).read program
    (List.mem_append_right _ (.tail _ (.tail _ (.head _))))
    (show port? 0x80010020 = none by decide)

end

/-- A load in the slot, the loaded register read at the target. -/
theorem branching_delaysLoad :
    (branching 0x8C080000 0x01005021).branched.nextInstruction = .load .word 8 0 0 ∧
      SameOutcome
        ((stepThrough true).run (branching 0x8C080000 0x01005021))
        ((delayAcross (load .word 8 0 0) 8 0x80010020 (.alu .addu 10 8 0)).run
          (branching 0x8C080000 0x01005021).branched.inSlot) := by
  have program : isProgram (branchOver 0x8C080000 0x01005021) = true := by decide
  have slot :
      (branching 0x8C080000 0x01005021).branched.nextInstruction = .load .word 8 0 0 := by
    rw [slot_branching program]
    decide
  have found :
      .ofWord
          ((branching 0x8C080000 0x01005021).branched.inSlot.bus.read .word 0x80010020) =
        Instruction.alu .addu 10 8 0 := by
    rw [target_branching program]
    decide
  have replayed : ((Instruction.alu .addu 10 8 0).hazard 8 == .reads) = true := by decide
  have taken := taken_branching program
  have delayed :=
    stepThrough_delaysLoad (branching 0x8C080000 0x01005021) taken slot (by decide) found
      (by decide) fun bus serviced =>
        Bus.read_serviced_of_noPort (by decide) serviced .word
  rw [replayed] at delayed
  exact ⟨slot, delayed⟩

/-- An addition at a target that nothing disturbs raises no exception. -/
theorem run_target_of_addition
    {slotted : Machine}
    {target : UInt32}
    (found : .ofWord (slotted.bus.read .word target) = Instruction.immediate .addiu 8 8 1)
    (calm : slotted.cpu.exceptionTaken = false)
    (early : slotted.bus.counters.deadlineReached = false)
    (quiet : slotted.bus.interrupts.isPending = false) :
    ∃ after,
      (settle false >>= fun _ => stepOn).run (slotted.atTarget target) = .ok () after ∧
        after.cpu.exceptionTaken = false := by
  let arrived :=
    (slotted.atTarget target).withSystem (slotted.cpu.system.setLine false)
  have settled : (settle false).run (slotted.atTarget target) = .ok () arrived := by
    have isQuiet : (slotted.atTarget target).bus.interrupts.isPending = false := quiet
    have settled :=
      @run_settle_of_quiet (slotted.atTarget target) early fun pending =>
        absurd (isQuiet.symm.trans pending) Bool.false_ne_true
    rw [settled, isQuiet]
    rfl
  have sameNext : arrived.nextInstruction = .immediate .addiu 8 8 1 := found
  have stillCalm : arrived.cpu.exceptionTaken = false := calm
  have value (left : UInt32) :
      ImmediateOp.addiu.compute? left 1 = some (left + signExtend16 1) :=
    rfl
  rw [EStateM.run_bind, settled]
  simp only
  rw [run_stepOn_of_calm stillCalm, run_step_of_isPlain (by rw [sameNext]; rfl) execute,
    sameNext, executeWith, EStateM.run_bind, run_getReg]
  simp only
  rw [value, settleResult, run_setReg]
  exact ⟨_, rfl, calm⟩

/-- A load that would raise an address error is left out with the others. -/
theorem branching_dropsLoad :
    (branching 0x8C080001 0x25080001).branched.nextInstruction = .load .word 8 0 1 ∧
      (branching 0x8C080001 0x25080001).bus.counters.deadlineReached = false ∧
      (branching 0x8C080001 0x25080001).bus.interrupts.isPending = false ∧
      ∀ isLate,
        ¬SameOutcome
          ((stepThrough false).run (branching 0x8C080001 0x25080001))
          ((delayLoad (load .word 8 0 1) 8 0x80010020 true isLate).run
            (branching 0x8C080001 0x25080001).branched.inSlot) := by
  have program : isProgram (branchOver 0x8C080001 0x25080001) = true := by decide
  have slot :
      (branching 0x8C080001 0x25080001).branched.nextInstruction = .load .word 8 0 1 := by
    rw [slot_branching program]
    decide
  refine ⟨slot, by decide, by decide, ?_⟩
  intro isLate same
  have next : Instruction.ofWord 0x25080001 = .immediate .addiu 8 8 1 := by decide
  have isDropped :
      (Instruction.immediate .addiu 8 8 1).hazard 8 = .readsAndWrites := by decide
  have found :
      .ofWord
          ((branching 0x8C080001 0x25080001).branched.inSlot.bus.read .word 0x80010020) =
        Instruction.immediate .addiu 8 8 1 := by
    rw [target_branching program, next]
  obtain ⟨nested, stepped⟩ :=
    run_step_of_load (taken_branching program) slot (by decide) found
  rw [isDropped] at stepped
  have left := run_stepThrough_eq (stepped.trans (run_arrive_of_calm rfl 0x80010020))
  have misaligned :
      ∃ after,
        (load .word 8 0 1).run (branching 0x8C080001 0x25080001).branched.inSlot =
            .ok () after ∧
          after.cpu.exceptionTaken = true := by
    rw [load, EStateM.run_bind, run_getReg, Registers.get_zero]
    simp only
    rw [loadAligned, if_neg (by decide)]
    exact ⟨_, rfl, rfl⟩
  obtain ⟨failed, ran, raised⟩ := misaligned
  rw [left, run_delayLoad_of_exception ran raised] at same
  have bus :
      (branching 0x8C080001 0x25080001).branched.inSlot.bus =
        (branching 0x8C080001 0x25080001).bus.tick.tick := by
    rw [branched_branching program]
    rfl
  obtain ⟨after, right, calm⟩ :=
    run_target_of_addition found rfl (by rw [bus]; decide) (by rw [bus]; decide)
  rw [right] at same
  rw [same.eq_of_ok] at calm
  exact absurd (calm.symm.trans raised) Bool.false_ne_true

end Action

end PsxPlayer
