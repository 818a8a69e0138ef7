import PsxPlayer.Proofs.Cpu.Elapsed
import PsxPlayer.Proofs.Firmware.CriticalSection
import PsxPlayer.Proofs.Sound.Pacing

namespace PsxPlayer

/-!
# Empty loops

A branch to itself with nothing in its delay slot takes two cycles a turn, and the clock jumps to
the next deadline behind each turn if the settings allow it.  While interrupts are masked, the loop
is never left.
-/

open PsxPlayer.Action

namespace CounterBank

/-- While no counter is due, a service only records the nearest deadline again. -/
theorem update_of_noneDue
    {ρ : Type} [SamplePacer ρ]
    {bank : CounterBank}
    (noneDue : ∀ counter ∈ bank.counters, counter.isDue bank.cycle = false)
    (interrupts : InterruptController)
    (pacer : ρ) :
    bank.update interrupts pacer = ⟨bank.schedule, interrupts, .ok () pacer⟩ := by
  simp only [counters, List.forall_mem_cons] at noneDue
  obtain ⟨due0, due1, due2, dueFrame, -⟩ := noneDue
  simp only [update, dueFrame, fireCounters, List.foldl, fireIfDue, get, due0, due1, due2,
    Bool.false_eq_true, ↓reduceIte]

/-- The bank after an idle turn in which no counter is due and the rest is skipped. -/
def skippedTurn (bank : CounterBank) : CounterBank :=
  let turned := (bank.advance 1).advance 1
  (if turned.deadlineReached then turned.schedule else turned).skipToDeadline

end CounterBank

/-- While no counter is due, a service moves nothing but the record of the nearest deadline. -/
theorem Bus.serviced_of_noneDue
    {bus : Bus}
    (noneDue :
      ∀ counter ∈ bus.counters.counters, counter.isDue bus.counters.cycle = false) :
    bus.serviced =
      .ok ()
        { bus with
          counters :=
            if bus.counters.deadlineReached then
              bus.counters.schedule
            else
              bus.counters } := by
  obtain ⟨memory, interrupts, counters, dma, link⟩ := bus
  unfold serviced
  split
  · simp only [updateCounters, EStateM.run, CounterBank.update_of_noneDue noneDue]
  · rfl

/-- Serving the counters leaves the clock alone. -/
theorem Bus.serviced_clock
    {bus after : Bus}
    (served : bus.serviced = .ok () after) :
    after.clock = bus.clock := by
  unfold serviced at served
  split at served
  · have same := isFlat_updateCounters bus
    rw [served] at same
    exact same
  · cases served
    rfl

/-- A live worker serves the counters without a fault and lives on. -/
theorem Bus.serviced_of_serving
    {bus : Bus}
    (serving : bus.link.phase = .serving) :
    ∃ after, bus.serviced = .ok () after ∧ after.link.phase = .serving := by
  unfold serviced
  split
  · obtain ⟨after, ran, timing⟩ := updateCounters_of_serving serving
    refine ⟨after, ran, ?_⟩
    have phase : after.link.phase = _ := congrArg (·.1) timing
    rw [phase]
    split
    · rfl
    · exact serving
  · exact ⟨bus, rfl, serving⟩

namespace Machine

/-- A branch to itself, with nothing in its delay slot. -/
def idleWords : List (UInt32 × UInt32) :=
  [(0x80010000, 0x1000FFFF), (0x80010004, 0)]

/-- A machine that is about to execute the branch and ignores interrupts. -/
structure IsIdling (machine : Machine) : Prop where
  pc : machine.cpu.registers.pc = 0x80010000
  holds : machine.Holds idleWords
  masks : machine.cpu.system.MasksLine
  serving : machine.bus.link.phase = .serving

/-- The bus after idle time has been skipped, where the settings allow it. -/
def idled (machine : Machine) : Bus :=
  if machine.cpu.skipsIdleLoops then
    { machine.bus with counters := machine.bus.counters.skipToDeadline }
  else
    machine.bus

/-- Skipping idle time moves the clock only. -/
theorem beside_idled (machine : Machine) :
    machine.idled.memory = machine.bus.memory ∧ machine.idled.link = machine.bus.link := by
  unfold idled
  split <;> exact ⟨rfl, rfl⟩

theorem run_skipIdleTime (machine : Machine) :
    skipIdleTime.run machine = .ok () (machine.withBus machine.idled) := by
  rw [skipIdleTime, EStateM.run_bind, run_ofCpu, idled]
  simp only
  cases machine.cpu.skipsIdleLoops with
  | true => rfl
  | false => rfl

/-- On arrival in an empty loop, a machine that ignores interrupts sets the line and skips. -/
theorem run_checkInterrupts_of_ignored
    {machine : Machine}
    (ignored : (machine.cpu.system.setLine true).takesInterrupts = false) :
    (checkInterrupts true).run machine =
      .ok ()
        ((machine.withSystem
            (machine.cpu.system.setLine machine.bus.interrupts.isPending)).withBus
          machine.idled) := by
  unfold checkInterrupts
  rw [EStateM.run_bind, run_ofBus]
  simp only
  cases machine.bus.interrupts.isPending with
  | true =>
      simp only [↓reduceIte]
      rw [EStateM.run_bind, run_modifySystem]
      simp only
      rw [EStateM.run_bind, run_ofCpu]
      simp only [withSystem_system, ignored, Bool.false_eq_true, ↓reduceIte]
      exact run_skipIdleTime _
  | false =>
      simp only [Bool.false_eq_true, ↓reduceIte]
      rw [EStateM.run_bind, run_modifySystem]
      exact run_skipIdleTime _

/-- The branch as it is executed. -/
def idleBranch (machine : Machine) : Execution :=
  ⟨.branch .equal 0 0 0xFFFF, machine.fetched⟩

/-- The machine back at the branch, with the bus after its counters have been served. -/
def backAtBranch (machine : Machine) (bus : Bus) : Machine :=
  (machine.fetched.inSlot.atTarget 0x80010000).withBus bus

/-- The machine after a turn of the branch. -/
def turned (machine : Machine) (bus : Bus) : Machine :=
  let arrival := machine.backAtBranch bus
  (arrival.withSystem (arrival.cpu.system.setLine bus.interrupts.isPending)).withBus
    arrival.idled

theorem skipsIdleLoops_turned (machine : Machine) (bus : Bus) :
    (machine.turned bus).cpu.skipsIdleLoops = machine.cpu.skipsIdleLoops :=
  Cpu.skipsIdleLoops_committed _

theorem bus_turned (machine : Machine) (bus : Bus) :
    (machine.turned bus).bus = (machine.withBus bus).idled := by
  have skips : (machine.backAtBranch bus).cpu.skipsIdleLoops = machine.cpu.skipsIdleLoops :=
    Cpu.skipsIdleLoops_committed _
  change (machine.backAtBranch bus).idled = (machine.withBus bus).idled
  rw [idled, idled, skips]
  rfl

namespace IsIdling

variable {machine : Machine} (idling : machine.IsIdling)

include idling

theorem execution_eq : machine.execution = machine.idleBranch :=
  idling.holds.execution_eq 0x80010000 0x1000FFFF (by decide) idling.pc (by decide)
    (by decide) (by decide)

theorem pc_fetched : machine.fetched.cpu.registers.pc = 0x80010004 := by
  change machine.cpu.registers.pc + 4 = 0x80010004
  rw [idling.pc]
  decide

theorem delaySlot_eq :
    machine.idleBranch.delaySlot = ⟨.shift .left 0 0 0, machine.fetched.inSlot⟩ :=
  (show machine.idleBranch.machine.Holds idleWords from idling.holds).delaySlot_eq 0x80010004 0
    (by decide) idling.pc_fetched (by decide) (by decide) (by decide)

theorem target?_eq : machine.idleBranch.target? = some 0x80010000 := by
  change (Instruction.branch .equal 0 0 0xFFFF).target? machine.fetched.cpu.registers = _
  rw [Instruction.target?, if_pos (by simp [BranchTest.holds]), idling.pc_fetched]
  decide

theorem loopsTo : machine.idleBranch.linked.loopsTo 0x80010000 = true := by
  have nothing : machine.fetched.nextWord = 0 := by
    rw [nextWord, idling.pc_fetched]
    exact
      (show machine.fetched.Holds idleWords from idling.holds).read (by decide) (by decide)
        (by decide)
  change
    (0x80010000 == machine.fetched.cpu.registers.pc - 4 && machine.fetched.nextWord == 0) =
      true
  rw [idling.pc_fetched, nothing]
  decide

theorem masks_backAtBranch (bus : Bus) :
    (machine.backAtBranch bus).cpu.system.MasksLine := by
  have same : (machine.backAtBranch bus).cpu.system = machine.cpu.system :=
    Cpu.system_committed _
  rw [same]
  exact idling.masks

/-- What happens in a turn of the branch. -/
theorem execution_turn
    {bus : Bus}
    (serviced : machine.bus.tick.tick.serviced = .ok () bus) :
    Course.execution nestingLimit machine.execution =
      ⟨[.executed machine.idleBranch, .executed machine.idleBranch.delaySlot,
          .arrived (machine.fetched.inSlot.atTarget 0x80010000),
          .checked (machine.backAtBranch bus)],
        .ok () (machine.turned bus)⟩ := by
  have slotRuns :
      (executeAlone machine.idleBranch.delaySlot.instruction).run
          machine.idleBranch.delaySlot.machine =
        .ok () machine.fetched.inSlot := by
    rw [idling.delaySlot_eq]
    rfl
  have ignored :
      ((machine.backAtBranch bus).cpu.system.setLine true).takesInterrupts = false :=
    ((SystemRegisters.masksLine_setLine true).2
      (idling.masks_backAtBranch bus)).takesInterrupts
  have servicedThere : machine.fetched.inSlot.bus.serviced = .ok () bus := serviced
  have deep : nestingLimit = 0xFFFFE + 2 := rfl
  have checks := run_checkInterrupts_of_ignored ignored
  rw [deep, idling.execution_eq,
    Course.execution_of_servedSlot 0xFFFFE idling.target?_eq
      (by rw [idling.delaySlot_eq]; rfl) (by rw [idling.delaySlot_eq]; rfl)
      (by rw [idling.delaySlot_eq]; rfl) slotRuns rfl servicedThere,
    idling.loopsTo]
  exact congrArg (Course.mk _) checks

/-- A turn takes two fetches, and what is skipped behind them. -/
theorem stepCycles_turn
    {bus : Bus}
    (serviced : machine.bus.tick.tick.serviced = .ok () bus) :
    machine.stepCycles =
      2 + ((machine.turned bus).bus.clock - (machine.bus.clock + 2)).toNat := by
  have clock : (machine.backAtBranch bus).bus.clock = machine.bus.clock + 1 + 1 :=
    Bus.serviced_clock serviced
  have twoTicks : machine.bus.clock + 2 = machine.bus.clock + 1 + 1 := by
    rw [UInt32.add_assoc]
    rfl
  have readings :
      (Course.execution nestingLimit machine.execution).readings =
        [machine.bus.clock + 1, machine.bus.clock + 1 + 1, machine.bus.clock + 1 + 1,
          machine.bus.clock + 1 + 1, (machine.turned bus).bus.clock] := by
    rw [idling.execution_turn serviced]
    change
      [machine.bus.clock + 1, machine.bus.clock + 1 + 1, machine.bus.clock + 1 + 1,
          (machine.backAtBranch bus).bus.clock, (machine.turned bus).bus.clock] =
        _
    rw [clock]
  rw [stepCycles, readings, twoTicks]
  simp only [cyclesThrough, add_one_sub, UInt32.sub_self, UInt32.toNat_one, UInt32.toNat_zero]
  omega

/-- Each turn of the branch ends, and the next turn follows. -/
theorem turn :
    ∃ bus,
      machine.bus.tick.tick.serviced = .ok () bus ∧
        Action.step.run machine = .ok () (machine.turned bus) ∧
        (machine.turned bus).IsIdling := by
  obtain ⟨bus, serviced, serving⟩ :=
    Bus.serviced_of_serving
      (show machine.bus.tick.tick.link.phase = .serving from idling.serving)
  have ended := Course.outcome_execution nestingLimit machine.execution
  rw [idling.execution_turn serviced] at ended
  have memory : bus.memory = memoryWith idleWords :=
    (Bus.serviced_memory serviced).trans idling.holds
  obtain ⟨sameMemory, sameLink⟩ := (machine.backAtBranch bus).beside_idled
  refine ⟨bus, serviced, (Execution.run_step machine nestingLimit).trans ended.symm, ?_⟩
  exact
    { pc := rfl
      holds := sameMemory.trans memory
      masks := (SystemRegisters.masksLine_setLine _).2 (idling.masks_backAtBranch bus)
      serving := (congrArg SoundLink.phase sameLink).trans serving }

/-- A turn takes its two fetches if idle time is not skipped. -/
theorem turn_awake (awake : machine.cpu.skipsIdleLoops = false) :
    (stateAfter step machine).IsIdling ∧
      (stateAfter step machine).cpu.skipsIdleLoops = false ∧
      machine.stepCycles = 2 := by
  obtain ⟨bus, serviced, stepped, idlesOn⟩ := idling.turn
  have isNext : stateAfter step machine = machine.turned bus := by rw [stateAfter, stepped]
  have clock : (machine.turned bus).bus.clock = machine.bus.clock + 2 := by
    have unskipped : (machine.turned bus).bus = bus := by
      rw [bus_turned, idled, withBus_cpu, awake]
      rfl
    rw [unskipped, Bus.serviced_clock serviced]
    exact UInt32.add_assoc _ 1 1
  rw [isNext]
  refine ⟨idlesOn, (machine.skipsIdleLoops_turned bus).trans awake, ?_⟩
  rw [idling.stepCycles_turn serviced, clock, UInt32.sub_self]
  rfl

/-- Without skips, the clock moves by two each turn. -/
theorem elapsed_awake (awake : machine.cpu.skipsIdleLoops = false) (count : Nat) :
    machine.elapsed count = 2 * count := by
  induction count generalizing machine with
  | zero => rfl
  | succ count inductionHypothesis =>
      obtain ⟨idlesOn, awakeStill, takes⟩ := idling.turn_awake awake
      rw [elapsed, takes, inductionHypothesis idlesOn awakeStill, Nat.mul_succ, Nat.add_comm]

end IsIdling

/-- The loop where idle time is skipped, with these counters. -/
structure IsNapping (machine : Machine) (bank : CounterBank) : Prop extends
    machine.IsIdling where
  skips : machine.cpu.skipsIdleLoops = true
  counters : machine.bus.counters = bank

/-- A turn takes as long as it is to the deadline if idle time is skipped. -/
theorem IsNapping.turn
    {machine : Machine}
    {bank : CounterBank}
    (napping : machine.IsNapping bank)
    (noneDue : ∀ counter ∈ bank.counters, counter.isDue (bank.cycle + 1 + 1) = false) :
    (stateAfter step machine).IsNapping bank.skippedTurn ∧
      machine.stepCycles = 2 + (bank.skippedTurn.cycle - (bank.cycle + 2)).toNat := by
  obtain rfl := napping.counters
  obtain ⟨bus, serviced, stepped, idlesOn⟩ := napping.toIsIdling.turn
  have isNext : stateAfter step machine = machine.turned bus := by rw [stateAfter, stepped]
  have takes := napping.toIsIdling.stepCycles_turn serviced
  have counters : (machine.turned bus).bus.counters = machine.bus.counters.skippedTurn := by
    rw [Bus.serviced_of_noneDue noneDue] at serviced
    cases serviced
    rw [bus_turned, idled, withBus_cpu, if_pos napping.skips]
    rfl
  have clock :
      (machine.turned bus).bus.clock = machine.bus.counters.skippedTurn.cycle :=
    congrArg CounterBank.cycle counters
  rw [clock] at takes
  rw [isNext]
  exact
    ⟨⟨idlesOn, (machine.skipsIdleLoops_turned bus).trans napping.skips, counters⟩, takes⟩

end Machine

end PsxPlayer
