import PsxPlayer.Proofs.Cpu.Invariant

namespace PsxPlayer

/-!
# The way back from an interrupt

With a hook, the firmware goes on from an interrupt at a saved context of the guest.
The guest may then do what it likes with its registers and its memory: the function that
returns from an exception still finds the registers of the interrupted program, as long
as no exception is taken, the system registers are not written and the exception trap is
not entered by hand.
-/

open PsxPlayer.Action

namespace SystemRegisters

/-- The system registers show an interrupt that was taken in `served`. -/
structure ShowInterrupt (registers : SystemRegisters) (served : Machine) : Prop where
  returnAddress : registers.get SystemRegisters.returnAddress = served.cpu.registers.pc
  notInSlot : registers.get cause &&& delaySlotBit = 0
  code : registers.causeCode = ExceptionCause.interrupt.code
  status : registers.get status = served.cpu.system.pushMode.get status

namespace ShowInterrupt

variable {registers : SystemRegisters} {served : Machine}

/-- They show it whatever becomes of the hardware line. -/
theorem setLine
    (shows : registers.ShowInterrupt served)
    (raised : Bool) :
    (registers.setLine raised).ShowInterrupt served where
  returnAddress :=
    (registers.get_set_of_ne (by decide) _).trans shows.returnAddress
  notInSlot := by
    rw [registers.cause_setLine_and (by decide) (by decide)]
    exact shows.notInSlot
  code := (registers.causeCode_setLine raised).trans shows.code
  status := (registers.get_set_of_ne (by decide) _).trans shows.status

/-- While an interrupt is shown, no other one is taken. -/
theorem takesInterrupts
    (shows : registers.ShowInterrupt served) :
    registers.takesInterrupts = false :=
  takesInterrupts_of_pushMode shows.status

end ShowInterrupt

end SystemRegisters

namespace Machine

theorem showInterrupt_interrupted (machine : Machine) :
    machine.interrupted.cpu.system.ShowInterrupt machine where
  returnAddress := Cpu.returnAddress_enterException _ _ _ _
  notInSlot := Cpu.slotBit_enterException _ _ _ _
  code := Cpu.causeCode_enterException _ _ _ _
  status :=
    (Cpu.status_enterException _ _ _ _).trans
      (SystemRegisters.status_pushMode_congr
        (SystemRegisters.get_set_of_ne _ (by decide) _))

/--
A machine that goes on after an interrupt has been taken in `served`: what was going on
has been left, and the counters and the line may have been served again.
-/
inductive FollowsInterrupt (served : Machine) : Machine → Prop where
  | taken : FollowsInterrupt served served.interrupted
  | slotLeft
      {machine : Machine}
      (follows : FollowsInterrupt served machine) :
      FollowsInterrupt served machine.slotLeft
  | settled
      {machine after : Machine}
      {idle : Bool}
      (follows : FollowsInterrupt served machine)
      (ran : (settle idle).run machine = .ok () after) :
      FollowsInterrupt served after

/-- A machine at the exception's entry with the interrupt that was taken in `served`. -/
structure EntersInterrupt (machine served : Machine) : Prop where
  registers :
    machine.cpu.registers =
      { served.cpu.registers with pc := served.cpu.system.handler }
  shows : machine.cpu.system.ShowInterrupt served
  sameMemory : machine.bus.memory = served.bus.memory

end Machine

namespace Action

/-- What a settled machine differs in: the bus beside memory, and the line. -/
theorem settle_outcome
    {idle : Bool}
    {machine after : Machine}
    (ran : (settle idle).run machine = .ok () after) :
    ∃ counted bus,
      counted.memory = machine.bus.memory ∧
        bus.memory = machine.bus.memory ∧
        after = (machine.withBus counted).checked.withBus bus := by
  have split :
      (settle idle).run machine =
        (serveCounters >>= fun _ => checkInterrupts idle).run machine :=
    rfl
  rw [split, EStateM.run_bind, run_serveCounters] at ran
  cases serviced : machine.bus.serviced with
  | error fault bus =>
      rw [serviced] at ran
      cases ran
  | ok value counted =>
      obtain ⟨bus, sameMemory, checks⟩ := run_checkInterrupts idle (machine.withBus counted)
      rw [serviced] at ran
      simp only [checks] at ran
      cases ran
      have servicedMemory := Bus.serviced_memory serviced
      exact ⟨counted, bus, servicedMemory, sameMemory.trans servicedMemory, rfl⟩

end Action

namespace Machine

/-- Until the exception trap, only the line and the bus beside memory may change. -/
theorem FollowsInterrupt.enters
    {served machine : Machine}
    (follows : served.FollowsInterrupt machine) :
    machine.EntersInterrupt served := by
  induction follows with
  | taken =>
      refine ⟨?_, served.showInterrupt_interrupted, rfl⟩
      have entry := Cpu.pc_enterException
        { served.cpu with system := served.cpu.system.setLine true } .interrupt
        served.cpu.registers.pc false
      rw [SystemRegisters.handler_setLine] at entry
      exact congrArg (fun pc => { served.cpu.registers with pc := pc }) entry
  | slotLeft follows entered => exact ⟨entered.registers, entered.shows, entered.sameMemory⟩
  | settled follows ran entered =>
      rename_i machine after idle
      obtain ⟨counted, bus, countedMemory, sameMemory, rfl⟩ := settle_outcome ran
      -- Taking the interrupt has disabled interrupts, so no other one is taken here.
      obtain ⟨raised, same⟩ :=
        (machine.withBus counted).checked_of_ignored
          (entered.shows.setLine true).takesInterrupts
      rw [same]
      exact
        ⟨entered.registers, entered.shows.setLine raised,
          sameMemory.trans entered.sameMemory⟩

/-- The next instruction after an interrupt is the exception trap. -/
theorem EntersInterrupt.execution_eq
    {machine served : Machine}
    (entered : machine.EntersInterrupt served)
    (takes : served.TakesInterrupt) :
    machine.execution = ⟨.trap Trap.exception.code, machine.fetched⟩ := by
  have noPort : port? served.cpu.system.handler = none := by
    unfold SystemRegisters.handler
    split <;> decide
  have word : machine.nextWord = Trap.exception.word := by
    rw [nextWord, entered.registers, Bus.read_of_noPort noPort, entered.sameMemory,
      ← Bus.read_of_noPort noPort]
    exact takes.isPlanted
  have decoded : Instruction.ofWord Trap.exception.word = .trap Trap.exception.code := by
    decide
  rw [execution, nextInstruction, word, decoded]

/-- The exception trap serves the interrupt. -/
theorem EntersInterrupt.guestService?_eq
    {machine served : Machine}
    (entered : machine.EntersInterrupt served)
    (takes : served.TakesInterrupt) :
    machine.execution.guestService? = some .interrupt := by
  rw [entered.execution_eq takes]
  exact if_pos ⟨rfl, entered.shows.code⟩

end Machine

/-- The guest writes a system register. -/
def Execution.WritesSystem (execution : Execution) : Prop :=
  (∃ source index, execution.instruction = .moveToSystem source index) ∨
    execution.instruction = .returnFromException

namespace Course.Moment

/-- An exception is taken: an instruction raises it, or the line interrupts. -/
def TakesException : Course.Moment → Prop
  | .executed execution => execution.Raises
  | .checked machine => machine.MeetsInterrupt
  | _ => False

/-- The guest writes a system register. -/
def WritesSystem : Course.Moment → Prop
  | .executed execution => execution.WritesSystem
  | _ => False

/--
The firmware lets go of an interrupt: its exception trap is entered, it returns from an
exception, or it goes on with no hook.
-/
def LetsGo : Course.Moment → Prop
  | .executed execution =>
      execution.trap? = some .exception ∨ execution.CallsKernel .returnFromException
  | .delivered machine => machine.firmware.hook = 0
  | _ => False

/-- The service of an interrupt ends or is disturbed. -/
def EndsService (moment : Course.Moment) : Prop :=
  moment.TakesException ∨ moment.WritesSystem ∨ moment.LetsGo

end Course.Moment

/-- Since `entry` served an interrupt, nothing has ended or disturbed the service. -/
abbrev InService (entry : Execution) : List Course.Moment → Prop :=
  Lasts (fun moment => moment = .executed entry) Course.Moment.EndsService

/-- What an execution leaves alone that does not end the service of an interrupt. -/
theorem Execution.Leaves.sameSuspended
    {execution : Execution}
    {standing : Standing}
    (leaves : execution.Leaves standing)
    (goesOn : ¬(Course.Moment.executed execution).EndsService) :
    standing.system = execution.machine.cpu.system ∧
      standing.savedContext? = execution.machine.firmware.savedContext? := by
  cases leaves with
  | undisturbed noException => exact ⟨rfl, rfl⟩
  | raised raises => exact absurd (.inl raises) goesOn
  | systemWritten writes => exact absurd (.inr (.inl (.inl ⟨_, _, writes⟩))) goesOn
  | modePopped pops => exact absurd (.inr (.inl (.inr pops))) goesOn
  | exceptionServed called => exact absurd (.inr (.inr (.inl called))) goesOn
  | tableReturned called => exact ⟨rfl, rfl⟩
  | contextRestored restores => exact ⟨rfl, rfl⟩
  | interruptLeft calls => exact absurd (.inr (.inr (.inr calls))) goesOn

/--
While an interrupt is being served, the system registers show it and the firmware keeps
the registers with which the service began.
-/
theorem isInvariant_service
    {entry : Execution}
    {served : Machine}
    (serves : entry.guestService? = some .interrupt)
    (shows : entry.machine.cpu.system.ShowInterrupt served) :
    IsInvariant fun told standing =>
      InService entry told →
        standing.system.ShowInterrupt served ∧
          standing.savedContext? = some entry.machine.cpu.registers where
  fetched holds := holds
  entered := by
    intro told execution target transfers holds inService
    refine holds (inService.of_append fun begins => ?_).1
    cases begins
    rw [Execution.target?_eq_none (Execution.trap?_of_interrupt serves)] at transfers
    cases transfers
  transferred _ _ holds := holds
  left := by
    intro told execution standing untaken noService holds leaves inService
    have lasted := inService.of_append fun begins => by
      cases begins
      rw [noService] at serves
      cases serves
    have same := leaves.sameSuspended lasted.2
    rw [same.1, same.2]
    exact holds lasted.1
  arrived holds inService := holds (inService.of_append nofun).1
  checked := by
    intro told machine holds inService
    have kept := holds (inService.of_append nofun).1
    obtain ⟨raised, same⟩ :=
      machine.checked_of_ignored (kept.1.setLine true).takesInterrupts
    rw [same]
    exact ⟨kept.1.setLine raised, kept.2⟩
  called function holds inService := holds (inService.of_append nofun).1
  returned _ holds := holds
  delivering := by
    intro told execution delivers holds inService
    refine holds (inService.of_append fun begins => ?_).1
    cases begins
    rw [delivers] at serves
    cases serves
  interrupting := by
    intro told execution interrupts holds inService
    -- The service begins here, or the trap is entered once more, which ends it.
    rcases (Lasts.append_iff told _).1 inService with begins | ⟨-, goesOn⟩
    · cases begins
      exact ⟨shows, rfl⟩
    · exact absurd (.inr (.inr (.inl (Execution.trap?_of_interrupt interrupts)))) goesOn
  goneOn := by
    intro told later execution delivered interrupts before holds inService
    have lasted := inService.of_append nofun
    have hooked : delivered.firmware.hook ≠ 0 := fun noHook =>
      lasted.2 (.inr (.inr noHook))
    rw [if_pos hooked, Machine.standing_restored]
    exact holds lasted.1

/-- The firmware returns from an exception with the registers that it has kept. -/
theorem Execution.run_of_returnFromException
    {execution : Execution}
    (calls : execution.CallsKernel .returnFromException)
    (depth : Nat) :
    execution.run (depth + 1) = .ok () execution.machine.atCaller.exceptionLeft := by
  rw [run_succ, run_executeWith_of_trap calls.1, run_serveTrap_tableB, calls.2]
  exact run_returnFromException _

/-- The second table returns from an exception if t1 asks for it. -/
theorem Execution.callsReturnFromException
    {execution : Execution}
    (called : execution.trap? = some .tableB)
    (asked : execution.machine.cpu.registers.get Reg.t1 = 0x17) :
    execution.CallsKernel .returnFromException := by
  refine ⟨called, ?_⟩
  rw [function, asked]
  decide

/-- The registers of an interrupted program come back with the address of the interrupt. -/
theorem Machine.exceptionLeft_of_showInterrupt
    {machine served entered : Machine}
    (shows : machine.cpu.system.ShowInterrupt served)
    (kept : machine.firmware.savedContext? = some entered.fetched.cpu.registers)
    (enters : entered.EntersInterrupt served) :
    machine.exceptionLeft.cpu.registers = served.cpu.registers ∧
      machine.exceptionLeft.cpu.system.get SystemRegisters.status &&&
          SystemRegisters.modeBits =
        served.cpu.system.get SystemRegisters.status &&& SystemRegisters.modeBits := by
  have returns : machine.exceptionReturn = served.cpu.registers.pc := by
    rw [exceptionReturn, shows.notInSlot, if_neg (by simp)]
    exact shows.returnAddress
  constructor
  · have fetched :
        entered.fetched.cpu.registers =
          { served.cpu.registers with pc := entered.cpu.registers.pc + 4 } := by
      rw [fetched, withRegisters_registers, enters.registers]
    simp only [exceptionLeft, kept, Option.getD_some, returns, fetched]
  · have popped := machine.cpu.system.popMode_modeBits
    rw [shows.status, SystemRegisters.pushMode_modeBits] at popped
    exact popped

namespace Course

/--
An interrupt with a hook comes back with all registers and the modes as they were, if
the guest calls the function that returns from an exception.  Before that it may do
anything, in the handlers of events as well as behind the hook, that takes no exception,
writes no system register and leaves the exception trap and the hook to the firmware.
-/
theorem returnFromException_restores
    {depth count : Nat}
    {machine served entered : Machine}
    {before within after : List Course.Moment}
    {last : Execution}
    (takes : served.TakesInterrupt)
    (follows : served.FollowsInterrupt entered)
    (happened :
      (steps depth count machine).moments =
        before ++ .executed entered.execution :: (within ++ .executed last :: after))
    (noException : ∀ moment ∈ within, ¬moment.TakesException)
    (noWrite : ∀ moment ∈ within, ¬moment.WritesSystem)
    (keepsHold : ∀ moment ∈ within, ¬moment.LetsGo)
    (calls : last.CallsKernel .returnFromException) :
    (steps nestingLimit count machine).outcome = (Action.steps count).run machine ∧
      ∃ left,
        (∀ limit, last.run (limit + 1) = .ok () left) ∧
          left.cpu.registers = served.cpu.registers ∧
          left.cpu.system.get SystemRegisters.status &&& SystemRegisters.modeBits =
            served.cpu.system.get SystemRegisters.status &&& SystemRegisters.modeBits := by
  have enters := follows.enters
  have goesOn : ∀ moment ∈ within, ¬moment.EndsService := by
    rintro moment member (exception | writes | letsGo)
    · exact noException moment member exception
    · exact noWrite moment member writes
    · exact keepsHold moment member letsGo
  have regrouped :
      (steps depth count machine).moments =
        (before ++ .executed entered.execution :: within) ++ .executed last :: after := by
    rw [happened, List.append_assoc, List.cons_append]
  obtain ⟨shows, kept⟩ :=
    holds_at_moment
      (isInvariant_service (enters.guestService?_eq takes) enters.shows)
      (fun inService => inService.elim) regrouped (.of_begun rfl goesOn)
  have left :=
    last.machine.atCaller.exceptionLeft_of_showInterrupt shows kept enters
  exact
    ⟨outcome_steps count machine, _, last.run_of_returnFromException calls, left.1, left.2⟩

end Course

namespace Machine

/-- The machine as the firmware goes on from an interrupt that belongs to no event. -/
def undelivered (machine : Machine) : Machine :=
  machine.contextKept.acknowledged machine.bus.interrupts.pending

end Machine

namespace Course

/-- The function that returns from an exception calls no guest function. -/
theorem execution_of_returnFromException
    {outermost : Execution}
    (calls : outermost.CallsKernel .returnFromException)
    (depth : Nat) :
    execution (depth + 1) outermost =
      ⟨[.executed outermost], .ok () outermost.machine.atCaller.exceptionLeft⟩ := by
  have noService : outermost.guestService? = none := by
    simp [Execution.guestService?, Execution.CallsKernel, calls.1, calls.2]
  have ended := outcome_execution (depth + 1) outermost
  rw [outermost.run_of_returnFromException calls, execution,
    executing_alone (Execution.target?_eq_none calls.1) noService] at ended
  rw [execution, executing_alone (Execution.target?_eq_none calls.1) noService]
  exact congrArg (Course.mk _) ended

/-- Without events, an interrupt calls no guest function. -/
theorem deliveringPending_of_noEvents
    {nested : Execution → Course}
    {machine : Machine}
    (noEvents : machine.firmware.events.slots = [])
    (pending : Lines)
    (counters : List Nat) :
    deliveringPending nested pending counters machine = still machine := by
  induction counters with
  | nil => rfl
  | cons counter rest inductionHypothesis =>
      have nothing (eventClass specification : UInt32) :
          delivering nested eventClass specification machine = still machine := by
        rw [delivering, noEvents]
        rfl
      have ended : (still machine).outcome = .ok () machine := rfl
      rw [deliveringPending, nothing, ite_self, andThen_of_ok ended, inductionHypothesis]
      rfl

/-- Without events, an interrupt is served by going on at the hook. -/
theorem execution_of_hook
    {outermost : Execution}
    (depth : Nat)
    (serves : outermost.guestService? = some .interrupt)
    (noEvents : outermost.machine.firmware.events.slots = [])
    (hooked : outermost.machine.firmware.hook ≠ 0) :
    execution (depth + 1) outermost =
      ⟨[.executed outermost, .delivered outermost.machine.undelivered],
        .ok ()
          (outermost.machine.undelivered.restored outermost.machine.firmware.hook 1)⟩ := by
  have untaken := Execution.target?_eq_none (Execution.trap?_of_interrupt serves)
  have goesOn (returnAddress : UInt32) :
      (goOn returnAddress).run outermost.machine.undelivered =
        .ok ()
          (outermost.machine.undelivered.restored outermost.machine.firmware.hook 1) :=
    (run_goOn returnAddress _).trans (congrArg (EStateM.Result.ok ()) (if_pos hooked))
  have ended :
      (still outermost.machine.contextKept).outcome =
        .ok () outermost.machine.contextKept :=
    rfl
  rw [execution, executing_of_interrupt untaken serves, servingInterrupt]
  have sameEvents : outermost.machine.contextKept.firmware.events.slots = [] := noEvents
  rw [deliveringPending_of_noEvents sameEvents, andThen_of_ok ended]
  exact congrArg (Course.mk _) (goesOn _)

end Course

/-- A machine with a hook in which an interrupt is due. -/
def hooked (words : List (UInt32 × UInt32)) (registers : Registers) : Machine :=
  { Machine.guest words 0x80010000 with
    cpu :=
      { Cpu.initial with
        registers := registers
        system := SystemRegisters.initial.set SystemRegisters.status 0x401 }
    firmware := { Firmware.initial with hook := 0x80020000 }
    bus := { (Machine.guest words 0x80010000).bus with interrupts := ⟨1, 1⟩ } }

/-- The same machine as it has served the interrupt and goes on at the hook. -/
def behindHook (words : List (UInt32 × UInt32)) (registers : Registers) : Machine :=
  (hooked words registers).interrupted.fetched.undelivered.restored 0x80020000 1

section

variable {words : List (UInt32 × UInt32)} (registers : Registers)

theorem hooked_takesInterrupt
    (program : isProgram words = true) :
    (hooked words registers).TakesInterrupt where
  isPending := by
    have pending : (⟨1, 1⟩ : InterruptController).isPending = true := by decide
    exact pending
  isEnabled := by
    have enabled :
        ((SystemRegisters.initial.set SystemRegisters.status 0x401).setLine
            true).takesInterrupts =
          true := by
      decide
    exact enabled
  isPlanted := by
    have entry :
        (SystemRegisters.initial.set SystemRegisters.status 0x401).handler =
          0x80000080 := by
      decide
    have member : (0x80000080, Trap.exception.word) ∈ Trap.planted ++ words :=
      List.mem_append_left _ (by decide)
    have word :=
      (show (hooked words registers).Holds words from rfl).read program member (by decide)
    exact (congrArg _ entry).trans word

theorem pc_behindHook
    {target : UInt32}
    (program : isProgram words = true)
    (member : (0x80020000, target) ∈ Trap.planted ++ words) :
    (behindHook words registers).cpu.registers.pc = target :=
  (show (hooked words registers).Holds words from rfl).read program member (by decide)

theorem get_behindHook
    {register : Reg}
    (unsaved : register ∉ contextRegisters)
    (differs : Reg.v0 ≠ register) :
    (behindHook words registers).cpu.registers.get register = registers.get register :=
  Machine.get_restored _ unsaved differs _ _

theorem showInterrupt_behindHook :
    (behindHook words registers).cpu.system.ShowInterrupt (hooked words registers) :=
  (hooked words registers).showInterrupt_interrupted

theorem hook_behindHook : (behindHook words registers).firmware.hook ≠ 0 := by
  have isHooked : (0x80020000 : UInt32) ≠ 0 := by decide
  exact isHooked

theorem early_behindHook :
    (behindHook words registers).bus.tick.tick.counters.deadlineReached = false := by
  have ticked (bus : Bus) :
      bus.tick.tick.counters = (bus.counters.advance 1).advance 1 :=
    rfl
  have behind :
      (behindHook words registers).bus.counters =
        (Bus.initial 60 (.start .initial .blank 64)).counters.advance 1 :=
    rfl
  rw [ticked, behind]
  decide

/-- The firmware goes on at the hook. -/
theorem hooked_keepsHold :
    ¬(Course.Moment.delivered
        (hooked words registers).interrupted.fetched.undelivered).LetsGo :=
  @hook_behindHook words registers

namespace Course

/-- The interrupt is served, and the run goes on behind the hook. -/
theorem steps_hooked (program : isProgram words = true) (depth count : Nat) :
    steps (depth + 1) (count + 1) (hooked words registers).interrupted =
      ⟨.executed (hooked words registers).interrupted.execution ::
          .delivered (hooked words registers).interrupted.fetched.undelivered ::
            (steps (depth + 1) count (behindHook words registers)).moments,
        (steps (depth + 1) count (behindHook words registers)).outcome⟩ := by
  have enters :
      (hooked words registers).interrupted.EntersInterrupt (hooked words registers) :=
    Machine.FollowsInterrupt.taken.enters
  have serves := enters.guestService?_eq (hooked_takesInterrupt registers program)
  have hooks :
      execution (depth + 1) (hooked words registers).interrupted.execution =
        ⟨[.executed (hooked words registers).interrupted.execution,
            .delivered (hooked words registers).interrupted.fetched.undelivered],
          .ok () (behindHook words registers)⟩ :=
    execution_of_hook depth serves rfl (@hook_behindHook words registers)
  rw [steps, andThen_of_ok (congrArg Course.outcome hooks), hooks]
  rfl

end Course

end

/-- Behind the hook, t1 is overwritten before the second table is called. -/
def clobberingHandler : List (UInt32 × UInt32) :=
  [(0x80020000, 0x800000AC), (0x800000AC, 0x24090017)]

/-- The registers as that interrupt is taken. -/
def interruptedRegisters : Registers :=
  { Registers.initial with pc := 0x80010000 }

namespace Course

/-- The handler overwrites t1 and returns from the exception. -/
theorem steps_clobberingHandler
    {machine : Machine}
    (holds : machine.Holds clobberingHandler)
    (here : machine.cpu.registers.pc = 0x800000AC) :
    ∃ last : Execution,
      last.CallsKernel .returnFromException ∧
        last.machine.cpu.registers.get 9 = 0x17 ∧
        (steps 1 2 machine).moments =
          [.executed ⟨.immediate .addiu 9 0 0x17, machine.fetched⟩, .executed last] := by
  have program : isProgram clobberingHandler = true := by decide
  let write : Execution := ⟨.immediate .addiu 9 0 0x17, machine.fetched⟩
  let written : Machine :=
    machine.fetched.withRegisters (machine.fetched.cpu.registers.set 9 0x17)
  let last : Execution := ⟨.trap Trap.tableB.code, written.fetched⟩
  have writes : execution 1 machine.execution = ⟨[.executed write], .ok () written⟩ := by
    have sum : ImmediateOp.addiu.compute? 0 0x17 = some 0x17 := by decide
    have ran : (executeAlone write.instruction).run write.machine = .ok () written := by
      rw [executeAlone, executeWith, EStateM.run_bind, run_getReg]
      simp only [Registers.get_zero]
      rw [sum]
      rfl
    have fetches : machine.execution = write :=
      holds.execution_eq 0x800000AC 0x24090017 program here (by decide) (by decide)
        (by decide)
    rw [fetches, execution, executing_alone rfl rfl, ran]
  have atTable : written.cpu.registers.pc = 0x800000B0 := by
    have next : machine.cpu.registers.pc + 4 = 0x800000B0 := by
      rw [here]
      decide
    exact (Registers.pc_set _ _ _).trans next
  have asked : last.machine.cpu.registers.get Reg.t1 = 0x17 :=
    (written.get_fetched Reg.t1).trans (Registers.get_set_self _ (by decide) _)
  have calls := last.callsReturnFromException rfl asked
  have returns :
      execution 1 written.execution =
        ⟨[.executed last], .ok () last.machine.atCaller.exceptionLeft⟩ := by
    have fetches : written.execution = last :=
      (show written.Holds clobberingHandler from holds).execution_eq 0x800000B0
        Trap.tableB.word program atTable (by decide) (by decide) (by decide)
    rw [fetches]
    exact execution_of_returnFromException calls 0
  refine ⟨last, calls, asked, ?_⟩
  rw [steps, andThen_of_ok (congrArg Course.outcome writes), steps,
    andThen_of_ok (congrArg Course.outcome returns), writes, returns]
  rfl

/-- The register that the handler has overwritten comes back. -/
theorem returnFromException_restores_clobbered :
    ∃ within last left,
      (hooked clobberingHandler interruptedRegisters).TakesInterrupt ∧
        (steps 1 3 (hooked clobberingHandler interruptedRegisters).interrupted).moments =
          [] ++
            .executed
                (hooked clobberingHandler interruptedRegisters).interrupted.execution ::
              (within ++ .executed last :: []) ∧
        (∀ moment ∈ within, ¬moment.TakesException) ∧
        (∀ moment ∈ within, ¬moment.WritesSystem) ∧
        (∀ moment ∈ within, ¬moment.LetsGo) ∧
        last.CallsKernel .returnFromException ∧
        last.machine.cpu.registers.get 9 ≠ interruptedRegisters.get 9 ∧
        last.run 2 = .ok () left ∧
        left.cpu.registers = interruptedRegisters := by
  have program : isProgram clobberingHandler = true := by decide
  have takes := hooked_takesInterrupt interruptedRegisters program
  obtain ⟨last, calls, asked, handled⟩ :=
    steps_clobberingHandler
      (show (behindHook clobberingHandler interruptedRegisters).Holds clobberingHandler from
        rfl)
      (pc_behindHook _ program (by decide))
  have happened := congrArg Course.moments (steps_hooked interruptedRegisters program 0 2)
  rw [handled] at happened
  generalize behindHook clobberingHandler interruptedRegisters = behind at happened
  have keepsHold :
      ¬(Course.Moment.delivered
          (hooked clobberingHandler
                interruptedRegisters).interrupted.fetched.undelivered).LetsGo :=
    hooked_keepsHold interruptedRegisters
  generalize
    (hooked clobberingHandler interruptedRegisters).interrupted.fetched.undelivered =
      delivered at happened keepsHold
  let write : Execution := ⟨.immediate .addiu 9 0 0x17, behind.fetched⟩
  have noRaise : ¬write.Raises := Bool.false_ne_true
  have noWrite : ¬write.WritesSystem := by
    rintro (⟨source, index, writes⟩ | writes) <;> cases writes
  have noTrap :
      ¬(write.trap? = some .exception ∨ write.CallsKernel .returnFromException) := by
    rintro (called | ⟨called, -⟩) <;> cases called
  have quiet :
      ∀ moment ∈ [Course.Moment.delivered delivered, .executed write],
        ¬moment.TakesException ∧ ¬moment.WritesSystem ∧ ¬moment.LetsGo := by
    simp only [List.forall_mem_cons]
    exact ⟨⟨id, id, keepsHold⟩, ⟨noRaise, noWrite, noTrap⟩, List.forall_mem_nil _⟩
  have grouped :
      (steps 1 3 (hooked clobberingHandler interruptedRegisters).interrupted).moments =
        [] ++
          .executed (hooked clobberingHandler interruptedRegisters).interrupted.execution ::
            ([.delivered delivered, .executed write] ++ .executed last :: []) :=
    happened
  have noException := fun moment member => (quiet moment member).1
  have noWrite := fun moment member => (quiet moment member).2.1
  have keepsHold := fun moment member => (quiet moment member).2.2
  obtain ⟨-, left, ran, restored, -⟩ :=
    returnFromException_restores takes .taken grouped noException noWrite keepsHold calls
  have differs : last.machine.cpu.registers.get 9 ≠ interruptedRegisters.get 9 := by
    rw [asked]
    decide
  exact
    ⟨_, last, left, takes, grouped, noException, noWrite, keepsHold, calls, differs, ran 1,
      restored⟩

end Course

/--
Behind the hook, t4 leads to the second table, and the delay slot on the way enters the
exception trap.
-/
def reenteringHandler : List (UInt32 × UInt32) :=
  [(0x80020000, 0x80010000), (0x80010000, 0x01800008),
    (0x80010004, Trap.exception.word)]

/-- The registers as that interrupt is taken. -/
def reenteringRegisters : Registers :=
  { (Registers.initial.set 9 0x17).set 12 0x800000B0 with pc := 0x80010000 }

namespace Course

/-- In the delay slot, the firmware keeps the registers again. -/
theorem steps_reenteringHandler
    {machine served : Machine}
    (depth : Nat)
    (holds : machine.Holds reenteringHandler)
    (here : machine.cpu.registers.pc = 0x80010000)
    (asks : machine.cpu.registers.get Reg.t1 = 0x17)
    (leads : machine.cpu.registers.get 12 = 0x800000B0)
    (shows : machine.cpu.system.ShowInterrupt served)
    (nothingHeld : machine.cpu.deferredLoad? = none)
    (noEvents : machine.firmware.events.slots = [])
    (hooked : machine.firmware.hook ≠ 0)
    (early : machine.bus.tick.tick.counters.deadlineReached = false) :
    ∃ delivered arrival last left,
      steps (depth + 2) 2 machine =
          ⟨[.executed ⟨.jumpRegister 12, machine.fetched⟩,
              .executed ⟨.trap Trap.exception.code, machine.fetched.inSlot⟩,
              .delivered delivered, .arrived arrival, .checked arrival, .executed last],
            .ok () left⟩ ∧
        ¬arrival.MeetsInterrupt ∧
        last.CallsKernel .returnFromException ∧
        left.cpu.registers.get Reg.v0 = machine.cpu.registers.get Reg.v0 := by
  have program : isProgram reenteringHandler = true := by decide
  let jump : Execution := ⟨.jumpRegister 12, machine.fetched⟩
  let slot : Execution := ⟨.trap Trap.exception.code, machine.fetched.inSlot⟩
  let slotted := slot.machine.undelivered.restored machine.firmware.hook 1
  let arrival := slotted.atTarget 0x800000B0
  have jumps : machine.execution = jump :=
    holds.execution_eq 0x80010000 0x01800008 program here (by decide) (by decide)
      (by decide)
  have next : jump.machine.cpu.registers.pc = 0x80010004 := by
    have next : machine.cpu.registers.pc + 4 = 0x80010004 := by
      rw [here]
      decide
    exact next
  have traps : jump.delaySlot = slot :=
    (show jump.machine.Holds reenteringHandler from holds).delaySlot_eq 0x80010004
      Trap.exception.word program next (by decide) (by decide) (by decide)
  have slotRegisters (register : Reg) :
      slot.machine.cpu.registers.get register = machine.cpu.registers.get register := by
    have nothingHeldThere : machine.fetched.cpu.deferredLoad? = none := nothingHeld
    have same :
        machine.fetched.committed.cpu.registers = machine.fetched.cpu.registers := by
      rw [Machine.committed, Cpu.committed, nothingHeldThere]
    rw [← machine.get_fetched register, ← same]
    exact Registers.get_pc _ _ _
  have slotShows : slot.machine.cpu.system.ShowInterrupt served := by
    have same : slot.machine.cpu.system = machine.cpu.system :=
      Cpu.system_committed _
    rw [same]
    exact shows
  have slotServes : slot.guestService? = some .interrupt :=
    if_pos ⟨rfl, slotShows.code⟩
  have slotEnds :
      execution (depth + 1) jump.delaySlot =
        ⟨[.executed slot, .delivered slot.machine.undelivered], .ok () slotted⟩ := by
    rw [traps]
    exact execution_of_hook depth slotServes noEvents hooked
  have transfers : jump.target? = some 0x800000B0 := by
    have target : jump.target? = some (machine.cpu.registers.get 12) :=
      congrArg some (machine.get_fetched 12)
    rw [target, leads]
  have noLoad : loadedRegister? jump.delaySlot.instruction = none := by
    rw [traps]
    rfl
  have earlyThere : arrival.bus.counters.deadlineReached = false := early
  obtain ⟨bus, sameMemory, checks⟩ :=
    run_checkInterrupts (jump.linked.loopsTo 0x800000B0) arrival
  have arrivalShows : arrival.standing.system.ShowInterrupt served := by
    rw [Machine.standing_atTarget, Machine.standing_restored]
    exact slotShows
  have ignored : (arrival.cpu.system.setLine true).takesInterrupts = false :=
    (arrivalShows.setLine true).takesInterrupts
  obtain ⟨raised, sameChecked⟩ := arrival.checked_of_ignored ignored
  let after := (arrival.withSystem (arrival.cpu.system.setLine raised)).withBus bus
  let last : Execution := ⟨.trap Trap.tableB.code, after.fetched⟩
  have jumped :
      execution (depth + 2) machine.execution =
        ⟨[.executed jump, .executed slot, .delivered slot.machine.undelivered,
            .arrived arrival, .checked arrival],
          .ok () after⟩ := by
    rw [jumps, execution, executing_of_target transfers, since,
      transferring_of_slot noLoad (congrArg Course.outcome slotEnds) rfl,
      settled_of_early earlyThere, slotEnds, checks, sameChecked]
    rfl
  have asked : last.machine.cpu.registers.get Reg.t1 = 0x17 := by
    have restored :
        slotted.cpu.registers.get Reg.t1 = slot.machine.cpu.registers.get Reg.t1 :=
      slot.machine.undelivered.get_restored (by decide) (by decide) _ _
    rw [after.get_fetched, ← asks, ← slotRegisters, ← restored]
    exact Registers.get_pc _ _ _
  have calls := last.callsReturnFromException rfl asked
  have returned :
      execution (depth + 2) after.execution =
        ⟨[.executed last], .ok () last.machine.atCaller.exceptionLeft⟩ := by
    have fetches : after.execution = last :=
      (show after.Holds reenteringHandler from sameMemory.trans holds).execution_eq
        0x800000B0 Trap.tableB.word program rfl (by decide) (by decide) (by decide)
    rw [fetches]
    exact execution_of_returnFromException calls (depth + 1)
  refine
    ⟨slot.machine.undelivered, arrival, last, last.machine.atCaller.exceptionLeft, ?_, ?_,
      calls, ?_⟩
  · rw [steps, andThen_of_ok (congrArg Course.outcome jumped), steps,
      andThen_of_ok (congrArg Course.outcome returned), jumped, returned]
    rfl
  · intro meets
    exact absurd (ignored.symm.trans meets.isEnabled) Bool.false_ne_true
  · rw [← slotRegisters]
    exact Registers.get_pc _ _ _

/-- What v0 held is lost, although no exception is taken and no system register written. -/
theorem reenteringHandler_losesResult :
    ∃ within last left,
      (hooked reenteringHandler reenteringRegisters).TakesInterrupt ∧
        (steps nestingLimit 3
              (hooked reenteringHandler reenteringRegisters).interrupted).moments =
          [] ++
            .executed
                (hooked reenteringHandler reenteringRegisters).interrupted.execution ::
              (within ++ .executed last :: []) ∧
        (∀ moment ∈ within, ¬moment.TakesException) ∧
        (∀ moment ∈ within, ¬moment.WritesSystem) ∧
        last.CallsKernel .returnFromException ∧
        (Action.steps 3).run (hooked reenteringHandler reenteringRegisters).interrupted =
          .ok () left ∧
        left.cpu.registers.get Reg.v0 ≠ reenteringRegisters.get Reg.v0 := by
  have program : isProgram reenteringHandler = true := by decide
  have limit : nestingLimit = 0xFFFFF + 1 := by decide
  have takes := hooked_takesInterrupt reenteringRegisters program
  obtain ⟨again, arrival, last, left, handled, noInterrupt, calls, same⟩ :=
    steps_reenteringHandler 0xFFFFE
      (show (behindHook reenteringHandler reenteringRegisters).Holds reenteringHandler from
        rfl)
      (pc_behindHook _ program (by decide))
      ((get_behindHook _ (by decide) (by decide)).trans (by decide))
      ((get_behindHook _ (by decide) (by decide)).trans (by decide))
      (showInterrupt_behindHook _) rfl rfl (hook_behindHook _) (early_behindHook _)
  have run := steps_hooked reenteringRegisters program 0xFFFFF 2
  rw [handled, ← limit] at run
  have ended := outcome_steps 3 (hooked reenteringHandler reenteringRegisters).interrupted
  rw [run] at ended
  have differs : left.cpu.registers.get Reg.v0 ≠ reenteringRegisters.get Reg.v0 := by
    rw [same, behindHook, Machine.v0_restored]
    decide
  have happened := congrArg Course.moments run
  generalize behindHook reenteringHandler reenteringRegisters = behind at happened
  generalize
    (hooked reenteringHandler reenteringRegisters).interrupted.fetched.undelivered =
      delivered at happened
  let within : List Course.Moment :=
    [.delivered delivered, .executed ⟨.jumpRegister 12, behind.fetched⟩,
      .executed ⟨.trap Trap.exception.code, behind.fetched.inSlot⟩, .delivered again,
      .arrived arrival, .checked arrival]
  have quiet : ∀ moment ∈ within, ¬moment.TakesException ∧ ¬moment.WritesSystem := by
    have noWrite
        {instruction : Instruction}
        (isTransferOrTrap : instruction.isPlain = false)
        (machine : Machine) :
        ¬(Course.Moment.executed ⟨instruction, machine⟩).WritesSystem := by
      rintro (⟨source, index, writes⟩ | writes) <;> cases writes <;> cases isTransferOrTrap
    simp only [within, List.forall_mem_cons]
    exact
      ⟨⟨id, id⟩, ⟨Bool.false_ne_true, noWrite rfl _⟩, ⟨Bool.false_ne_true, noWrite rfl _⟩,
        ⟨id, id⟩, ⟨id, id⟩, ⟨noInterrupt, id⟩, List.forall_mem_nil _⟩
  exact
    ⟨within, last, left, takes, happened, fun moment member => (quiet moment member).1,
      fun moment member => (quiet moment member).2, calls, ended.symm, differs⟩

end Course

end PsxPlayer
