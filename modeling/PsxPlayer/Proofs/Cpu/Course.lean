import PsxPlayer.Player
import PsxPlayer.Proofs.Cpu.LoadDelay
import PsxPlayer.Proofs.Cpu.Nesting
import PsxPlayer.Proofs.Firmware.Interrupt

namespace PsxPlayer

/-!
# The course of a run

An instruction may execute others inside itself: its delay slot, the instruction at its
target, and those of the guest functions that a firmware service calls.  The course of a
run tells all of them in the order in which they start, with the arrivals at targets and
the checks for interrupts between them, and how the run ends.  It ends as the run does.
-/

open PsxPlayer.Action

/-- Something that happens in a run, with the machine as it begins. -/
inductive Course.Moment where
  /-- An instruction has been fetched and is executed. -/
  | executed (execution : Execution)
  /-- A transfer has arrived and the counters are served. -/
  | arrived (machine : Machine)
  /-- The counters have been served and the interrupts are checked. -/
  | checked (machine : Machine)
  /-- The firmware calls a guest function. -/
  | called (function : UInt32) (machine : Machine)
  /-- The events of an interrupt have been delivered and the firmware goes on. -/
  | delivered (machine : Machine)

namespace Course.Moment

/-- The machine as the moment begins. -/
def machine : Course.Moment → Machine
  | .executed execution => execution.machine
  | .arrived machine | .checked machine | .called _ machine | .delivered machine => machine

end Course.Moment

/-- The hardware line is raised, and the processor takes the interrupt. -/
structure Machine.MeetsInterrupt (machine : Machine) : Prop where
  isPending : machine.bus.interrupts.isPending = true
  isEnabled : (machine.cpu.system.setLine true).takesInterrupts = true

/-- A firmware service that calls guest functions. -/
inductive GuestService where
  /-- The handlers of the events that belong to an interrupt. -/
  | interrupt
  /-- The handlers of an event that the guest delivers. -/
  | delivery
  deriving DecidableEq, Repr

namespace Execution

/-- Where an execution transfers control to, if it does. -/
def target? (execution : Execution) : Option UInt32 :=
  execution.instruction.target? execution.machine.cpu.registers

/-- The firmware entry that an execution calls. -/
def trap? (execution : Execution) : Option Trap :=
  match execution.instruction with
  | .trap code => Trap.ofCode? code
  | _ => none

/-- The number of the firmware function that a table call asks for. -/
def function (execution : Execution) : UInt32 :=
  execution.machine.cpu.registers.get Reg.t1 &&& 0xFF

/-- Whether an execution calls a function of the second table. -/
def CallsKernel (execution : Execution) (function : KernelFunction) : Prop :=
  execution.trap? = some .tableB ∧
    KernelFunction.ofNumber? execution.function = some function

instance (execution : Execution) (function : KernelFunction) :
    Decidable (execution.CallsKernel function) :=
  inferInstanceAs (Decidable (_ ∧ _))

/-- The exception code that the cause register shows. -/
def causeCode (execution : Execution) : UInt32 :=
  execution.machine.cpu.system.causeCode

/-- The service of an execution that may call guest functions. -/
def guestService? (execution : Execution) : Option GuestService :=
  if execution.trap? = some .exception ∧
      execution.causeCode = ExceptionCause.interrupt.code then
    some .interrupt
  else if execution.CallsKernel .deliverEvent then
    some .delivery
  else
    none

end Execution

namespace Machine

/-- The machine back at its caller. -/
def atCaller (machine : Machine) : Machine :=
  machine.withRegisters
    { machine.cpu.registers with pc := machine.cpu.registers.get Reg.ra }

/-- The machine at a target with the load of the delay slot held back. -/
def heldBack
    (slotted : Machine)
    (register : Reg)
    (old target : UInt32) :
    Machine :=
  (slotted.atTarget target).overlaid register old
    (some (register, slotted.cpu.registers.get register))

/-- The machine after the lines of an interrupt have been acknowledged. -/
def acknowledged (machine : Machine) (pending : Lines) : Machine :=
  machine.withBus
    { machine.bus with interrupts := machine.bus.interrupts.acknowledge pending }

end Machine

namespace Action

/-- Check the interrupts on arrival, after the counters have been served. -/
def checkInterrupts (idle : Bool) : Action Unit := do
  if ← ofBus fun bus => bus.interrupts.isPending then
    modifySystem fun system => system.setLine true
    if ← ofCpu fun cpu => cpu.system.takesInterrupts then
      interrupt
      return
  else
    modifySystem fun system => system.setLine false
  if idle then
    skipIdleTime

/-- Go on after an interrupt, at the hook if the guest has set one. -/
def goOn (returnAddress : UInt32) : Action Unit := do
  let hook ← ofFirmware Firmware.hook
  if hook ≠ 0 then
    restoreContext hook 1
  else
    resume returnAddress

/-- An instruction that nests no other, whatever it could nest. -/
def executeAlone (instruction : Instruction) : Action Unit :=
  executeWith (fun _ => pure ()) instruction

end Action

namespace Execution

variable {execution : Execution}

/-- Only the trap instruction calls the firmware. -/
theorem instruction_of_trap
    {trap : Trap}
    (called : execution.trap? = some trap) :
    ∃ code, execution.instruction = .trap code ∧ Trap.ofCode? code = some trap := by
  rcases execution with ⟨instruction, machine⟩
  cases instruction with
  | trap code => exact ⟨code, rfl, called⟩
  | _ => cases called

/-- A trap transfers control to no target. -/
theorem target?_eq_none
    {trap : Trap}
    (called : execution.trap? = some trap) :
    execution.target? = none := by
  obtain ⟨code, isTrap, -⟩ := instruction_of_trap called
  rw [target?, isTrap]
  rfl

/-- The exception trap serves interrupts. -/
theorem trap?_of_interrupt
    (serves : execution.guestService? = some .interrupt) :
    execution.trap? = some .exception := by
  unfold guestService? at serves
  split at serves
  · next interrupt => exact interrupt.1
  · split at serves <;> cases serves

/-- A trap word is served as its trap. -/
theorem run_executeWith_of_trap
    {trap : Trap}
    (called : execution.trap? = some trap)
    (execute : Instruction → Action Unit) :
    (executeWith execute execution.instruction).run execution.machine =
      (serveTrap (stepWith execute) trap).run execution.machine := by
  obtain ⟨code, isTrap, known⟩ := instruction_of_trap called
  simp only [isTrap, executeWith, known]

section

variable (execution : Execution) (step : Action Unit)

/-- The exception trap asks the cause register what to serve. -/
theorem run_serveTrap_exception :
    (serveTrap step .exception).run execution.machine =
      (if execution.causeCode = ExceptionCause.interrupt.code then
          serveInterrupt step
            (execution.machine.cpu.system.get SystemRegisters.returnAddress)
        else do
          if execution.causeCode = ExceptionCause.syscall.code then
            systemCall
          resume
            (execution.machine.cpu.system.get SystemRegisters.returnAddress + 4)).run
        execution.machine :=
  rfl

/-- The first table goes back to its caller and then asks t1 for a library function. -/
theorem run_serveTrap_tableA :
    (serveTrap step .tableA).run execution.machine =
      (match LibraryFunction.ofNumber? execution.function with
        | some function => callLibrary function
        | none => result 0).run
        execution.machine.atCaller :=
  rfl

/-- The second table goes back to its caller and then asks t1 for a kernel function. -/
theorem run_serveTrap_tableB :
    (serveTrap step .tableB).run execution.machine =
      (match KernelFunction.ofNumber? execution.function with
        | some function => callKernel step function
        | none => result 0).run
        execution.machine.atCaller :=
  rfl

/-- The third table goes back to its caller and knows one function. -/
theorem run_serveTrap_tableC :
    (serveTrap step .tableC).run execution.machine =
      (if execution.function = setClearFlagNumber then setClearFlag else result 0).run
        execution.machine.atCaller :=
  rfl

end

/-- The service for an interrupt runs after its trap. -/
theorem run_executeWith_of_interrupt
    (served : execution.guestService? = some .interrupt)
    (execute : Instruction → Action Unit) :
    (executeWith execute execution.instruction).run execution.machine =
      (serveInterrupt (stepWith execute)
          (execution.machine.cpu.system.get SystemRegisters.returnAddress)).run
        execution.machine := by
  unfold guestService? at served
  split at served
  · next interrupt =>
      rw [run_executeWith_of_trap interrupt.1, run_serveTrap_exception,
        if_pos interrupt.2]
  · split at served <;> cases served

/-- The service that delivers an event goes back to its caller first. -/
theorem run_executeWith_of_delivery
    (served : execution.guestService? = some .delivery)
    (execute : Instruction → Action Unit) :
    (executeWith execute execution.instruction).run execution.machine =
      (deliverEvent (stepWith execute) (execution.machine.cpu.registers.get Reg.a0)
          (execution.machine.cpu.registers.get Reg.a1)).run
        execution.machine.atCaller := by
  unfold guestService? at served
  split at served
  · cases served
  · split at served
    · next calls =>
        rw [run_executeWith_of_trap calls.1, run_serveTrap_tableB, calls.2]
        rfl
    · cases served

/-- What happens in a trap that calls no guest function does not depend on the steps. -/
theorem run_serveTrap_of_noService
    {trap : Trap}
    (called : execution.trap? = some trap)
    (noService : execution.guestService? = none)
    (first second : Action Unit) :
    (serveTrap first trap).run execution.machine =
      (serveTrap second trap).run execution.machine := by
  simp only [guestService?, CallsKernel, called] at noService
  cases trap with
  | exception =>
      have notInterrupt : ¬execution.causeCode = ExceptionCause.interrupt.code := by
        intro same
        rw [if_pos ⟨rfl, same⟩] at noService
        cases noService
      rw [run_serveTrap_exception, run_serveTrap_exception, if_neg notInterrupt,
        if_neg notInterrupt]
  | tableB =>
      rw [run_serveTrap_tableB, run_serveTrap_tableB]
      cases named : KernelFunction.ofNumber? execution.function with
      | none => rfl
      | some function =>
          cases function <;> first
            | rfl
            | simp [named] at noService
  | tableA => rfl
  | tableC => rfl
  | callReturn => rfl

/-- Without a transfer and a service that calls the guest, nothing is nested. -/
theorem run_executeWith_alone
    (untaken : execution.target? = none)
    (noService : execution.guestService? = none)
    (execute : Instruction → Action Unit) :
    (executeWith execute execution.instruction).run execution.machine =
      (executeAlone execution.instruction).run execution.machine := by
  by_cases plain : execution.instruction.isPlain = true
  · exact
      congrArg (EStateM.run · execution.machine) (executeWith_of_isPlain plain _ _)
  · by_cases transfers : execution.instruction.isTransfer = true
    · rw [executeAlone, run_executeWith_of_untaken _ transfers untaken,
        run_executeWith_of_untaken _ transfers untaken]
    · cases called : execution.trap? with
      | some trap =>
          rw [executeAlone, run_executeWith_of_trap called, run_executeWith_of_trap called]
          exact run_serveTrap_of_noService called noService _ _
      | none =>
          rcases execution with ⟨instruction, machine⟩
          cases instruction <;>
            simp only [Instruction.isPlain, Instruction.isTransfer, Bool.not_true,
              Bool.not_false, not_true_eq_false] at plain transfers
          case trap code =>
            have unknown : Trap.ofCode? code = none := called
            simp only [executeAlone, executeWith, unknown]

end Execution

/-- What happens in a run, and how it ends. -/
structure Course where
  moments : List Course.Moment
  outcome : EStateM.Result Fault Machine Unit

namespace Course

/-- Nothing happens. -/
def still (machine : Machine) : Course :=
  ⟨[], .ok () machine⟩

/-- An action in which nothing happens that is told. -/
def ofAction (action : Action Unit) (machine : Machine) : Course :=
  ⟨[], action.run machine⟩

/-- A moment and the course that follows. -/
def since (moment : Course.Moment) (course : Course) : Course :=
  ⟨moment :: course.moments, course.outcome⟩

/-- A course that goes on where another one has ended without a fault. -/
def andThen (course : Course) (next : Machine → Course) : Course :=
  match course.outcome with
  | .ok _ after => ⟨course.moments ++ (next after).moments, (next after).outcome⟩
  | .error fault failed => ⟨course.moments, .error fault failed⟩

/-- Counters and interrupts are served on arrival. -/
def settled (idle : Bool) (machine : Machine) : Course :=
  since (.arrived machine) <|
    (ofAction serveCounters machine).andThen fun served =>
      since (.checked served) (ofAction (checkInterrupts idle) served)

/-- A transfer arrives, unless its delay slot has taken an exception. -/
def arriving (target : UInt32) (idle : Bool) (machine : Machine) : Course :=
  if machine.cpu.exceptionTaken then
    still machine.slotLeft
  else
    settled idle (machine.atTarget target)

section

/-! What happens in the executions that are nested is given. -/

variable (nested : Execution → Course)

/-- The delay slot holds a load that the target reads. -/
def holding
    (execution : Execution)
    (register : Reg)
    (target : UInt32) :
    Course :=
  (nested execution.delaySlot).andThen fun slotted =>
    if slotted.cpu.exceptionTaken then
      still slotted.slotLeft
    else
      (nested
          (slotted.heldBack register
            (execution.linked.inSlot.cpu.registers.get register) target).execution).andThen
        fun last => settled false last.committed

/-- An execution transfers control to `target`. -/
def transferring (execution : Execution) (target : UInt32) : Course :=
  let idle := execution.linked.loopsTo target
  match execution.linked.hazard? target with
  | some (_, .readsAndWrites) => arriving target idle execution.linked.inSlot
  | some (register, .reads) => holding nested execution register target
  | _ => (nested execution.delaySlot).andThen (arriving target idle)

/-- Steps until the program counter is at `target`, at most as many as given. -/
def stepping (target : UInt32) : Nat → Machine → Course
  | 0, machine => still machine
  | limit + 1, machine =>
      if machine.cpu.registers.pc == target then
        still machine
      else
        (nested machine.execution).andThen (stepping target limit)

/-- A guest function is called. -/
def calling (function : UInt32) (machine : Machine) : Course :=
  since (.called function machine) <|
    (stepping nested Trap.returnAddress handlerLimit (machine.called function)).andThen
      fun outcome => still (machine.returned outcome)

/-- An event is delivered. -/
def deliveringTo (slot : Nat) (event : Event) (machine : Machine) : Course :=
  if event.mode = Event.callbackMode ∧ event.handler ≠ 0 then
    calling nested event.handler machine
  else
    ofAction (deliverTo (pure ()) slot event) machine

/-- The events in some slots are delivered. -/
def deliveringAmong
    (eventClass specification : UInt32) :
    List Nat → Machine → Course
  | [], machine => still machine
  | slot :: rest, machine =>
      (match machine.firmware.events.get? slot with
        | some event =>
            if event.receives eventClass specification then
              deliveringTo nested slot event machine
            else
              still machine
        | none => still machine).andThen
        (deliveringAmong eventClass specification rest)

/-- An event of the guest or of an interrupt is delivered. -/
def delivering (eventClass specification : UInt32) (machine : Machine) : Course :=
  deliveringAmong nested eventClass specification
    (List.range machine.firmware.events.slots.length) machine

/-- The events of the counters whose lines are pending are delivered. -/
def deliveringPending (pending : Lines) : List Nat → Machine → Course
  | [], machine => still machine
  | counter :: rest, machine =>
      (if pending.contains (counterLine counter) then
          delivering nested (counterEventClass + UInt32.ofNat counter)
            interruptSpecification machine
        else
          still machine).andThen
        (deliveringPending pending rest)

/-- An interrupt is served. -/
def servingInterrupt (machine : Machine) : Course :=
  let pending := machine.bus.interrupts.pending
  (deliveringPending nested pending deliveryOrder machine.contextKept).andThen
    fun delivered =>
      since (.delivered (delivered.acknowledged pending)) <|
        ofAction (goOn (machine.cpu.system.get SystemRegisters.returnAddress))
          (delivered.acknowledged pending)

/-- An execution with what it nests. -/
def executing (execution : Execution) : Course :=
  since (.executed execution) <|
    match execution.target? with
    | some target => transferring nested execution target
    | none =>
        match execution.guestService? with
        | some .interrupt => servingInterrupt nested execution.machine
        | some .delivery =>
            delivering nested (execution.machine.cpu.registers.get Reg.a0)
              (execution.machine.cpu.registers.get Reg.a1) execution.machine.atCaller
        | none => ofAction (executeAlone execution.instruction) execution.machine

end

/-- An execution in which others nest at most `depth` deep. -/
def execution : Nat → Execution → Course
  | 0, outermost => ⟨[.executed outermost], .error .nestingTooDeep outermost.machine⟩
  | depth + 1, outermost => executing (execution depth) outermost

/-- Some steps one after the other. -/
def steps (depth : Nat) : Nat → Machine → Course
  | 0, machine => still machine
  | count + 1, machine => (execution depth machine.execution).andThen (steps depth count)

/-- Two courses one after the other end as the second does, unless the first fails. -/
theorem outcome_andThen (course : Course) (next : Machine → Course) :
    (course.andThen next).outcome =
      match course.outcome with
      | .ok _ after => (next after).outcome
      | .error fault failed => .error fault failed := by
  unfold andThen
  cases course.outcome with
  | ok value after => rfl
  | error fault failed => rfl

/-- One course after another ends as one action after another does. -/
theorem outcome_andThen_eq
    {action following : Action Unit}
    {machine : Machine}
    {course : Course}
    {next : Machine → Course}
    (first : course.outcome = action.run machine)
    (second : ∀ after, (next after).outcome = following.run after) :
    (course.andThen next).outcome = (action >>= fun _ => following).run machine := by
  rw [outcome_andThen, first, EStateM.run_bind]
  cases action.run machine with
  | ok value after => exact second after
  | error fault failed => rfl

/-- The course of settling ends as settling does. -/
theorem outcome_settled (idle : Bool) (machine : Machine) :
    (settled idle machine).outcome = (settle idle).run machine := by
  have served :
      (ofAction serveCounters machine).outcome = serveCounters.run machine :=
    rfl
  exact outcome_andThen_eq served fun _ => rfl

/-- The course of arriving ends as arriving does. -/
theorem outcome_arriving (target : UInt32) (idle : Bool) (machine : Machine) :
    (arriving target idle machine).outcome = (arrive target idle).run machine := by
  rw [run_arrive, arriving]
  split
  · rfl
  · exact outcome_settled idle _

section

variable {nested : Execution → Course} {execute : Instruction → Action Unit}
  (told :
    ∀ execution,
      (nested execution).outcome = (execute execution.instruction).run execution.machine)

include told

/-- The course of a step ends as the step does. -/
theorem outcome_step (machine : Machine) :
    (nested machine.execution).outcome = (stepWith execute).run machine := by
  rw [told, run_stepWith]
  rfl

/-- The course of a transfer that holds a load back ends as that transfer does. -/
theorem outcome_holding
    (execution : Execution)
    (register : Reg)
    (target : UInt32) :
    (holding nested execution register target).outcome =
      (transferHolding (execute execution.delaySlot.instruction) (stepWith execute)
          register target).run
        execution.linked.inSlot := by
  have slotRuns :
      (nested execution.delaySlot).outcome =
        (execute execution.delaySlot.instruction).run execution.linked.inSlot :=
    told _
  rw [holding, outcome_andThen, slotRuns, transferHolding, EStateM.run_bind, run_getReg]
  simp only
  rw [EStateM.run_bind]
  cases (execute execution.delaySlot.instruction).run execution.linked.inSlot with
  | error fault failed => rfl
  | ok value slotted =>
      have sameTaken : slotted.slotLeft.cpu.exceptionTaken = slotted.cpu.exceptionTaken :=
        rfl
      simp only [EStateM.run_bind, run_leaveDelaySlot, run_ofCpu, sameTaken]
      cases slotted.cpu.exceptionTaken with
      | true => rfl
      | false =>
          have settles (last : Machine) :
              (settled false last.committed).outcome =
                (commitDeferredLoad >>= fun _ => settle false).run last :=
            outcome_settled false last.committed
          exact outcome_andThen_eq (outcome_step told _) settles

/-- The course of a transfer ends as the transfer does. -/
theorem outcome_transferring (execution : Execution) (target : UInt32) :
    (transferring nested execution target).outcome =
      (transfer execute (stepWith execute) target).run execution.linked := by
  have slotFirst :
      ((nested execution.delaySlot).andThen
            (arriving target (execution.linked.loopsTo target))).outcome =
        (execute execution.linked.nextInstruction >>= fun _ =>
            arrive target (execution.linked.loopsTo target)).run
          execution.linked.inSlot :=
    outcome_andThen_eq (told execution.delaySlot) (outcome_arriving target _)
  rw [run_transfer]
  unfold transferring continueTransfer
  cases execution.linked.hazard? target with
  | none => exact slotFirst
  | some use =>
      rcases use with ⟨register, use⟩
      cases use with
      | none => exact slotFirst
      | writes => exact slotFirst
      | reads => exact outcome_holding told execution register target
      | readsAndWrites => exact outcome_arriving target _ _

/-- Steps of a guest function end as it does, but for whether it has come back. -/
theorem outcome_stepping (target : UInt32) (limit : Nat) (machine : Machine) :
    (stepping nested target limit machine).outcome =
      match (runUntil (stepWith execute) target limit).run machine with
      | .ok _ after => .ok () after
      | .error fault failed => .error fault failed := by
  induction limit generalizing machine with
  | zero => rfl
  | succ limit inductionHypothesis =>
      rw [stepping, runUntil, EStateM.run_bind, run_getPc]
      simp only
      split
      · rfl
      · rw [outcome_andThen, outcome_step told, EStateM.run_bind]
        cases (stepWith execute).run machine with
        | ok value after => exact inductionHypothesis after
        | error fault failed => rfl

/-- The course of a handler ends as the handler does. -/
theorem outcome_calling (function : UInt32) (machine : Machine) :
    (calling nested function machine).outcome =
      (callHandler (stepWith execute) function).run machine := by
  have ran :
      (calling nested function machine).outcome =
        ((stepping nested Trap.returnAddress handlerLimit
              (machine.called function)).andThen
            fun outcome => still (machine.returned outcome)).outcome :=
    rfl
  rw [ran, outcome_andThen, outcome_stepping told, run_callHandler]
  cases
    (runUntil (stepWith execute) Trap.returnAddress handlerLimit).run
      (machine.called function) with
  | ok isBack outcome => rfl
  | error fault failed => rfl

/-- The course of a delivery ends as the delivery does. -/
theorem outcome_deliveringTo (slot : Nat) (event : Event) (machine : Machine) :
    (deliveringTo nested slot event machine).outcome =
      (deliverTo (stepWith execute) slot event).run machine := by
  unfold deliveringTo deliverTo
  by_cases callback : event.mode = Event.callbackMode
  · by_cases handled : event.handler ≠ 0
    · rw [if_pos ⟨callback, handled⟩, if_pos callback, if_pos handled,
        outcome_calling told]
    · rw [if_neg fun both => handled both.2, if_pos callback, if_neg handled]
      simp only [ofAction, if_pos callback, if_neg handled]
  · rw [if_neg fun both => callback both.1, if_neg callback]
    simp only [ofAction, if_neg callback]

/-- The course of deliveries ends as the deliveries do. -/
theorem outcome_deliveringAmong
    (eventClass specification : UInt32)
    (slots : List Nat)
    (machine : Machine) :
    (deliveringAmong nested eventClass specification slots machine).outcome =
      (deliverAmong (stepWith execute) eventClass specification slots).run machine := by
  induction slots generalizing machine with
  | nil => rfl
  | cons slot rest inductionHypothesis =>
      rw [deliveringAmong, deliverAmong, EStateM.run_bind, run_ofFirmware]
      simp only
      cases machine.firmware.events.get? slot with
      | none => exact inductionHypothesis machine
      | some event =>
          simp only
          split
          · exact outcome_andThen_eq (outcome_deliveringTo told slot event machine)
              inductionHypothesis
          · exact inductionHypothesis machine

theorem outcome_delivering
    (eventClass specification : UInt32)
    (machine : Machine) :
    (delivering nested eventClass specification machine).outcome =
      (deliverEvent (stepWith execute) eventClass specification).run machine :=
  outcome_deliveringAmong told eventClass specification _ machine

/-- The course of delivering pending lines ends as delivering them does. -/
theorem outcome_deliveringPending
    (pending : Lines)
    (counters : List Nat)
    (machine : Machine) :
    (deliveringPending nested pending counters machine).outcome =
      (deliverPending (stepWith execute) pending counters).run machine := by
  induction counters generalizing machine with
  | nil => rfl
  | cons counter rest inductionHypothesis =>
      rw [deliveringPending, deliverPending]
      split
      · exact outcome_andThen_eq (outcome_delivering told _ _ machine)
          inductionHypothesis
      · exact inductionHypothesis machine

/-- The course of the interrupt routine ends as the routine does. -/
theorem outcome_servingInterrupt (machine : Machine) :
    (servingInterrupt nested machine).outcome =
      (serveInterrupt (stepWith execute)
          (machine.cpu.system.get SystemRegisters.returnAddress)).run machine := by
  rw [run_serveInterrupt, servingInterrupt, outcome_andThen,
    outcome_deliveringPending told]
  cases
    (deliverPending (stepWith execute) machine.bus.interrupts.pending deliveryOrder).run
      machine.contextKept with
  | ok value delivered => rfl
  | error fault failed => rfl

/-- The course of an execution ends as it is carried out. -/
theorem outcome_executing (execution : Execution) :
    (executing nested execution).outcome =
      (executeWith execute execution.instruction).run execution.machine := by
  unfold executing since
  cases taken : execution.target? with
  | some target =>
      rw [run_executeWith_of_target _ taken]
      exact outcome_transferring told execution target
  | none =>
      cases served : execution.guestService? with
      | none => exact (Execution.run_executeWith_alone taken served execute).symm
      | some service =>
          cases service with
          | interrupt =>
              rw [Execution.run_executeWith_of_interrupt served]
              exact outcome_servingInterrupt told execution.machine
          | delivery =>
              rw [Execution.run_executeWith_of_delivery served]
              exact outcome_delivering told _ _ execution.machine.atCaller

end

/-- The course of an execution ends as the execution does. -/
theorem outcome_execution (depth : Nat) (outermost : Execution) :
    (execution depth outermost).outcome = outermost.run depth := by
  induction depth generalizing outermost with
  | zero => rfl
  | succ depth inductionHypothesis =>
      have told (nested : Execution) :
          (execution depth nested).outcome =
            (executeNested depth nested.instruction).run nested.machine :=
        inductionHypothesis nested
      exact outcome_executing told outermost

/-- The course of some steps ends as the steps do. -/
theorem outcome_steps (count : Nat) (machine : Machine) :
    (steps nestingLimit count machine).outcome = (Action.steps count).run machine := by
  induction count generalizing machine with
  | zero => rfl
  | succ count inductionHypothesis =>
      have stepped :
          (execution nestingLimit machine.execution).outcome = Action.step.run machine := by
        rw [outcome_execution]
        exact (Execution.run_step machine nestingLimit).symm
      exact outcome_andThen_eq stepped inductionHypothesis

end Course

/-! ## Courses of single executions -/

/-- Setting the return address leaves the program counter. -/
@[simp]
theorem Instruction.pc_linked (instruction : Instruction) (registers : Registers) :
    (instruction.linked registers).pc = registers.pc := by
  cases instruction with
  | branchSign nonNegative links source offset =>
      cases links with
      | true => exact Registers.pc_set _ _ _
      | false => rfl
  | jumpLink field => exact Registers.pc_set _ _ _
  | jumpLinkRegister target source => exact Registers.pc_set _ _ _
  | _ => rfl

/-- What a machine executes that has come to a word of a guest program. -/
theorem Machine.Holds.execution_eq
    {machine : Machine}
    {words : List (UInt32 × UInt32)}
    {instruction : Instruction}
    (holds : machine.Holds words)
    (address word : UInt32)
    (program : isProgram words = true)
    (here : machine.cpu.registers.pc = address)
    (member : (address, word) ∈ Trap.planted ++ words)
    (noPort : port? address = none)
    (decoded : Instruction.ofWord word = instruction) :
    machine.execution = ⟨instruction, machine.fetched⟩ := by
  have found : machine.nextWord = word := by
    rw [nextWord, here]
    exact holds.read program member noPort
  rw [execution, nextInstruction, found, decoded]

/-- A delay slot that is a word of a guest program. -/
theorem Machine.Holds.delaySlot_eq
    {execution : Execution}
    {words : List (UInt32 × UInt32)}
    {instruction : Instruction}
    (holds : execution.machine.Holds words)
    (address word : UInt32)
    (program : isProgram words = true)
    (here : execution.machine.cpu.registers.pc = address)
    (member : (address, word) ∈ Trap.planted ++ words)
    (noPort : port? address = none)
    (decoded : Instruction.ofWord word = instruction) :
    execution.delaySlot = ⟨instruction, execution.linked.inSlot⟩ := by
  have there : execution.linked.cpu.registers.pc = address :=
    (execution.instruction.pc_linked _).trans here
  have found : execution.linked.nextWord = word := by
    rw [nextWord, there]
    exact holds.read program member noPort
  rw [Execution.delaySlot, nextInstruction, found, decoded]

namespace Course

section

variable {nested : Execution → Course} {execution : Execution}

/-- Behind a course that succeeds the next one follows. -/
theorem andThen_of_ok
    {course : Course}
    {after : Machine}
    (ended : course.outcome = .ok () after)
    (next : Machine → Course) :
    course.andThen next =
      ⟨course.moments ++ (next after).moments, (next after).outcome⟩ := by
  rw [andThen, ended]

/-- An execution that nests no other happens by itself. -/
theorem executing_alone
    (untaken : execution.target? = none)
    (noService : execution.guestService? = none) :
    executing nested execution =
      ⟨[.executed execution],
        (executeAlone execution.instruction).run execution.machine⟩ := by
  rw [executing]
  simp only [untaken, noService]
  rfl

/-- An instruction that transfers control nests what the transfer runs. -/
theorem executing_of_target
    {target : UInt32}
    (transfers : execution.target? = some target) :
    executing nested execution =
      since (.executed execution) (transferring nested execution target) := by
  rw [executing]
  simp only [transfers]

/-- A trap into the interrupt routine nests what the routine runs. -/
theorem executing_of_interrupt
    (untaken : execution.target? = none)
    (serves : execution.guestService? = some .interrupt) :
    executing nested execution =
      since (.executed execution) (servingInterrupt nested execution.machine) := by
  rw [executing]
  simp only [untaken, serves]

/-- Once the counters have been served, the interrupts are checked. -/
theorem settled_of_serviced
    {machine : Machine}
    {bus : Bus}
    (serviced : machine.bus.serviced = .ok () bus)
    (idle : Bool) :
    settled idle machine =
      ⟨[.arrived machine, .checked (machine.withBus bus)],
        (checkInterrupts idle).run (machine.withBus bus)⟩ := by
  have served :
      (ofAction serveCounters machine).outcome = .ok () (machine.withBus bus) := by
    rw [ofAction, run_serveCounters, serviced]
  rw [settled, andThen_of_ok served]
  rfl

/-- With no counter due, the interrupts are checked at once. -/
theorem settled_of_early
    {machine : Machine}
    (early : machine.bus.counters.deadlineReached = false)
    (idle : Bool) :
    settled idle machine =
      ⟨[.arrived machine, .checked machine], (checkInterrupts idle).run machine⟩ :=
  settled_of_serviced (Bus.serviced_of_early early) idle

/-- Behind a course that fails nothing follows. -/
theorem andThen_of_error
    {course : Course}
    {fault : Fault}
    {failed : Machine}
    (ended : course.outcome = .error fault failed)
    (next : Machine → Course) :
    course.andThen next = ⟨course.moments, .error fault failed⟩ := by
  rw [andThen, ended]

/-- A delay slot that loads nothing has no hazard with the target. -/
theorem transferring_of_noLoad
    (noLoad : loadedRegister? execution.delaySlot.instruction = none)
    (target : UInt32) :
    transferring nested execution target =
      (nested execution.delaySlot).andThen
        (arriving target (execution.linked.loopsTo target)) := by
  have noHazard : execution.linked.hazard? target = none := by
    have sameSlot :
        loadedRegister? execution.linked.nextInstruction =
          loadedRegister? execution.delaySlot.instruction :=
      rfl
    rw [Machine.hazard?, sameSlot, noLoad, Option.map_none]
  rw [transferring, noHazard]

/-- A delay slot that loads nothing is executed before the transfer arrives. -/
theorem transferring_of_slot
    {target : UInt32}
    {slotted : Machine}
    (noLoad : loadedRegister? execution.delaySlot.instruction = none)
    (ended : (nested execution.delaySlot).outcome = .ok () slotted)
    (calm : slotted.cpu.exceptionTaken = false) :
    transferring nested execution target =
      ⟨(nested execution.delaySlot).moments ++
          (settled (execution.linked.loopsTo target) (slotted.atTarget target)).moments,
        (settled (execution.linked.loopsTo target)
          (slotted.atTarget target)).outcome⟩ := by
  have arrives :
      arriving target (execution.linked.loopsTo target) slotted =
        settled (execution.linked.loopsTo target) (slotted.atTarget target) := by
    rw [arriving, calm, if_neg Bool.false_ne_true]
  rw [transferring_of_noLoad noLoad, andThen_of_ok ended, arrives]

end

/-- A transfer with a delay slot that nests nothing and takes no exception. -/
theorem execution_of_servedSlot
    {outermost : Execution}
    {target : UInt32}
    {slotted : Machine}
    {bus : Bus}
    (depth : Nat)
    (transfers : outermost.target? = some target)
    (noLoad : loadedRegister? outermost.delaySlot.instruction = none)
    (untaken : outermost.delaySlot.target? = none)
    (noService : outermost.delaySlot.guestService? = none)
    (ran :
      (executeAlone outermost.delaySlot.instruction).run outermost.delaySlot.machine =
        .ok () slotted)
    (calm : slotted.cpu.exceptionTaken = false)
    (serviced : slotted.bus.serviced = .ok () bus) :
    execution (depth + 2) outermost =
      ⟨[.executed outermost, .executed outermost.delaySlot,
          .arrived (slotted.atTarget target),
          .checked ((slotted.atTarget target).withBus bus)],
        (checkInterrupts (outermost.linked.loopsTo target)).run
          ((slotted.atTarget target).withBus bus)⟩ := by
  have slot :
      execution (depth + 1) outermost.delaySlot =
        ⟨[.executed outermost.delaySlot], .ok () slotted⟩ := by
    rw [execution, executing_alone untaken noService, ran]
  have servicedThere : (slotted.atTarget target).bus.serviced = .ok () bus := serviced
  rw [execution, executing_of_target transfers, since,
    transferring_of_slot noLoad (congrArg Course.outcome slot) calm,
    settled_of_serviced servicedThere, slot]
  rfl

/-- A transfer with a delay slot that nests nothing and disturbs nothing. -/
theorem execution_of_slot
    {outermost : Execution}
    {target : UInt32}
    {slotted : Machine}
    (depth : Nat)
    (transfers : outermost.target? = some target)
    (noLoad : loadedRegister? outermost.delaySlot.instruction = none)
    (untaken : outermost.delaySlot.target? = none)
    (noService : outermost.delaySlot.guestService? = none)
    (ran :
      (executeAlone outermost.delaySlot.instruction).run outermost.delaySlot.machine =
        .ok () slotted)
    (calm : slotted.cpu.exceptionTaken = false)
    (early : slotted.bus.counters.deadlineReached = false) :
    execution (depth + 2) outermost =
      ⟨[.executed outermost, .executed outermost.delaySlot,
          .arrived (slotted.atTarget target), .checked (slotted.atTarget target)],
        (checkInterrupts (outermost.linked.loopsTo target)).run
          (slotted.atTarget target)⟩ :=
  execution_of_servedSlot depth transfers noLoad untaken noService ran calm
    (Bus.serviced_of_early early)

/-- A transfer with a delay slot that nests nothing and fails. -/
theorem execution_of_failingSlot
    {outermost : Execution}
    {target : UInt32}
    {fault : Fault}
    {failed : Machine}
    (depth : Nat)
    (transfers : outermost.target? = some target)
    (noLoad : loadedRegister? outermost.delaySlot.instruction = none)
    (untaken : outermost.delaySlot.target? = none)
    (noService : outermost.delaySlot.guestService? = none)
    (ran :
      (executeAlone outermost.delaySlot.instruction).run outermost.delaySlot.machine =
        .error fault failed) :
    execution (depth + 2) outermost =
      ⟨[.executed outermost, .executed outermost.delaySlot], .error fault failed⟩ := by
  have slot :
      execution (depth + 1) outermost.delaySlot =
        ⟨[.executed outermost.delaySlot], .error fault failed⟩ := by
    rw [execution, executing_alone untaken noService, ran]
  rw [execution, executing_of_target transfers, since, transferring_of_noLoad noLoad,
    andThen_of_error (congrArg Course.outcome slot), slot]

end Course

end PsxPlayer
