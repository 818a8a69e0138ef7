import PsxPlayer.Proofs.Cpu.Guest
import PsxPlayer.Proofs.Cpu.System

namespace PsxPlayer

/-!
# What an interrupt leaves of the registers

An interrupt that is taken on arrival at a target runs the handlers of the events
that it is delivered to and then goes on at the target.  Whatever the handlers do,
all registers are put back but one: v0 keeps what the last handler left in it.
-/

namespace Machine

/-- The machine as a guest function that the firmware calls starts. -/
def called (machine : Machine) (function : UInt32) : Machine :=
  machine.withRegisters
    { machine.cpu.registers.set Reg.ra Trap.returnAddress with pc := function }

/-- The machine after a guest function: the caller's registers with the result. -/
def returned (caller outcome : Machine) : Machine :=
  outcome.withRegisters
    (caller.cpu.registers.set Reg.v0 (outcome.cpu.registers.get Reg.v0))

end Machine

/-- A function is the handler of an active event that calls back. -/
def EventTable.HasHandler (table : EventTable) (function : UInt32) : Prop :=
  ∃ event,
    event ∈ table.slots ∧
      event.status = .active ∧
      event.mode = Event.callbackMode ∧
      event.handler = function

namespace Action

/-- A called function runs until it comes back or has run for too long. -/
theorem run_callHandler
    (step : Action Unit)
    (function : UInt32)
    (machine : Machine) :
    (callHandler step function).run machine =
      match (runUntil step Trap.returnAddress handlerLimit).run
          (machine.called function) with
      | .ok _ outcome => .ok () (machine.returned outcome)
      | .error fault failed => .error fault failed := by
  simp only [callHandler, EStateM.run_bind, run_ofRegisters, run_modifyRegisters,
    run_getReg, Machine.called]
  generalize (runUntil step Trap.returnAddress handlerLimit).run _ = result
  cases result with
  | ok isBack outcome => rfl
  | error fault failed => rfl

end Action

/--
Deliveries of events: some events are marked as ready, and the handlers of others
are called, which are listed by the machines that they leave behind.
-/
inductive Deliveries (step : Action Unit) :
    Machine → List Machine → EStateM.Result Fault Machine Unit → Prop where
  | done (machine : Machine) :
      Deliveries step machine [] (.ok () machine)
  | readied
      {machine : Machine}
      {outcomes : List Machine}
      {result : EStateM.Result Fault Machine Unit}
      (slot : Nat)
      (rest :
        Deliveries step
          { machine with
            firmware :=
              { machine.firmware with
                events := machine.firmware.events.setStatus slot .ready } }
          outcomes result) :
      Deliveries step machine outcomes result
  | called
      {machine outcome : Machine}
      {function : UInt32}
      {isBack : Bool}
      {outcomes : List Machine}
      {result : EStateM.Result Fault Machine Unit}
      (listed : machine.firmware.events.HasHandler function)
      (ran :
        (Action.runUntil step Trap.returnAddress Action.handlerLimit).run
            (machine.called function) =
          .ok isBack outcome)
      (rest : Deliveries step (machine.returned outcome) outcomes result) :
      Deliveries step machine (outcome :: outcomes) result
  | failed
      {machine failed : Machine}
      {function : UInt32}
      {fault : Fault}
      (listed : machine.firmware.events.HasHandler function)
      (ran :
        (Action.runUntil step Trap.returnAddress Action.handlerLimit).run
            (machine.called function) =
          .error fault failed) :
      Deliveries step machine [] (.error fault failed)

/-- What v0 holds after handlers: the result of the last one, if there is any. -/
def lastResult (initial : UInt32) (outcomes : List Machine) : UInt32 :=
  outcomes.foldl (fun _ outcome => outcome.cpu.registers.get Reg.v0) initial

namespace Deliveries

variable {step : Action Unit}

theorem trans
    {machine middle : Machine}
    {first second : List Machine}
    {result : EStateM.Result Fault Machine Unit}
    (before : Deliveries step machine first (.ok () middle))
    (after : Deliveries step middle second result) :
    Deliveries step machine (first ++ second) result := by
  generalize reached : EStateM.Result.ok () middle = end_ at before
  induction before with
  | done machine =>
      cases reached
      exact after
  | readied slot rest inductionHypothesis =>
      exact .readied slot (inductionHypothesis reached)
  | called listed ran rest inductionHypothesis =>
      exact .called listed ran (inductionHypothesis reached)
  | failed listed ran => cases reached

/-- Deliveries put back all registers but v0. -/
theorem registers_eq
    {machine delivered : Machine}
    {outcomes : List Machine}
    (deliveries : Deliveries step machine outcomes (.ok () delivered)) :
    delivered.cpu.registers =
      machine.cpu.registers.set Reg.v0
        (lastResult (machine.cpu.registers.get Reg.v0) outcomes) := by
  generalize reached : EStateM.Result.ok () delivered = result at deliveries
  induction deliveries with
  | done machine =>
      cases reached
      simp [lastResult]
  | readied slot rest inductionHypothesis => exact inductionHypothesis reached
  | called listed ran rest inductionHypothesis =>
      rw [inductionHypothesis reached]
      simp [Machine.returned, lastResult, Registers.get_set_self, Reg.v0]
  | failed listed ran => cases reached

end Deliveries

/-- An action does nothing but deliver events. -/
def Delivers (step action : Action Unit) : Prop :=
  ∀ machine, ∃ outcomes, Deliveries step machine outcomes (action.run machine)

/-- Deliveries go on with an action that delivers events. -/
theorem Deliveries.bind
    {step first second : Action Unit}
    {machine : Machine}
    {outcomes : List Machine}
    (before : Deliveries step machine outcomes (first.run machine))
    (after : Delivers step second) :
    ∃ outcomes,
      Deliveries step machine outcomes ((do first; second : Action Unit).run machine) := by
  rw [EStateM.run_bind]
  cases ran : first.run machine with
  | ok value middle =>
      rw [ran] at before
      obtain ⟨later, rest⟩ := after middle
      exact ⟨outcomes ++ later, before.trans rest⟩
  | error fault failed =>
      rw [ran] at before
      exact ⟨outcomes, before⟩

namespace Action

/-- Calling a listed handler is a delivery. -/
theorem callHandler_deliveries
    (step : Action Unit)
    {machine : Machine}
    {function : UInt32}
    (listed : machine.firmware.events.HasHandler function) :
    ∃ outcomes,
      Deliveries step machine outcomes ((callHandler step function).run machine) := by
  rw [run_callHandler]
  cases ran :
    (runUntil step Trap.returnAddress handlerLimit).run (machine.called function) with
  | ok isBack outcome => exact ⟨[outcome], .called listed ran (.done _)⟩
  | error fault failed => exact ⟨[], .failed listed ran⟩

/-- Delivering to an active event of the table is a delivery. -/
theorem deliverTo_deliveries
    (step : Action Unit)
    {machine : Machine}
    {slot : Nat}
    {event : Event}
    (found : machine.firmware.events.get? slot = some event)
    (active : event.status = .active) :
    ∃ outcomes,
      Deliveries step machine outcomes ((deliverTo step slot event).run machine) := by
  unfold deliverTo
  split
  · next callback =>
      split
      · exact callHandler_deliveries step
          ⟨event, List.mem_of_getElem? found, active, callback, rfl⟩
      · exact ⟨[], .done machine⟩
  · split
    · exact ⟨[], .readied slot (.done _)⟩
    · exact ⟨[], .done machine⟩

/-- Delivering among slots is a delivery. -/
theorem deliverAmong_delivers
    (step : Action Unit)
    (eventClass specification : UInt32)
    (slots : List Nat) :
    Delivers step (deliverAmong step eventClass specification slots) := by
  induction slots with
  | nil => exact fun machine => ⟨[], .done machine⟩
  | cons slot rest inductionHypothesis =>
      intro machine
      unfold deliverAmong
      rw [EStateM.run_bind, run_ofFirmware]
      cases found : machine.firmware.events.get? slot with
      | none => exact inductionHypothesis machine
      | some event =>
          simp only
          split
          · next receives =>
              have active : event.status = .active := by
                simp only [Event.receives, Bool.and_eq_true, beq_iff_eq] at receives
                exact receives.1.1
              obtain ⟨first, deliveries⟩ := deliverTo_deliveries step found active
              exact deliveries.bind inductionHypothesis
          · exact inductionHypothesis machine

theorem deliverEvent_delivers
    (step : Action Unit)
    (eventClass specification : UInt32) :
    Delivers step (deliverEvent step eventClass specification) :=
  fun machine => deliverAmong_delivers step eventClass specification _ machine

/-- Delivering for the pending lines is a delivery. -/
theorem deliverPending_delivers
    (step : Action Unit)
    (pending : Lines)
    (counters : List Nat) :
    Delivers step (deliverPending step pending counters) := by
  induction counters with
  | nil => exact fun machine => ⟨[], .done machine⟩
  | cons counter rest inductionHypothesis =>
      intro machine
      unfold deliverPending
      split
      · obtain ⟨outcomes, deliveries⟩ :=
          deliverEvent_delivers step
            (counterEventClass + UInt32.ofNat counter) interruptSpecification machine
        exact deliveries.bind inductionHypothesis
      · exact inductionHypothesis machine

end Action

namespace Machine

/-- An interrupt is taken here, and the handler's address holds the exception trap. -/
structure TakesInterrupt (machine : Machine) : Prop where
  isPending : machine.bus.interrupts.isPending = true
  isEnabled : (machine.cpu.system.setLine true).takesInterrupts = true
  isPlanted :
    machine.bus.read .word machine.cpu.system.handler = Trap.exception.word

/-- The machine after the firmware has kept the registers. -/
def contextKept (machine : Machine) : Machine :=
  { machine with
    firmware :=
      { machine.firmware with savedContext? := some machine.cpu.registers } }

/-- The next word after an interrupt is the exception trap. -/
theorem TakesInterrupt.nextWord_interrupted
    {machine : Machine}
    (takes : machine.TakesInterrupt) :
    machine.interrupted.nextWord = Trap.exception.word := by
  simp only [nextWord, interrupted, Cpu.pc_enterException,
    SystemRegisters.handler_setLine]
  exact takes.isPlanted

end Machine

namespace Action

/-- The step of a guest function that runs inside a firmware call. -/
def nestedStep : Action Unit :=
  stepWith (executeNested (nestingLimit - 1))

/-- On arrival the interrupt is taken. -/
theorem run_settle_of_takesInterrupt
    {before served : Machine}
    (idle : Bool)
    (counted : serveCounters.run before = .ok () served)
    (takes : served.TakesInterrupt) :
    (settle idle).run before = .ok () served.interrupted := by
  simp only [settle, EStateM.run_bind, counted, run_ofBus, takes.isPending, ↓reduceIte,
    run_modifySystem, run_ofCpu, Machine.withSystem_system, takes.isEnabled]
  rfl

/-- A planted word calls the firmware. -/
theorem run_step_of_trap
    {machine : Machine}
    {trap : Trap}
    (planted : machine.nextWord = trap.word) :
    step.run machine = (serveTrap nestedStep trap).run machine.fetched := by
  have decoded : Instruction.ofWord trap.word = .trap trap.code := by
    cases trap <;> decide
  have known : Trap.ofCode? trap.code = some trap := by
    cases trap <;> decide
  rw [step, run_stepWith, planted, decoded, execute_eq]
  simp only [executeWith, known]
  rfl

/-- The firmware keeps the registers and delivers before it goes on. -/
theorem run_serveInterrupt
    (step : Action Unit)
    (returnAddress : UInt32)
    (machine : Machine) :
    (serveInterrupt step returnAddress).run machine =
      match
        (deliverPending step machine.bus.interrupts.pending deliveryOrder).run
          machine.contextKept
      with
      | .error fault failed => .error fault failed
      | .ok _ delivered =>
          (if delivered.firmware.hook ≠ 0 then
              restoreContext delivered.firmware.hook 1
            else
              resume returnAddress).run
            (delivered.withBus
              { delivered.bus with
                interrupts :=
                  delivered.bus.interrupts.acknowledge
                    machine.bus.interrupts.pending }) := by
  simp only [serveInterrupt, EStateM.run_bind, run_ofRegisters, run_modifyFirmware,
    run_ofBus, run_modifyBus, run_ofFirmware, Machine.contextKept, id]
  generalize (deliverPending step _ _).run _ = result
  cases result with
  | ok value delivered => rfl
  | error fault failed => rfl

/-- An interrupt that has been taken is served with the interrupted address. -/
theorem run_step_interrupted
    {machine : Machine}
    (takes : machine.TakesInterrupt) :
    step.run machine.interrupted =
      (serveInterrupt nestedStep machine.cpu.registers.pc).run
        machine.interrupted.fetched := by
  have code :
      machine.interrupted.fetched.cpu.system.causeCode =
        ExceptionCause.interrupt.code :=
    Cpu.causeCode_enterException _ _ _ _
  have address :
      machine.interrupted.fetched.cpu.system.get SystemRegisters.returnAddress =
        machine.cpu.registers.pc :=
    Cpu.returnAddress_enterException _ _ _ _
  rw [run_step_of_trap takes.nextWord_interrupted]
  simp only [serveTrap, functionNumber, serveException, EStateM.run_bind, run_getReg,
    EStateM.run_pure, run_getSystem, run_ofCpu, address, code, ↓reduceIte]

/--
The step after an interrupt has been taken in `served`.  A fault can only come from
a handler.  Otherwise, unless a jump buffer is set, all registers but v0 are those
of `served`, and v0 is the result of the last handler.  So the interrupt goes
unnoticed exactly if that result is what v0 held before.
-/
def RestoresAllButResult (served : Machine) : Prop :=
  ∃ outcomes result,
    Deliveries nestedStep served.interrupted.fetched.contextKept outcomes result ∧
      match result with
      | .error fault failed => step.run served.interrupted = .error fault failed
      | .ok _ delivered =>
          delivered.firmware.hook = 0 →
          ∃ after,
            step.run served.interrupted = .ok () after ∧
              after.cpu.registers =
                served.cpu.registers.set Reg.v0
                  (lastResult (served.cpu.registers.get Reg.v0) outcomes) ∧
              (after.cpu.registers = served.cpu.registers ↔
                lastResult (served.cpu.registers.get Reg.v0) outcomes =
                  served.cpu.registers.get Reg.v0)

/-- An interrupt that is taken on arrival puts back all registers but v0. -/
theorem interrupt_restoresAllButResult
    {before served : Machine}
    (idle : Bool)
    (counted : serveCounters.run before = .ok () served)
    (takes : served.TakesInterrupt) :
    (settle idle).run before = .ok () served.interrupted ∧
      RestoresAllButResult served := by
  refine ⟨run_settle_of_takesInterrupt idle counted takes, ?_⟩
  obtain ⟨outcomes, deliveries⟩ :=
    deliverPending_delivers nestedStep
      served.interrupted.fetched.bus.interrupts.pending deliveryOrder
      served.interrupted.fetched.contextKept
  refine ⟨outcomes, _, deliveries, ?_⟩
  have fetchedRegisters :
      served.interrupted.fetched.contextKept.cpu.registers =
        { served.cpu.registers with pc := served.interrupted.cpu.registers.pc + 4 } :=
    rfl
  rw [run_step_interrupted takes, run_serveInterrupt]
  split
  · next fault failed ran => simp only
  · next delivered ran =>
      intro noHook
      rw [ran] at deliveries
      have putBack := deliveries.registers_eq
      rw [fetchedRegisters, Registers.set_withPc] at putBack
      simp only [noHook, ne_eq, not_true_eq_false, ↓reduceIte, resume,
        EStateM.run_bind, run_setPc, run_modifySystem]
      refine ⟨_, rfl, ?_, ?_⟩
      · simp only [Machine.withSystem_registers, Machine.withRegisters_registers,
          Machine.withBus_cpu, putBack]
        rfl
      · simp only [Machine.withSystem_registers, Machine.withRegisters_registers,
          Machine.withBus_cpu, putBack]
        exact Registers.set_eq_self_iff _ (show Reg.v0 ≠ 0 by decide) _

/-- A handler that leaves 1 in v0. -/
def answer : List (UInt32 × UInt32) :=
  [(0x80010000, 0x03E00008), (0x80010004, 0x24020001)]

/-- The event that calls the handler once a frame. -/
def answerEvent : Event :=
  ⟨0xF2000003, 2, Event.callbackMode, 0x80010000, .active⟩

/-- A machine in which the frame interrupt is due. -/
def answering : Machine :=
  { Machine.guest answer 0x80020000 with
    cpu :=
      { Cpu.initial with
        system := SystemRegisters.initial.set SystemRegisters.status 0x401 }
    firmware := { Firmware.initial with events := ⟨[answerEvent]⟩ }
    bus := { (Machine.guest answer 0x80020000).bus with interrupts := ⟨1, 1⟩ } }

theorem answering_takesInterrupt : answering.TakesInterrupt where
  isPending := by decide
  isEnabled := by decide
  isPlanted :=
    (show answering.Holds answer from rfl).read (by decide) (by decide) (by decide)

theorem run_serveCounters_answering :
    serveCounters.run answering = .ok () answering :=
  rfl

/-- The interrupt of a machine whose handler answers gives back all but that answer. -/
theorem interrupt_answering :
    serveCounters.run answering = .ok () answering ∧
      answering.TakesInterrupt ∧
      (settle false).run answering = .ok () answering.interrupted ∧
      RestoresAllButResult answering :=
  ⟨run_serveCounters_answering, answering_takesInterrupt,
    interrupt_restoresAllButResult false run_serveCounters_answering
      answering_takesInterrupt⟩

/-- The machine as the handler starts. -/
def answerCalled : Machine :=
  answering.interrupted.fetched.contextKept.called 0x80010000

theorem answerCalled_words :
    answerCalled.nextWord = 0x03E00008 ∧ answerCalled.fetched.nextWord = 0x24020001 := by
  have holds : answerCalled.Holds answer := rfl
  refine ⟨?_, ?_⟩
  · exact holds.read (by decide) (by decide) (by decide)
  · exact (show answerCalled.fetched.Holds answer from rfl).read (by decide) (by decide)
      (by decide)

/-- A function of a jump back and an answer in its delay slot gives that answer. -/
theorem run_answer
    {machine : Machine}
    (depth : Nat)
    (first : machine.nextWord = 0x03E00008)
    (second : machine.fetched.nextWord = 0x24020001)
    (early : machine.bus.tick.tick.counters.deadlineReached = false)
    (masked : (machine.cpu.system.setLine true).takesInterrupts = false) :
    ∃ outcome,
      (stepWith (executeNested (depth + 2))).run machine = .ok () outcome ∧
        outcome.cpu.registers.pc = machine.cpu.registers.get Reg.ra ∧
        outcome.cpu.registers.get Reg.v0 = 1 ∧
        outcome.firmware = machine.firmware := by
  have returns : Instruction.ofWord 0x03E00008 = .jumpRegister 31 := by decide
  have answers : Instruction.ofWord 0x24020001 = .immediate .addiu 2 0 1 := by decide
  have slot : machine.fetched.nextInstruction = .immediate .addiu 2 0 1 := by
    rw [Machine.nextInstruction, second, answers]
  have value (left : UInt32) :
      ImmediateOp.addiu.compute? left 1 = some (left + signExtend16 1) :=
    rfl
  have taken :
      (Instruction.jumpRegister 31).target? machine.fetched.cpu.registers =
        some (machine.cpu.registers.get Reg.ra) :=
    rfl
  have unlinked :
      (Instruction.jumpRegister 31).linked machine.fetched.cpu.registers =
        machine.fetched.cpu.registers :=
    rfl
  rw [run_stepWith, first, returns, executeNested, run_executeWith_of_target _ taken,
    unlinked, Machine.withRegisters_self,
    run_transfer_of_no_hazard _ _ (by rw [slot]; rfl), slot, EStateM.run_bind,
    executeNested, executeWith, EStateM.run_bind, run_getReg]
  simp only
  rw [value, settleResult, run_setReg]
  simp only
  have notIdle :
      machine.fetched.loopsTo (machine.cpu.registers.get Reg.ra) = false := by
    simp [Machine.loopsTo, second]
  have sameSystem : machine.fetched.inSlot.cpu.system = machine.cpu.system :=
    Cpu.system_committed _
  have noException : machine.fetched.inSlot.cpu.exceptionTaken = false := rfl
  have ticked : machine.fetched.inSlot.bus = machine.bus.tick.tick := rfl
  rw [notIdle, run_arrive_of_quiet]
  · refine ⟨_, rfl, rfl, ?_, rfl⟩
    change
      (machine.fetched.inSlot.cpu.registers.set 2
          (machine.fetched.inSlot.cpu.registers.get 0 + signExtend16 1)).get Reg.v0 =
        1
    rw [Registers.get_zero]
    exact Registers.get_set_self _ (by decide) _
  · exact noException
  · rw [Machine.withRegisters_bus, ticked]
    exact early
  · intro _
    rw [Machine.withRegisters_system, sameSystem]
    exact masked

/-- A handler that comes back within its first step comes back. -/
theorem run_runUntil_of_step
    {step : Action Unit}
    {target : UInt32}
    {machine outcome : Machine}
    (limit : Nat)
    (away : machine.cpu.registers.pc ≠ target)
    (stepped : step.run machine = .ok () outcome)
    (back : outcome.cpu.registers.pc = target) :
    (runUntil step target (limit + 2)).run machine = .ok true outcome := by
  have arrived : (runUntil step target (limit + 1)).run outcome = .ok true outcome := by
    rw [runUntil, EStateM.run_bind, run_getPc]
    simp only [back, beq_self_eq_true, ↓reduceIte, EStateM.run_pure]
  have notYet : (machine.cpu.registers.pc == target) = false := by
    simpa using away
  rw [runUntil, EStateM.run_bind, run_getPc]
  simp only [notYet, Bool.false_eq_true, ↓reduceIte, EStateM.run_bind, stepped, arrived]

/-- A frame interrupt with this event calls its handler and does nothing else. -/
theorem run_deliverPending_answerEvent
    {step : Action Unit}
    {machine after : Machine}
    (events : machine.firmware.events = ⟨[answerEvent]⟩)
    (called : (callHandler step answerEvent.handler).run machine = .ok () after) :
    (deliverPending step .vblank deliveryOrder).run machine = .ok () after := by
  have fits :
      answerEvent.receives (counterEventClass + UInt32.ofNat 3)
        interruptSpecification = true := by
    decide
  have delivered :
      (deliverEvent step (counterEventClass + UInt32.ofNat 3)
          interruptSpecification).run machine =
        .ok () after := by
    rw [deliverEvent, EStateM.run_bind, run_ofFirmware]
    simp only [events, List.length_singleton, List.range_one]
    rw [deliverAmong, EStateM.run_bind, run_ofFirmware, events]
    simp only [EventTable.get?, List.getElem?_cons_zero, fits, ↓reduceIte]
    rw [EStateM.run_bind, deliverTo, if_pos (by rfl), if_pos (by decide), called]
    rfl
  have only (counter : Nat) (other : counter ∈ [0, 1, 2]) :
      Lines.vblank.contains (counterLine counter) = false := by
    revert counter
    decide
  rw [deliveryOrder, deliverPending, if_pos (by decide), EStateM.run_bind, delivered]
  simp [deliverPending, only]

/-- The handler comes back, and its result is in v0 when the program goes on. -/
theorem interrupt_changes_result :
    ∃ outcome after,
      answering.TakesInterrupt ∧
        answering.firmware.hook = 0 ∧
        (settle false).run answering = .ok () answering.interrupted ∧
        (runUntil nestedStep Trap.returnAddress handlerLimit).run answerCalled =
          .ok true outcome ∧
        step.run answering.interrupted = .ok () after ∧
        after.cpu.registers.pc = answering.cpu.registers.pc ∧
        after.cpu.registers.get Reg.v0 ≠ answering.cpu.registers.get Reg.v0 := by
  obtain ⟨first, second⟩ := answerCalled_words
  have limits : nestingLimit - 1 = 0xFFFFD + 2 ∧ handlerLimit = 9999998 + 2 := by decide
  obtain ⟨outcome, stepped, back, value, sameFirmware⟩ :=
    run_answer 0xFFFFD first second (by decide) (by decide)
  have comesBack :
      (runUntil nestedStep Trap.returnAddress handlerLimit).run answerCalled =
        .ok true outcome := by
    have returns : outcome.cpu.registers.pc = Trap.returnAddress := by
      rw [back]
      decide
    rw [nestedStep, limits.1, limits.2,
      run_runUntil_of_step _ (by decide) stepped returns]
  have called :
      (callHandler nestedStep answerEvent.handler).run
          answering.interrupted.fetched.contextKept =
        .ok () (answering.interrupted.fetched.contextKept.returned outcome) := by
    have starts :
        answering.interrupted.fetched.contextKept.called answerEvent.handler =
          answerCalled :=
      rfl
    rw [run_callHandler, starts, comesBack]
  have delivered := run_deliverPending_answerEvent rfl called
  have noHook : outcome.firmware.hook = 0 := by
    rw [sameFirmware]
    rfl
  have pending : answering.interrupted.fetched.bus.interrupts.pending = .vblank := by
    decide
  have ran := run_step_interrupted answering_takesInterrupt
  rw [run_serveInterrupt, pending, delivered] at ran
  simp only [Machine.returned, Machine.withRegisters_firmware, noHook, ne_eq,
    not_true_eq_false, ↓reduceIte, resume, EStateM.run_bind, run_setPc,
    run_modifySystem] at ran
  refine ⟨outcome, _, answering_takesInterrupt, rfl,
    run_settle_of_takesInterrupt false run_serveCounters_answering
      answering_takesInterrupt,
    comesBack, ran, rfl, ?_⟩
  change
    (answering.interrupted.fetched.contextKept.cpu.registers.set Reg.v0
        (outcome.cpu.registers.get Reg.v0)).get Reg.v0 ≠
      0
  rw [Registers.get_set_self _ (show Reg.v0 ≠ 0 by decide), value]
  decide

end Action

end PsxPlayer
