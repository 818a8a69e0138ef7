import PsxPlayer.Proofs.Firmware.EventTable
import PsxPlayer.Proofs.Firmware.Standing

namespace PsxPlayer

/-!
# Calls that work on events

Six kernel functions work on the table of events, and a delivery or an interrupt reaches
it too.  As long as deliveries mark events ready and call no handlers, each of them comes
back, with an answer and a table that depend on the table alone.
-/

/-- What reaches the table of events, in the mode in which events are marked ready. -/
inductive EventCall where
  | opens (eventClass specification handler : UInt32)
  | closes (handle : UInt32)
  | enables (handle : UInt32)
  | disables (handle : UInt32)
  | tests (handle : UInt32)
  | waits (handle : UInt32)
  | delivers (eventClass specification : UInt32)
  /-- An interrupt, with the lines that are pending. -/
  | interrupts (pending : Lines)
  deriving DecidableEq

namespace EventCall

/-- The entry of the firmware that serves a call. -/
def trap : EventCall → Trap
  | .interrupts _ => .exception
  | _ => .tableB

/-- The machine asks for a kernel function. -/
def Asks
    (machine : Machine)
    (function : KernelFunction) :
    Prop :=
  KernelFunction.ofNumber? (machine.cpu.registers.get Reg.t1 &&& 0xFF) = some function

/-- The machine asks for a kernel function that takes a handle. -/
def AsksFor
    (machine : Machine)
    (function : KernelFunction)
    (handle : UInt32) :
    Prop :=
  Asks machine function ∧ machine.cpu.registers.get Reg.a0 = handle

/-- The machine makes a call when it enters the firmware. -/
def IsMade (machine : Machine) : EventCall → Prop
  | .opens eventClass specification handler =>
      AsksFor machine .openEvent eventClass ∧
        machine.cpu.registers.get Reg.a1 = specification ∧
        machine.cpu.registers.get Reg.a2 = Event.readyMode ∧
        machine.cpu.registers.get Reg.a3 = handler
  | .closes handle => AsksFor machine .closeEvent handle
  | .enables handle => AsksFor machine .enableEvent handle
  | .disables handle => AsksFor machine .disableEvent handle
  | .tests handle => AsksFor machine .testEvent handle
  | .waits handle => AsksFor machine .waitEvent handle
  | .delivers eventClass specification =>
      AsksFor machine .deliverEvent eventClass ∧
        machine.cpu.registers.get Reg.a1 = specification
  | .interrupts pending =>
      machine.cpu.system.causeCode = ExceptionCause.interrupt.code ∧
        machine.bus.interrupts.pending = pending

/-- The handle that a call works on, if it works on one. -/
def handle? : EventCall → Option UInt32
  | .closes handle | .enables handle | .disables handle | .tests handle | .waits handle =>
      some handle
  | .opens .. | .delivers .. | .interrupts _ => none

/-- The classes and specifications that a call delivers to, in order. -/
def deliveries : EventCall → List (UInt32 × UInt32)
  | .delivers eventClass specification => [(eventClass, specification)]
  | .interrupts pending =>
      (deliveryOrder.filter fun counter => pending.contains (counterLine counter)).map
        fun counter => (counterEventClass + UInt32.ofNat counter, interruptSpecification)
  | _ => []

end EventCall

/-! ## The table and the answers -/

/-- What a call that opens an event answers when no slot is free. -/
def refusal : UInt32 := 0xFFFFFFFF

namespace EventTable

/-- The answer and the table after an update of an event's status. -/
def updated
    (table : EventTable)
    (handle : UInt32)
    (status : EventStatus) :
    UInt32 × EventTable :=
  match table.update? handle status with
  | some after => (1, after)
  | none => (0, table)

/-- The answer and the table after a test of an event. -/
def tested
    (table : EventTable)
    (handle : UInt32) :
    UInt32 × EventTable :=
  (flagWord (table.test handle).1, (table.test handle).2)

/-- The answer and the table after an event has been opened. -/
def opened
    (table : EventTable)
    (event : Event) :
    UInt32 × EventTable :=
  (table.open? event).getD (refusal, table)

/-- The answer of a call, where it has one, and the table after it. -/
def perform
    (table : EventTable) :
    EventCall → Option UInt32 × EventTable
  | .opens eventClass specification handler =>
      (table.opened ⟨eventClass, specification, Event.readyMode, handler, .waiting⟩).map some id
  | .closes handle => (table.updated handle .unused).map some id
  | .enables handle => (table.updated handle .active).map some id
  | .disables handle => (table.updated handle .waiting).map some id
  | .tests handle | .waits handle => (table.tested handle).map some id
  | call => (none, table.deliverAll call.deliveries)

end EventTable

namespace Machine

/-- The machine with other events. -/
def withEvents
    (machine : Machine)
    (events : EventTable) :
    Machine :=
  { machine with firmware := { machine.firmware with events := events } }

end Machine

namespace Action

/-! ## Running a call -/

/-- A call through table B runs the function it asks for and returns to its caller. -/
theorem run_serveTrap_of_asks
    {machine : Machine}
    {function : KernelFunction}
    (asks : EventCall.Asks machine function)
    (step : Action Unit) :
    (serveTrap step .tableB).run machine = (callKernel step function).run machine.atCaller := by
  have entered := Execution.run_serveTrap_tableB ⟨.trap 0, machine⟩ step
  rw [entered, Execution.function, asks]

/-- The exception trap serves an interrupt when that is the cause. -/
theorem run_serveTrap_of_interrupt
    {machine : Machine}
    (isInterrupt : machine.cpu.system.causeCode = ExceptionCause.interrupt.code)
    (step : Action Unit) :
    (serveTrap step .exception).run machine =
      (serveInterrupt step (machine.cpu.system.get SystemRegisters.returnAddress)).run
        machine := by
  have entered := Execution.run_serveTrap_exception ⟨.trap 0, machine⟩ step
  rw [Execution.causeCode, if_pos isInterrupt] at entered
  exact entered

/-- The calls which change the status of an event, on the table of events. -/
theorem run_updateEvent (status : EventStatus) (machine : Machine) :
    let handle := machine.cpu.registers.get Reg.a0
    let answered := machine.firmware.events.updated handle status
    (updateEvent status).run machine = (result answered.1).run (machine.withEvents answered.2) := by
  intro handle answered
  rw [updateEvent, EStateM.run_bind, run_argument_zero]
  simp only [EStateM.run_bind, run_ofFirmware, answered, EventTable.updated]
  cases machine.firmware.events.update? handle status with
  | some after => rfl
  | none => rfl

/-- The calls which look at an event, on the table of events. -/
theorem run_testEvent (machine : Machine) :
    let handle := machine.cpu.registers.get Reg.a0
    let answered := machine.firmware.events.tested handle
    testEvent.run machine = (result answered.1).run (machine.withEvents answered.2) :=
  rfl

theorem run_argument_two (machine : Machine) :
    (argument 2).run machine = .ok (machine.cpu.registers.get Reg.a2) machine :=
  rfl

theorem run_argument_three (machine : Machine) :
    (argument 3).run machine = .ok (machine.cpu.registers.get Reg.a3) machine :=
  rfl

/-- The opening of an event, on the table of events. -/
theorem run_openEvent (machine : Machine) :
    let registers := machine.cpu.registers
    let event : Event :=
      ⟨registers.get Reg.a0, registers.get Reg.a1, registers.get Reg.a2, registers.get Reg.a3,
        .waiting⟩
    let answered := machine.firmware.events.opened event
    openEvent.run machine = (result answered.1).run (machine.withEvents answered.2) := by
  rw [openEvent, EStateM.run_bind, run_argument_zero]
  simp only [EStateM.run_bind, run_argument_one, run_argument_two, run_argument_three,
    run_ofFirmware, EventTable.opened]
  generalize machine.firmware.events.open? _ = answered
  cases answered with
  | some found => rfl
  | none => rfl

/-- Delivering to the event in a slot marks it ready if it fits. -/
theorem run_deliverTo_andThen
    (step : Action Unit)
    (eventClass specification : UInt32)
    {machine : Machine}
    {earlier later : List Event}
    {event : Event}
    (held : machine.firmware.events.slots = earlier ++ event :: later)
    (readied : event.mode = Event.readyMode)
    (andThen : Action Unit) :
    (if event.receives eventClass specification then do
        deliverTo step earlier.length event
        andThen
      else
        andThen).run machine =
      andThen.run
        (machine.withEvents
          ⟨earlier ++ event.receive eventClass specification :: later⟩) := by
  unfold Event.receive
  split
  · have notCallback : ¬ event.mode = Event.callbackMode := by
      rw [readied]
      decide
    have marked :
        machine.firmware.events.setStatus earlier.length .ready =
          ⟨earlier ++ { event with status := .ready } :: later⟩ := by
      rw [EventTable.setStatus, held]
      exact congrArg EventTable.mk
        (List.modifyTailIdx_add (List.modifyHead _) 0 earlier (event :: later))
    rw [deliverTo, if_neg notCallback, if_pos readied, EStateM.run_bind, run_modifyFirmware,
      marked]
    rfl
  · rw [← held]
    rfl

/--
A delivery to the later slots of the table, when no event of them has a handler to run:
each slot receives it in turn.
-/
theorem run_deliverAmong
    (step : Action Unit)
    (eventClass specification : UInt32)
    {machine : Machine}
    {earlier later : List Event}
    (held : machine.firmware.events.slots = earlier ++ later)
    (allReadied : ∀ event ∈ later, event.mode = Event.readyMode) :
    (deliverAmong step eventClass specification
        (List.range' earlier.length later.length)).run machine =
      .ok ()
        (machine.withEvents
          ⟨earlier ++ later.map fun event => event.receive eventClass specification⟩) := by
  induction later generalizing machine earlier with
  | nil =>
      rw [List.map_nil, ← held]
      rfl
  | cons event later inductionHypothesis =>
      have found : machine.firmware.events.get? earlier.length = some event := by
        rw [EventTable.get?, held, List.getElem?_append_right (Nat.le_refl _), Nat.sub_self]
        rfl
      have readied := allReadied event List.mem_cons_self
      have laterReadied : ∀ event ∈ later, event.mode = Event.readyMode :=
        fun event member => allReadied event (List.mem_cons_of_mem _ member)
      have rest :=
        @inductionHypothesis
          (machine.withEvents ⟨earlier ++ event.receive eventClass specification :: later⟩)
          (earlier ++ [event.receive eventClass specification])
          (List.append_cons _ _ _) laterReadied
      rw [List.length_append, List.append_assoc] at rest
      rw [List.length_cons, List.range'_succ, deliverAmong, EStateM.run_bind, run_ofFirmware]
      simp only [found]
      rw [run_deliverTo_andThen step eventClass specification held readied]
      exact rest

/-- A delivery to the whole table, when no event has a handler to run. -/
theorem run_deliverEvent
    (step : Action Unit)
    {machine : Machine}
    (allReadied : machine.firmware.events.AllReadied)
    (eventClass specification : UInt32) :
    (deliverEvent step eventClass specification).run machine =
      .ok ()
        (machine.withEvents
          (machine.firmware.events.deliver eventClass specification)) := by
  rw [deliverEvent, EStateM.run_bind, run_ofFirmware]
  simp only
  rw [List.range_eq_range']
  exact run_deliverAmong step eventClass specification (List.nil_append _).symm allReadied

/-- The interrupts of the counters are deliveries, one for each pending line. -/
theorem run_deliverPending
    (step : Action Unit)
    (pending : Lines)
    (counters : List Nat)
    {machine : Machine}
    (allReadied : machine.firmware.events.AllReadied) :
    (deliverPending step pending counters).run machine =
      .ok ()
        (machine.withEvents
          (machine.firmware.events.deliverAll
            ((counters.filter fun counter => pending.contains (counterLine counter)).map
              fun counter =>
                (counterEventClass + UInt32.ofNat counter, interruptSpecification)))) := by
  induction counters generalizing machine with
  | nil => rfl
  | cons counter rest inductionHypothesis =>
      unfold deliverPending
      by_cases isPending : pending.contains (counterLine counter)
      · rw [if_pos isPending, EStateM.run_bind, run_deliverEvent step allReadied]
        simp only [List.filter_cons, if_pos isPending]
        exact inductionHypothesis (allReadied.deliver _ _)
      · rw [if_neg isPending]
        simp only [List.filter_cons, if_neg isPending]
        exact inductionHypothesis allReadied

/-- A call comes back, with the answer and the table that it is meant to give. -/
def Performs
    (step : Action Unit)
    (machine : Machine)
    (call : EventCall)
    (performed : Option UInt32 × EventTable) :
    Prop :=
  ∃ after,
    (serveTrap step call.trap).run machine = .ok () after ∧
      after.firmware.events = performed.2 ∧
      ∀ answer, performed.1 = some answer → after.cpu.registers.get Reg.v0 = answer

/-- A call which ends by answering with a word performs what the table answers. -/
theorem performs_of_result
    {step : Action Unit}
    {machine : Machine}
    {call : EventCall}
    {answered : UInt32 × EventTable}
    (ran :
      (serveTrap step call.trap).run machine =
        (result answered.1).run (machine.atCaller.withEvents answered.2)) :
    Performs step machine call (answered.map some id) := by
  refine ⟨_, ran, rfl, ?_⟩
  intro answer isAnswer
  rw [← Option.some.inj isAnswer]
  exact Registers.get_set_self _ (by decide) _

/-- The calls which change the status perform the change of the table. -/
theorem performs_updateEvent
    {machine : Machine}
    {function : KernelFunction}
    {handle : UInt32}
    (asks : EventCall.AsksFor machine function handle)
    {step : Action Unit}
    {status : EventStatus}
    (updates : callKernel step function = updateEvent status)
    {call : EventCall}
    (isTable : call.trap = .tableB) :
    Performs step machine call
      ((machine.firmware.events.updated handle status).map some id) := by
  apply performs_of_result
  rw [isTable, run_serveTrap_of_asks asks.1, updates, ← asks.2]
  exact run_updateEvent status machine.atCaller

/-- The calls which look at an event perform the look at the table. -/
theorem performs_testEvent
    {machine : Machine}
    {function : KernelFunction}
    {handle : UInt32}
    (asks : EventCall.AsksFor machine function handle)
    {step : Action Unit}
    (tests : callKernel step function = testEvent)
    {call : EventCall}
    (isTable : call.trap = .tableB) :
    Performs step machine call ((machine.firmware.events.tested handle).map some id) := by
  apply performs_of_result
  rw [isTable, run_serveTrap_of_asks asks.1, tests, ← asks.2]
  exact run_testEvent machine.atCaller

/-- Every call that is made comes back. -/
theorem performs
    {machine : Machine}
    {call : EventCall}
    (allReadied : machine.firmware.events.AllReadied)
    (isMade : call.IsMade machine)
    (step : Action Unit) :
    Performs step machine call (machine.firmware.events.perform call) := by
  cases call with
  | opens eventClass specification handler =>
      obtain ⟨⟨asks, rfl⟩, rfl, isMode, rfl⟩ := isMade
      apply performs_of_result
      change (serveTrap step .tableB).run machine = _
      rw [run_serveTrap_of_asks asks, ← isMode]
      exact run_openEvent machine.atCaller
  | closes handle => exact performs_updateEvent isMade rfl rfl
  | enables handle => exact performs_updateEvent isMade rfl rfl
  | disables handle => exact performs_updateEvent isMade rfl rfl
  | tests handle => exact performs_testEvent isMade rfl rfl
  | waits handle => exact performs_testEvent isMade rfl rfl
  | delivers eventClass specification =>
      obtain ⟨⟨asks, rfl⟩, rfl⟩ := isMade
      refine
        ⟨machine.atCaller.withEvents (machine.firmware.events.deliver _ _), ?_, rfl, nofun⟩
      change (serveTrap step .tableB).run machine = _
      rw [run_serveTrap_of_asks asks]
      have readied : machine.atCaller.firmware.events.AllReadied := allReadied
      exact run_deliverEvent step readied _ _
  | interrupts pending =>
      obtain ⟨isInterrupt, rfl⟩ := isMade
      have readied : machine.contextKept.firmware.events.AllReadied := allReadied
      have delivered :=
        run_deliverPending step machine.bus.interrupts.pending deliveryOrder readied
      have served := run_serveTrap_of_interrupt isInterrupt step
      rw [run_serveInterrupt, delivered] at served
      simp only at served
      split at served
      · rw [run_restoreContext] at served
        exact ⟨_, served, rfl, nofun⟩
      · exact ⟨_, served, rfl, nofun⟩

end Action

end PsxPlayer
