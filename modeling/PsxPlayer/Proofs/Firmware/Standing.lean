import PsxPlayer.Proofs.Cpu.Standing

namespace PsxPlayer

/-!
# Where a firmware service leaves the machine

A function of the firmware goes back to its caller and does no more to where the
machine stands, but for three: a saved context and a return from an exception go on
elsewhere, and a delivery calls guest functions.  An exception goes on behind the
instruction that raised it.
-/

/-- The program counter is apart from the general purpose registers. -/
theorem Registers.get_pc (registers : Registers) (pc : UInt32) (register : Reg) :
    ({ registers with pc := pc } : Registers).get register = registers.get register :=
  rfl

/-- The registers once a saved context has been loaded. -/
def Bus.contextAt (bus : Bus) (address : UInt32) : List Reg → Registers → Registers
  | [], registers => registers
  | register :: rest, registers =>
      bus.contextAt (address + 4) rest (registers.set register (bus.read .word address))

namespace Bus

variable (bus : Bus)

/-- A saved context does not change the registers that it does not hold. -/
theorem get_contextAt_of_notMem
    {register : Reg}
    {loaded : List Reg}
    (missing : register ∉ loaded)
    (address : UInt32)
    (registers : Registers) :
    (bus.contextAt address loaded registers).get register = registers.get register := by
  induction loaded generalizing address registers with
  | nil => rfl
  | cons first rest inductionHypothesis =>
      rw [List.mem_cons, not_or] at missing
      rw [contextAt, inductionHypothesis missing.2,
        Registers.get_set_of_ne _ (Ne.symm missing.1)]

/-- The return address is the first word of a saved context. -/
theorem ra_contextAt (address : UInt32) (registers : Registers) :
    (bus.contextAt address contextRegisters registers).get Reg.ra =
      bus.read .word address := by
  have split : contextRegisters = Reg.ra :: contextRegisters.tail := rfl
  rw [split, contextAt, get_contextAt_of_notMem _ (by decide),
    Registers.get_set_self _ (by decide)]

end Bus

namespace Machine

/-- A fetch changes no general purpose register. -/
theorem get_fetched (machine : Machine) (register : Reg) :
    machine.fetched.cpu.registers.get register = machine.cpu.registers.get register := by
  rw [fetched, withRegisters_registers, Registers.get_pc]

/-- The machine that goes on where a context was saved. -/
def restored (machine : Machine) (address value : UInt32) : Machine :=
  machine.withRegisters
    { (machine.bus.contextAt address contextRegisters machine.cpu.registers).set Reg.v0
        value with
      pc := machine.bus.read .word address }

/-- A register that no context holds is as it was when one is restored. -/
theorem get_restored
    (machine : Machine)
    {register : Reg}
    (unsaved : register ∉ contextRegisters)
    (differs : Reg.v0 ≠ register)
    (address value : UInt32) :
    (machine.restored address value).cpu.registers.get register =
      machine.cpu.registers.get register := by
  rw [restored, withRegisters_registers, Registers.get_pc,
    Registers.get_set_of_ne _ differs, Bus.get_contextAt_of_notMem _ unsaved]

/-- A context is restored with a value in v0. -/
theorem v0_restored (machine : Machine) (address value : UInt32) :
    (machine.restored address value).cpu.registers.get Reg.v0 = value := by
  rw [restored, withRegisters_registers, Registers.get_pc,
    Registers.get_set_self _ (by decide)]

/--
Restoring a context changes where the processor goes on, and nothing else of its
standing.
-/
@[simp]
theorem standing_restored (machine : Machine) (address value : UInt32) :
    (machine.restored address value).standing =
      { machine.standing with pc := machine.bus.read .word address } :=
  rfl

/-- Restoring a context sets no mark. -/
@[simp]
theorem marks_restored (machine : Machine) (address value : UInt32) :
    (machine.restored address value).marks = machine.marks :=
  rfl

/-- Back at the caller the standing is the same, but for the program counter. -/
@[simp]
theorem standing_atCaller (machine : Machine) :
    machine.atCaller.standing =
      { machine.standing with pc := machine.cpu.registers.get Reg.ra } :=
  rfl

/-- The machine at the address to which an interrupt returns. -/
def resumed (machine : Machine) (address : UInt32) : Machine :=
  (machine.withRegisters { machine.cpu.registers with pc := address }).withSystem
    machine.cpu.system.popMode

/-- The address to which the firmware returns from an exception. -/
def exceptionReturn (machine : Machine) : UInt32 :=
  let address := machine.cpu.system.get SystemRegisters.returnAddress
  if machine.cpu.system.get SystemRegisters.cause &&& SystemRegisters.delaySlotBit ≠ 0 then
    address + 4
  else
    address

/-- The machine after the firmware has returned from an exception. -/
def exceptionLeft (machine : Machine) : Machine :=
  { machine with
    firmware := { machine.firmware with savedContext? := none }
    cpu :=
      { machine.cpu with
        registers :=
          { machine.firmware.savedContext?.getD machine.cpu.registers with
            pc := machine.exceptionReturn }
        system := machine.cpu.system.popMode } }

end Machine

namespace Action

/-- Reading a context loads the registers in order. -/
theorem run_readContext (address : UInt32) (loaded : List Reg) (machine : Machine) :
    (readContext address loaded).run machine =
      .ok ()
        (machine.withRegisters
          (machine.bus.contextAt address loaded machine.cpu.registers)) := by
  induction loaded generalizing address machine with
  | nil => rfl
  | cons register rest inductionHypothesis =>
      rw [readContext, EStateM.run_bind, run_read]
      simp only
      rw [EStateM.run_bind, run_setReg]
      exact inductionHypothesis (address + 4) _

/-- Restoring a context is the jump back to where it was saved. -/
theorem run_restoreContext (address value : UInt32) (machine : Machine) :
    (restoreContext address value).run machine =
      .ok () (machine.restored address value) := by
  rw [restoreContext, EStateM.run_bind, run_readContext]
  simp only [result, returnToCaller, EStateM.run_bind, run_setReg, run_getReg, run_setPc,
    Machine.withRegisters_registers]
  rw [Registers.get_set_of_ne _ (by decide), Bus.ra_contextAt, Machine.restored]
  generalize machine.bus.contextAt address contextRegisters machine.cpu.registers = loaded
  generalize machine.bus.read .word address = target
  rfl

/-- The firmware returns from an exception with the registers that it has kept. -/
theorem run_returnFromException (machine : Machine) :
    returnFromException.run machine = .ok () machine.exceptionLeft := by
  rw [returnFromException, EStateM.run_bind, run_ofFirmware]
  simp only
  cases kept : machine.firmware.savedContext? with
  | some registers =>
      simp only [EStateM.run_bind, run_modifyFirmware, run_modifyRegisters]
      simp only [Machine.exceptionLeft, kept]
      rfl
  | none =>
      have sameFirmware :
          { machine.firmware with savedContext? := none } = machine.firmware := by
        rw [← kept]
      simp only [Machine.exceptionLeft, kept, sameFirmware]
      rfl

/-- The firmware goes on at its hook if there is one, and behind the interrupt if not. -/
theorem run_goOn (returnAddress : UInt32) (machine : Machine) :
    (goOn returnAddress).run machine =
      .ok ()
        (if machine.firmware.hook ≠ 0 then
          machine.restored machine.firmware.hook 1
        else
          machine.resumed returnAddress) := by
  rw [goOn, EStateM.run_bind, run_ofFirmware]
  simp only
  split
  · exact run_restoreContext _ _ machine
  · rfl

/-- Answering a call stays where it is. -/
theorem staysPut_result (value : UInt32) : StaysPut (result value) :=
  staysPut_setReg _ _

/-- Reading an argument stays where it is. -/
theorem staysPut_argument (index : Nat) : StaysPut (argument index) :=
  staysPut_getReg _

theorem staysPut_lengthArgument (index : Nat) : StaysPut (lengthArgument index) :=
  .bind (staysPut_argument index) fun _ => .pure _

theorem staysPut_textArgument (index : Nat) : StaysPut (textArgument index) :=
  .bind (staysPut_argument index) fun _ => staysPut_ofBus _

/-- Writing a context stays where it is. -/
theorem staysPut_writeContext (address : UInt32) (registers : List Reg) :
    StaysPut (writeContext address registers) := by
  induction registers generalizing address with
  | nil => exact .pure ()
  | cons register rest inductionHypothesis =>
      exact .bind (staysPut_getReg _) fun _ =>
        .bind (staysPut_write _ _ _) fun _ => inductionHypothesis _

/-- Filling memory stays where it is. -/
theorem staysPut_fillBytes (value address : UInt32) (count : Nat) :
    StaysPut (fillBytes value address count) := by
  induction count generalizing address with
  | zero => exact .pure ()
  | succ count inductionHypothesis =>
      exact .bind (staysPut_write _ _ _) fun _ => inductionHypothesis _

/-- Copying memory stays where it is. -/
theorem staysPut_copyBytes (target source : UInt32) (count : Nat) :
    StaysPut (copyBytes target source count) := by
  induction count generalizing target source with
  | zero => exact .pure ()
  | succ count inductionHypothesis =>
      exact .bind (staysPut_read _ _) fun _ =>
        .bind (staysPut_write _ _ _) fun _ => inductionHypothesis _ _

/-- Writing bytes stays where it is. -/
theorem staysPut_writeBytes (address : UInt32) (bytes : List UInt8) :
    StaysPut (writeBytes address bytes) := by
  induction bytes generalizing address with
  | nil => exact .pure ()
  | cons byte rest inductionHypothesis =>
      exact .bind (staysPut_write _ _ _) fun _ => inductionHypothesis _

theorem staysPut_fillBlock (value : UInt32) (length : Nat) :
    StaysPut (fillBlock value length) :=
  .bind (staysPut_argument 0) fun _ =>
    .bind (staysPut_fillBytes _ _ _) fun _ => staysPut_result _

/-- A library function stays put unless it goes back to a saved context. -/
theorem staysPut_callLibrary
    {function : LibraryFunction}
    (other : function ≠ .restoreContext) :
    StaysPut (callLibrary function) := by
  cases function with
  | saveContext =>
      exact .bind (staysPut_argument 0) fun _ =>
        .bind (staysPut_writeContext _ _) fun _ => staysPut_result _
  | restoreContext => exact absurd rfl other
  | compareText =>
      exact .bind (staysPut_textArgument 0) fun _ =>
        .bind (staysPut_textArgument 1) fun _ => staysPut_result _
  | copyText =>
      exact .bind (staysPut_argument 0) fun _ =>
        .bind (staysPut_textArgument 1) fun _ =>
          .bind (staysPut_writeBytes _ _) fun _ => staysPut_result _
  | textLength => exact .bind (staysPut_textArgument 0) fun _ => staysPut_result _
  | clearBlock => exact .bind (staysPut_lengthArgument 1) fun _ => staysPut_fillBlock _ _
  | copyBlock =>
      exact .bind (staysPut_argument 0) fun _ =>
        .bind (staysPut_argument 1) fun _ =>
          .bind (staysPut_lengthArgument 2) fun _ =>
            .bind (staysPut_copyBytes _ _ _) fun _ => staysPut_result _
  | fillBlock =>
      exact .bind (staysPut_argument 1) fun _ =>
        .bind (staysPut_lengthArgument 2) fun _ => staysPut_fillBlock _ _
  | moveBlock =>
      exact .bind (staysPut_argument 0) fun _ =>
        .bind (staysPut_argument 1) fun _ =>
          .bind (staysPut_lengthArgument 2) fun _ =>
            .bind (staysPut_ofBus _) fun _ =>
              .bind (staysPut_writeBytes _ _) fun _ => staysPut_result _
  | random =>
      exact .bind (staysPut_modifyFirmware fun _ => rfl) fun _ =>
        .bind (staysPut_ofFirmware _) fun _ => staysPut_result _
  | seedRandom =>
      exact .bind (staysPut_argument 0) fun _ => staysPut_modifyFirmware fun _ => rfl
  | allocate =>
      refine .bind (staysPut_argument 0) fun _ =>
        .bind (staysPut_ofFirmware _) fun found => ?_
      cases found with
      | some allocated =>
          exact .bind (staysPut_modifyFirmware fun _ => rfl) fun _ => staysPut_result _
      | none => exact staysPut_result _
  | release =>
      exact .bind (staysPut_argument 0) fun _ => staysPut_modifyFirmware fun _ => rfl
  | startHeap =>
      exact .bind (staysPut_argument 0) fun _ =>
        .bind (staysPut_argument 1) fun _ => staysPut_modifyFirmware fun _ => rfl
  | printFormat =>
      exact .bind (staysPut_ofCpu _) fun _ =>
        .bind (staysPut_ofBus _) fun _ =>
          .bind (staysPut_print _) fun _ => staysPut_result _
  | flushCache => exact .pure ()

theorem staysPut_counterArgument : StaysPut counterArgument :=
  .bind (staysPut_argument 0) fun _ => .pure _

/-- Programming a counter stays where it is. -/
theorem staysPut_setCounter : StaysPut setCounter :=
  .bind staysPut_counterArgument fun _ =>
    .bind (staysPut_argument 1) fun _ =>
      .bind (staysPut_argument 2) fun _ =>
        .ite
          (fun _ => .bind (staysPut_modifyBus _) fun _ => staysPut_result _)
          fun _ => staysPut_result _

theorem staysPut_readCounter : StaysPut readCounter :=
  .bind staysPut_counterArgument fun _ =>
    .ite (fun _ => .bind (staysPut_ofBus _) fun _ => staysPut_result _) fun _ =>
      staysPut_result _

theorem staysPut_resetCounter : StaysPut resetCounter :=
  .bind staysPut_counterArgument fun _ =>
    .ite (fun _ => .bind (staysPut_modifyBus _) fun _ => staysPut_result _) fun _ =>
      staysPut_result _

theorem staysPut_enableCounter (enable : Bool) : StaysPut (enableCounter enable) :=
  .bind staysPut_counterArgument fun _ =>
    .bind (staysPut_modifyBus _) fun _ => staysPut_result _

/-- Opening an event stays where it is. -/
theorem staysPut_openEvent : StaysPut openEvent := by
  refine .bind (staysPut_argument 0) fun _ => .bind (staysPut_argument 1) fun _ =>
    .bind (staysPut_argument 2) fun _ => .bind (staysPut_argument 3) fun _ =>
      .bind (staysPut_ofFirmware _) fun found => ?_
  cases found with
  | some opened =>
      exact .bind (staysPut_modifyFirmware fun _ => rfl) fun _ => staysPut_result _
  | none => exact staysPut_result _

/-- Changing an event stays where it is. -/
theorem staysPut_updateEvent (status : EventStatus) : StaysPut (updateEvent status) := by
  refine .bind (staysPut_argument 0) fun _ => .bind (staysPut_ofFirmware _) fun found => ?_
  cases found with
  | some updated =>
      exact .bind (staysPut_modifyFirmware fun _ => rfl) fun _ => staysPut_result _
  | none => exact staysPut_result _

theorem staysPut_testEvent : StaysPut testEvent :=
  .bind (staysPut_argument 0) fun _ =>
    .bind (staysPut_ofFirmware _) fun _ =>
      .bind (staysPut_modifyFirmware fun _ => rfl) fun _ => staysPut_result _

theorem staysPut_printChar (char : Char) : StaysPut (printChar char) :=
  .ite
    (fun _ =>
      .bind (staysPut_ofFirmware _) fun _ =>
        .bind (staysPut_print _) fun _ => staysPut_modifyFirmware fun _ => rfl)
    fun _ => staysPut_modifyFirmware fun _ => rfl

/-- Marking an event as ready stays put; its handler is not called here. -/
theorem staysPut_deliverTo
    {event : Event}
    (uncalled : ¬(event.mode = Event.callbackMode ∧ event.handler ≠ 0))
    (step : Action Unit)
    (slot : Nat) :
    StaysPut (deliverTo step slot event) :=
  .ite
    (fun callback =>
      .ite (fun handled => absurd ⟨callback, handled⟩ uncalled) fun _ => .pure ())
    fun _ =>
      .ite (fun _ => staysPut_modifyFirmware fun _ => rfl) fun _ => .pure ()

/-- The first argument is in `a0`. -/
theorem run_argument_zero (machine : Machine) :
    (argument 0).run machine = .ok (machine.cpu.registers.get Reg.a0) machine :=
  rfl

/-- The second argument is in `a1`. -/
theorem run_argument_one (machine : Machine) :
    (argument 1).run machine = .ok (machine.cpu.registers.get Reg.a1) machine :=
  rfl

/-- The long jump goes back to the context that its first argument names. -/
theorem run_callLibrary_restoreContext (machine : Machine) :
    (callLibrary .restoreContext).run machine =
      .ok ()
        (machine.restored (machine.cpu.registers.get Reg.a0)
          (machine.cpu.registers.get Reg.a1)) := by
  rw [callLibrary, EStateM.run_bind, run_argument_zero]
  simp only
  rw [EStateM.run_bind, run_argument_one]
  exact run_restoreContext _ _ machine

/-- A kernel function stays put unless it delivers an event or leaves an exception. -/
theorem staysPut_callKernel
    {function : KernelFunction}
    (noDelivery : function ≠ .deliverEvent)
    (noReturn : function ≠ .returnFromException)
    (step : Action Unit) :
    StaysPut (callKernel step function) := by
  cases function with
  | setCounter => exact staysPut_setCounter
  | readCounter => exact staysPut_readCounter
  | startCounter => exact staysPut_enableCounter true
  | stopCounter => exact staysPut_enableCounter false
  | resetCounter => exact staysPut_resetCounter
  | deliverEvent => exact absurd rfl noDelivery
  | openEvent => exact staysPut_openEvent
  | closeEvent => exact staysPut_updateEvent _
  | waitEvent => exact staysPut_testEvent
  | testEvent => exact staysPut_testEvent
  | enableEvent => exact staysPut_updateEvent _
  | disableEvent => exact staysPut_updateEvent _
  | returnFromException => exact absurd rfl noReturn
  | unhookReturn =>
      have unhooked :
          StaysPut (modifyFirmware fun firmware => { firmware with hook := 0 }) :=
        staysPut_modifyFirmware fun _ => rfl
      exact unhooked
  | hookReturn =>
      exact .bind (staysPut_argument 0) fun _ => staysPut_modifyFirmware fun _ => rfl
  | printChar =>
      exact .bind (staysPut_argument 0) fun _ =>
        .bind (staysPut_printChar _) fun _ => staysPut_result _
  | printLine =>
      exact .bind (staysPut_argument 0) fun _ =>
        .bind (staysPut_ofBus _) fun _ => staysPut_print _

theorem staysPut_setClearFlag : StaysPut setClearFlag :=
  .bind staysPut_counterArgument fun _ =>
    .bind (staysPut_argument 1) fun _ =>
      .bind (staysPut_ofFirmware _) fun _ =>
        .bind (staysPut_modifyFirmware fun _ => rfl) fun _ => staysPut_result _

section

variable {execution : Execution}

/-- What stays put after the return to the caller leaves the machine there. -/
theorem StaysPut.leavesBehind_atCaller
    {action : Action Unit}
    (stays : StaysPut action)
    (called : execution.CallsTable) :
    execution.LeavesBehind (action.run execution.machine.atCaller) := by
  have left
      {after : Machine}
      (same : after.control = execution.machine.atCaller.control) :
      execution.Leaves after.standing ∧ after.marks = execution.machine.marks := by
    have sameStanding : after.standing = execution.machine.atCaller.standing :=
      congrArg Prod.fst same
    exact ⟨sameStanding ▸ .tableReturned called, congrArg Prod.snd same⟩
  have same := stays execution.machine.atCaller
  cases ran : action.run execution.machine.atCaller with
  | ok value after =>
      rw [ran] at same
      exact left same
  | error fault failed =>
      rw [ran] at same
      exact ⟨same.1, left same.2⟩

/-- A system call is granted before the firmware goes on behind it. -/
theorem exception_outcome
    (called : execution.trap? = some .exception)
    (noInterrupt : execution.causeCode ≠ ExceptionCause.interrupt.code)
    (step : Action Unit) :
    ∃ after,
      (serveTrap step .exception).run execution.machine = .ok () after ∧
        execution.Leaves after.standing ∧
        after.marks = execution.machine.marks := by
  have left := Execution.Leaves.exceptionServed called noInterrupt
  rw [Execution.run_serveTrap_exception, if_neg noInterrupt]
  unfold Execution.granted at left
  split
  · next call =>
      simp only [if_pos call] at left
      rw [systemCall, EStateM.run_bind, EStateM.run_bind]
      simp only [run_argument_zero]
      by_cases enters : execution.machine.cpu.registers.get Reg.a0 = 1
      · simp only [if_pos enters] at left ⊢
        exact ⟨_, rfl, left, rfl⟩
      · by_cases leaves : execution.machine.cpu.registers.get Reg.a0 = 2
        · simp only [if_neg enters, if_pos leaves] at left ⊢
          exact ⟨_, rfl, left, rfl⟩
        · simp only [if_neg enters, if_neg leaves] at left ⊢
          exact ⟨_, rfl, left, rfl⟩
  · next other =>
      simp only [if_neg other] at left
      exact ⟨_, rfl, left, rfl⟩

/-- What a library call leaves behind it. -/
theorem leavesBehind_tableA
    (called : execution.trap? = some .tableA)
    (step : Action Unit) :
    execution.LeavesBehind ((serveTrap step .tableA).run execution.machine) := by
  have noReturn : ¬execution.CallsKernel .returnFromException := by
    rintro ⟨other, -⟩
    rw [called] at other
    cases other
  have isTable {function? : Option LibraryFunction}
      (named : LibraryFunction.ofNumber? execution.function = function?)
      (noContext : function? ≠ some .restoreContext) :
      execution.CallsTable :=
    ⟨.inl called, fun restores => noContext (named.symm.trans restores.2), noReturn⟩
  rw [Execution.run_serveTrap_tableA]
  cases named : LibraryFunction.ofNumber? execution.function with
  | none => exact (staysPut_result 0).leavesBehind_atCaller (isTable named (by simp))
  | some function =>
      simp only
      by_cases restores : function = .restoreContext
      · subst restores
        have left := Execution.Leaves.contextRestored ⟨called, named⟩
        rw [run_callLibrary_restoreContext]
        refine ⟨?_, execution.machine.atCaller.marks_restored _ _⟩
        rw [Machine.standing_restored, Machine.standing_atCaller]
        exact left
      · exact (staysPut_callLibrary restores).leavesBehind_atCaller
          (isTable named (by simpa using restores))

/-- What a kernel call that runs no guest code leaves behind it. -/
theorem leavesBehind_tableB
    (called : execution.trap? = some .tableB)
    (noService : execution.guestService? = none)
    (step : Action Unit) :
    execution.LeavesBehind ((serveTrap step .tableB).run execution.machine) := by
  have noContext : ¬execution.RestoresContext := by
    rintro ⟨other, -⟩
    rw [called] at other
    cases other
  have isTable {function? : Option KernelFunction}
      (named : KernelFunction.ofNumber? execution.function = function?)
      (noReturn : function? ≠ some .returnFromException) :
      execution.CallsTable :=
    ⟨.inr (.inl called), noContext, fun calls => noReturn (named.symm.trans calls.2)⟩
  rw [Execution.run_serveTrap_tableB]
  cases named : KernelFunction.ofNumber? execution.function with
  | none => exact (staysPut_result 0).leavesBehind_atCaller (isTable named (by simp))
  | some function =>
      have noDelivery : function ≠ .deliverEvent := by
        rintro rfl
        simp [Execution.guestService?, Execution.CallsKernel, called, named] at noService
      simp only
      by_cases returns : function = .returnFromException
      · subst returns
        have ran :
            (callKernel step .returnFromException).run execution.machine.atCaller =
              .ok () execution.machine.atCaller.exceptionLeft :=
          run_returnFromException _
        rw [ran]
        refine ⟨.interruptLeft ⟨called, named⟩ execution.machine.exceptionReturn ?_, rfl⟩
        unfold Machine.exceptionReturn
        simp only
        split
        · exact .inr rfl
        · exact .inl rfl
      · exact (staysPut_callKernel noDelivery returns step).leavesBehind_atCaller
          (isTable named (by simpa using returns))

/-- What a trap leaves behind that calls no guest function. -/
theorem leavesBehind_serveTrap
    {trap : Trap}
    (called : execution.trap? = some trap)
    (noService : execution.guestService? = none)
    (step : Action Unit) :
    execution.LeavesBehind ((serveTrap step trap).run execution.machine) := by
  cases trap with
  | exception =>
      have noInterrupt : execution.causeCode ≠ ExceptionCause.interrupt.code := by
        intro interrupt
        rw [Execution.guestService?, if_pos ⟨called, interrupt⟩] at noService
        cases noService
      obtain ⟨after, ran, left⟩ := exception_outcome called noInterrupt step
      rw [ran]
      exact left
  | tableA => exact leavesBehind_tableA called step
  | tableB => exact leavesBehind_tableB called noService step
  | tableC =>
      have notOther {trap : Trap} (other : execution.trap? = some trap) : trap = .tableC :=
        Option.some.inj (other.symm.trans called)
      have isTable : execution.CallsTable := by
        refine ⟨.inr (.inr called), fun restores => ?_, fun calls => ?_⟩
        · cases notOther restores.1
        · cases notOther calls.1
      rw [Execution.run_serveTrap_tableC]
      split
      · exact staysPut_setClearFlag.leavesBehind_atCaller isTable
      · exact (staysPut_result 0).leavesBehind_atCaller isTable
  | callReturn =>
      exact StaysPut.leavesBehind (.pure ()) (by rw [called]; decide)

/-- What an execution leaves behind that nests no other. -/
theorem leavesBehind_executeAlone
    (untaken : execution.target? = none)
    (noService : execution.guestService? = none) :
    execution.LeavesBehind
      ((executeAlone execution.instruction).run execution.machine) := by
  by_cases plain : execution.instruction.isPlain = true
  · exact leavesBehind_of_isPlain plain _
  · by_cases transfers : execution.instruction.isTransfer = true
    · exact leavesBehind_of_untaken transfers untaken _
    · cases called : execution.trap? with
      | some trap =>
          rw [executeAlone, Execution.run_executeWith_of_trap called]
          exact leavesBehind_serveTrap called noService _
      | none =>
          cases same : execution.instruction <;>
            simp only [same, Instruction.isPlain, Instruction.isTransfer, Bool.not_true,
              Bool.not_false, not_true_eq_false] at plain transfers
          case trap code =>
            have unknown : Trap.ofCode? code = none := by
              simpa only [Execution.trap?, same] using called
            simp only [executeAlone, executeWith, unknown]
            exact StaysPut.leavesBehind (.pure ()) (by rw [called]; decide)

end

end Action

end PsxPlayer
