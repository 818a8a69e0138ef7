import PsxPlayer.Proofs.Cpu.Composed

namespace PsxPlayer

/-!
# What firmware services are composed of

A firmware service is composed of the steps of the guest functions that it calls, and
of what fetches nothing.
-/

/-! ## What services read -/

section

variable (bus : Bus) (recording : Recording)

/-- A text in guest memory does not depend on what has been recorded. -/
theorem textAt_withRecording (address : UInt32) (limit : Nat) :
    textAt (bus.withRecording recording) address limit = textAt bus address limit := by
  have appended (found : ByteArray) (address : UInt32) :
      appendText (bus.withRecording recording) address limit found =
        appendText bus address limit found := by
    induction limit generalizing found address with
    | zero => rfl
    | succ limit inductionHypothesis =>
        have sameByte :
            (bus.withRecording recording).readByte address = bus.readByte address :=
          rfl
        simp only [appendText, sameByte, inductionHypothesis]
  exact appended _ _

/-- Bytes in guest memory do not depend on what has been recorded. -/
theorem appendBytes_withRecording (address : UInt32) (count : Nat) (found : ByteArray) :
    Action.appendBytes (bus.withRecording recording) address count found =
      Action.appendBytes bus address count found := by
  induction count generalizing address found with
  | zero => rfl
  | succ count inductionHypothesis => exact inductionHypothesis _ _

/-- A formatted text does not depend on what has been recorded. -/
theorem render_withRecording (registers : Registers) :
    Format.render (bus.withRecording recording) registers = Format.render bus registers := by
  have displayed :
      Format.Directive.display (bus.withRecording recording) =
        Format.Directive.display bus := by
    funext directive value
    cases directive with
    | text => exact congrArg Utf8.decodeLossy (textAt_withRecording _ _ _ _)
    | _ => rfl
  have argued :
      Format.argumentOf (bus.withRecording recording) registers =
        Format.argumentOf bus registers :=
    rfl
  rw [Format.render, displayed, argued, textAt_withRecording]
  rfl

end

namespace Action

variable {part : Action Unit → Prop}

/-- Answering a call changes one register. -/
theorem composed_result (value : UInt32) : Composed part (result value) :=
  composed_setReg _ _

/-- An argument is read from its register. -/
theorem composed_argument (index : Nat) : Composed part (argument index) :=
  composed_getReg _

theorem composed_lengthArgument (index : Nat) : Composed part (lengthArgument index) :=
  .bind (composed_argument index) fun _ => .pure _

theorem composed_textArgument (index : Nat) : Composed part (textArgument index) :=
  .bind (composed_argument index) fun _ =>
    composed_ofBus fun _ _ => textAt_withRecording _ _ _ _

/-- Returning sets the program counter. -/
theorem composed_returnToCaller : Composed part returnToCaller :=
  .bind (composed_getReg _) fun _ => composed_setPc _

/-- Writing a context is storing one register after the other. -/
theorem composed_writeContext (address : UInt32) (registers : List Reg) :
    Composed part (writeContext address registers) := by
  induction registers generalizing address with
  | nil => exact .pure ()
  | cons register rest inductionHypothesis =>
      exact .bind (composed_getReg _) fun _ =>
        .bind (composed_write _ _ _) fun _ => inductionHypothesis _

/-- Reading a context is loading one register after the other. -/
theorem composed_readContext (address : UInt32) (registers : List Reg) :
    Composed part (readContext address registers) := by
  induction registers generalizing address with
  | nil => exact .pure ()
  | cons register rest inductionHypothesis =>
      exact .bind (composed_read _ _) fun _ =>
        .bind (composed_setReg _ _) fun _ => inductionHypothesis _

theorem composed_restoreContext (address value : UInt32) :
    Composed part (restoreContext address value) :=
  .bind (composed_readContext _ _) fun _ =>
    .bind (composed_result _) fun _ => composed_returnToCaller

/-- Filling memory is storing one byte after the other. -/
theorem composed_fillBytes (value address : UInt32) (count : Nat) :
    Composed part (fillBytes value address count) := by
  induction count generalizing address with
  | zero => exact .pure ()
  | succ count inductionHypothesis =>
      exact .bind (composed_write _ _ _) fun _ => inductionHypothesis _

/-- Copying memory is loading and storing one byte after the other. -/
theorem composed_copyBytes (target source : UInt32) (count : Nat) :
    Composed part (copyBytes target source count) := by
  induction count generalizing target source with
  | zero => exact .pure ()
  | succ count inductionHypothesis =>
      exact .bind (composed_read _ _) fun _ =>
        .bind (composed_write _ _ _) fun _ => inductionHypothesis _ _

/-- Writing bytes is storing one after the other. -/
theorem composed_writeBytes (address : UInt32) (bytes : List UInt8) :
    Composed part (writeBytes address bytes) := by
  induction bytes generalizing address with
  | nil => exact .pure ()
  | cons byte rest inductionHypothesis =>
      exact .bind (composed_write _ _ _) fun _ => inductionHypothesis _

theorem composed_fillBlock (value : UInt32) (length : Nat) :
    Composed part (fillBlock value length) :=
  .bind (composed_argument 0) fun _ =>
    .bind (composed_fillBytes _ _ _) fun _ => composed_result _

/-- No library function runs guest code. -/
theorem composed_callLibrary (function : LibraryFunction) :
    Composed part (callLibrary function) := by
  cases function with
  | saveContext =>
      exact .bind (composed_argument 0) fun _ =>
        .bind (composed_writeContext _ _) fun _ => composed_result _
  | restoreContext =>
      exact .bind (composed_argument 0) fun _ =>
        .bind (composed_argument 1) fun _ => composed_restoreContext _ _
  | compareText =>
      exact .bind (composed_textArgument 0) fun _ =>
        .bind (composed_textArgument 1) fun _ => composed_result _
  | copyText =>
      exact .bind (composed_argument 0) fun _ =>
        .bind (composed_textArgument 1) fun _ =>
          .bind (composed_writeBytes _ _) fun _ => composed_result _
  | textLength => exact .bind (composed_textArgument 0) fun _ => composed_result _
  | clearBlock => exact .bind (composed_lengthArgument 1) fun _ => composed_fillBlock _ _
  | copyBlock =>
      exact .bind (composed_argument 0) fun _ =>
        .bind (composed_argument 1) fun _ =>
          .bind (composed_lengthArgument 2) fun _ =>
            .bind (composed_copyBytes _ _ _) fun _ => composed_result _
  | fillBlock =>
      exact .bind (composed_argument 1) fun _ =>
        .bind (composed_lengthArgument 2) fun _ => composed_fillBlock _ _
  | moveBlock =>
      exact .bind (composed_argument 0) fun _ =>
        .bind (composed_argument 1) fun _ =>
          .bind (composed_lengthArgument 2) fun _ =>
            .bind (composed_ofBus fun _ _ => appendBytes_withRecording _ _ _ _ _) fun _ =>
              .bind (composed_writeBytes _ _) fun _ => composed_result _
  | random =>
      exact .bind (composed_modifyFirmware _) fun _ =>
        .bind (composed_ofFirmware _) fun _ => composed_result _
  | seedRandom =>
      exact .bind (composed_argument 0) fun _ => composed_modifyFirmware _
  | allocate =>
      refine .bind (composed_argument 0) fun _ => .bind (composed_ofFirmware _) fun found => ?_
      cases found with
      | some allocated =>
          exact .bind (composed_modifyFirmware _) fun _ => composed_result _
      | none => exact composed_result _
  | release => exact .bind (composed_argument 0) fun _ => composed_modifyFirmware _
  | startHeap =>
      exact .bind (composed_argument 0) fun _ =>
        .bind (composed_argument 1) fun _ => composed_modifyFirmware _
  | printFormat =>
      exact .bind (composed_ofCpu _) fun _ =>
        .bind (composed_ofBus fun _ _ => render_withRecording _ _ _) fun _ =>
          .bind (composed_print _) fun _ => composed_result _
  | flushCache => exact .pure ()

theorem composed_counterArgument : Composed part counterArgument :=
  .bind (composed_argument 0) fun _ => .pure _

/-- A change of the counters that leaves the clock is a command to the bus. -/
theorem composed_modifyCounters
    {change : CounterBank → CounterBank}
    (same : ∀ bank, (change bank).beyond = bank.beyond)
    (madeUp :
      IsMadeUp id (modify fun bus => { bus with counters := change bus.counters })) :
    Composed part (modifyCounters change) :=
  composed_modifyBus (fun bus => CounterBank.cycle_of_beyond (same bus.counters)) madeUp
    (Bus.isDeaf_modify (fun _ _ => rfl) (fun _ => rfl) fun _ =>
      ⟨rfl, CounterBank.vsyncRate_of_beyond (same _)⟩)

/-- Programming a counter writes its target and its mode. -/
theorem composed_setCounter : Composed part setCounter := by
  refine .bind composed_counterArgument fun counter =>
    .bind (composed_argument 1) fun target => .bind (composed_argument 2) fun mode => ?_
  refine .ite
    (fun _ =>
      .bind (composed_modifyCounters (fun bank => ?_) ?_) fun _ =>
        composed_result _)
    fun _ => composed_result _
  · rw [CounterBank.beyond_writeMode, CounterBank.beyond_writeTarget]
  · exact
      IsMadeUp.bind (.command (.writeCounter counter target .target)) fun _ =>
        .command (.writeCounter counter (counterMode counter mode) .mode)

theorem composed_readCounter : Composed part readCounter :=
  .bind composed_counterArgument fun _ =>
    .ite (fun _ => .bind (composed_ofBus fun _ _ => rfl) fun _ => composed_result _) fun _ =>
      composed_result _

/-- Clearing a counter writes its three registers. -/
theorem composed_resetCounter : Composed part resetCounter := by
  refine .bind composed_counterArgument fun counter => ?_
  refine .ite
    (fun _ =>
      .bind (composed_modifyCounters (fun bank => ?_) ?_) fun _ =>
        composed_result _)
    fun _ => composed_result _
  · rw [CounterBank.beyond_writeCount, CounterBank.beyond_writeTarget,
      CounterBank.beyond_writeMode]
  · exact
      IsMadeUp.bind (.command (.writeCounter counter 0 .mode)) fun _ =>
        IsMadeUp.bind (.command (.writeCounter counter 0 .target)) fun _ =>
          .command (.writeCounter counter 0 .count)

/-- What leaves counters and sound alone is composed of one command. -/
theorem composed_arrange
    {change : Bus → Bus}
    (same :
      ∀ bus : Bus,
        (change bus).counters = bus.counters ∧ (change bus).link = bus.link)
    (deaf : Bus.IsDeaf (modify change)) :
    Composed part (modifyBus change) :=
  composed_modifyBus (fun bus => congrArg CounterBank.cycle (same bus).1) (.arrange same) deaf

theorem composed_enableCounter (enable : Bool) : Composed part (enableCounter enable) :=
  .bind composed_counterArgument fun _ =>
    .bind
      (composed_arrange (fun _ => ⟨rfl, rfl⟩)
        (Bus.isDeaf_modify (fun _ _ => rfl) (fun _ => rfl) fun _ => ⟨rfl, rfl⟩))
      fun _ => composed_result _

/-- Opening an event changes the firmware only. -/
theorem composed_openEvent : Composed part openEvent := by
  refine .bind (composed_argument 0) fun _ => .bind (composed_argument 1) fun _ =>
    .bind (composed_argument 2) fun _ => .bind (composed_argument 3) fun _ =>
      .bind (composed_ofFirmware _) fun found => ?_
  cases found with
  | some opened => exact .bind (composed_modifyFirmware _) fun _ => composed_result _
  | none => exact composed_result _

theorem composed_updateEvent (status : EventStatus) : Composed part (updateEvent status) := by
  refine .bind (composed_argument 0) fun _ => .bind (composed_ofFirmware _) fun found => ?_
  cases found with
  | some updated => exact .bind (composed_modifyFirmware _) fun _ => composed_result _
  | none => exact composed_result _

theorem composed_testEvent : Composed part testEvent :=
  .bind (composed_argument 0) fun _ =>
    .bind (composed_ofFirmware _) fun _ =>
      .bind (composed_modifyFirmware _) fun _ => composed_result _

/-- Returning from an exception changes processor and firmware only. -/
theorem composed_returnFromException : Composed part returnFromException := by
  have returned :
      Composed part
        (do
          let inDelaySlot :=
            (← getSystem SystemRegisters.cause) &&& SystemRegisters.delaySlotBit ≠ 0
          let address ← getSystem SystemRegisters.returnAddress
          setPc (if inDelaySlot then address + 4 else address)
          modifySystem SystemRegisters.popMode) :=
    .bind (composed_ofCpu _) fun _ =>
      .bind (composed_ofCpu _) fun _ =>
        .bind (composed_setPc _) fun _ => composed_modifySystem _
  refine .bind (composed_ofFirmware _) fun saved => ?_
  cases saved with
  | some registers =>
      exact .bind (composed_modifyFirmware _) fun _ =>
        .bind (composed_modifyRegisters _) fun _ => returned
  | none => exact returned

theorem composed_printChar (char : Char) : Composed part (printChar char) :=
  .ite
    (fun _ =>
      .bind (composed_ofFirmware _) fun _ =>
        .bind (composed_print _) fun _ => composed_modifyFirmware _)
    fun _ => composed_modifyFirmware _

section

variable {step : Action Unit} (stepComposed : Composed part step)

include stepComposed

/-- Guest code runs step by step until it reaches its target. -/
theorem composed_runUntil (target : UInt32) (limit : Nat) :
    Composed part (runUntil step target limit) := by
  induction limit with
  | zero => exact .bind (composed_ofCpu fun cpu => cpu.registers.pc) fun _ => .pure _
  | succ limit inductionHypothesis =>
      exact .bind (composed_ofCpu fun cpu => cpu.registers.pc) fun _ =>
        .ite (fun _ => .pure _) fun _ => .bind stepComposed fun _ => inductionHypothesis

/-- A handler is guest code between two changes of the registers. -/
theorem composed_callHandler (function : UInt32) : Composed part (callHandler step function) :=
  .bind (composed_ofCpu _) fun _ =>
    .bind (composed_modifyRegisters _) fun _ =>
      .bind (composed_runUntil stepComposed _ _) fun _ =>
        .bind (composed_getReg _) fun _ => composed_modifyRegisters _

/-- Delivering an event marks it or calls its handler. -/
theorem composed_deliverTo (slot : Nat) (event : Event) :
    Composed part (deliverTo step slot event) :=
  .ite
    (fun _ => .ite (fun _ => composed_callHandler stepComposed _) fun _ => .pure ())
    fun _ => .ite (fun _ => composed_modifyFirmware _) fun _ => .pure ()

/-- Events are delivered slot by slot. -/
theorem composed_deliverAmong (eventClass specification : UInt32) (slots : List Nat) :
    Composed part (deliverAmong step eventClass specification slots) := by
  induction slots with
  | nil => exact .pure ()
  | cons slot rest inductionHypothesis =>
      refine .bind (composed_ofFirmware _) fun found => ?_
      cases found with
      | some event =>
          exact .ite
            (fun _ => .bind (composed_deliverTo stepComposed _ _) fun _ => inductionHypothesis)
            fun _ => inductionHypothesis
      | none => exact .bind (.pure ()) fun _ => inductionHypothesis

theorem composed_deliverEvent (eventClass specification : UInt32) :
    Composed part (deliverEvent step eventClass specification) :=
  .bind (composed_ofFirmware _) fun _ => composed_deliverAmong stepComposed _ _ _

/-- The lines that are pending are delivered one after the other. -/
theorem composed_deliverPending (pending : Lines) (counters : List Nat) :
    Composed part (deliverPending step pending counters) := by
  induction counters with
  | nil => exact .pure ()
  | cons counter rest inductionHypothesis =>
      exact .ite
        (fun _ => .bind (composed_deliverEvent stepComposed _ _) fun _ => inductionHypothesis)
        fun _ => inductionHypothesis

/-- A kernel function runs guest code only through the handlers that it delivers to. -/
theorem composed_callKernel (function : KernelFunction) :
    Composed part (callKernel step function) := by
  cases function with
  | setCounter => exact composed_setCounter
  | readCounter => exact composed_readCounter
  | startCounter => exact composed_enableCounter true
  | stopCounter => exact composed_enableCounter false
  | resetCounter => exact composed_resetCounter
  | deliverEvent =>
      exact .bind (composed_argument 0) fun _ =>
        .bind (composed_argument 1) fun _ => composed_deliverEvent stepComposed _ _
  | openEvent => exact composed_openEvent
  | closeEvent => exact composed_updateEvent _
  | waitEvent => exact composed_testEvent
  | testEvent => exact composed_testEvent
  | enableEvent => exact composed_updateEvent _
  | disableEvent => exact composed_updateEvent _
  | returnFromException => exact composed_returnFromException
  | unhookReturn =>
      exact composed_modifyFirmware fun firmware => { firmware with hook := 0 }
  | hookReturn => exact .bind (composed_argument 0) fun _ => composed_modifyFirmware _
  | printChar =>
      exact .bind (composed_argument 0) fun _ =>
        .bind (composed_printChar _) fun _ => composed_result _
  | printLine =>
      exact .bind (composed_argument 0) fun _ =>
        .bind
          (composed_ofBus fun _ _ =>
            congrArg Utf8.decodeLossy (textAt_withRecording _ _ _ _))
          fun _ => composed_print _

/-- The interrupt routine runs guest code only through handlers. -/
theorem composed_serveInterrupt (returnAddress : UInt32) :
    Composed part (serveInterrupt step returnAddress) := by
  have resumed : Composed part (resume returnAddress) :=
    .bind (composed_setPc _) fun _ => composed_modifySystem _
  have acknowledged (pending : Lines) :
      Composed part
        (modifyBus fun bus =>
          { bus with interrupts := bus.interrupts.acknowledge pending }) :=
    composed_arrange (fun _ => ⟨rfl, rfl⟩)
      (Bus.isDeaf_modify (fun _ _ => rfl) (fun _ => rfl) fun _ => ⟨rfl, rfl⟩)
  exact .bind (composed_ofCpu _) fun _ =>
    .bind (composed_modifyFirmware _) fun _ =>
      .bind (composed_ofBus fun _ _ => rfl) fun _ =>
        .bind (composed_deliverPending stepComposed _ _) fun _ =>
          .bind (acknowledged _) fun _ =>
            .bind (composed_ofFirmware _) fun _ =>
              .ite (fun _ => composed_restoreContext _ _) fun _ => resumed

/-- A firmware service is composed of the steps of the guest functions that it calls. -/
theorem composed_serveTrap (trap : Trap) : Composed part (serveTrap step trap) := by
  have called : Composed part systemCall :=
    .bind (composed_argument 0) fun _ =>
      .ite (fun _ => .bind (composed_modifySystem _) fun _ => composed_result _) fun _ =>
        .ite (fun _ => composed_modifySystem _) fun _ => .pure ()
  refine .bind (.bind (composed_getReg _) fun _ => .pure _) fun number => ?_
  cases trap with
  | exception =>
      refine .bind (composed_ofCpu _) fun address => .bind (composed_ofCpu _) fun _ =>
        .ite (fun _ => composed_serveInterrupt stepComposed _) fun _ => ?_
      have resumed : Composed part (resume (address + 4)) :=
        .bind (composed_setPc _) fun _ => composed_modifySystem _
      exact .ite (fun _ => .bind called fun _ => resumed) fun _ => resumed
  | tableA =>
      refine .bind composed_returnToCaller fun _ => ?_
      split
      · exact composed_callLibrary _
      · exact composed_result _
  | tableB =>
      refine .bind composed_returnToCaller fun _ => ?_
      split
      · exact composed_callKernel stepComposed _
      · exact composed_result _
  | tableC =>
      have flagSet : Composed part setClearFlag :=
        .bind composed_counterArgument fun _ =>
          .bind (composed_argument 1) fun _ =>
            .bind (composed_ofFirmware _) fun _ =>
              .bind (composed_modifyFirmware _) fun _ => composed_result _
      exact .bind composed_returnToCaller fun _ =>
        .ite (fun _ => flagSet) fun _ => composed_result _
  | callReturn => exact .pure ()

end

end Action

end PsxPlayer
