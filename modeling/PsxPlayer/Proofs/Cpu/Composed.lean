import PsxPlayer.Proofs.Cpu.Deaf
import PsxPlayer.Proofs.Cpu.Unread

namespace PsxPlayer

/-!
# What actions are composed of

An action is composed of changes of the processor and the firmware, of commands to the
bus, and of the steps that it is given to run.  Nothing but such a step fetches, and
nothing looks at what has been recorded.
-/

namespace Action

/-- An action composed of some given parts and of what neither fetches nor runs them. -/
inductive Composed (part : Action Unit → Prop) : {α : Type} → Action α → Prop where
  | pure {α : Type} (value : α) : Composed part (Pure.pure value : Action α)
  | bind
      {α β : Type}
      {action : Action α}
      {next : α → Action β}
      (first : Composed part action)
      (second : ∀ value, Composed part (next value)) :
      Composed part (action >>= next)
  | calm
      {α : Type}
      {action : Action α}
      {value : Machine → α}
      {change : Machine → Machine}
      (changes : ∀ machine, action.run machine = .ok (value machine) (change machine))
      (same :
        ∀ machine,
          (change machine).bus = machine.bus ∧
            (change machine).cpu.skipsIdleLoops = machine.cpu.skipsIdleLoops)
      (unheard : IsUnheard value change) :
      Composed part action
  | onBus
      {α : Type}
      {action : BusAction α}
      (flat : IsFlat Bus.clock action)
      (madeUp : IsMadeUp id action)
      (deaf : Bus.IsDeaf action) :
      Composed part (onBus action)
  | skipIdleTime : Composed part skipIdleTime
  | part {action : Action Unit} (isPart : part action) : Composed part action

variable {part : Action Unit → Prop}

/-- A choice is composed of what both its branches are composed of. -/
theorem Composed.ite
    {α : Type}
    {condition : Prop} [Decidable condition]
    {first second : Action α}
    (firstComposed : condition → Composed part first)
    (secondComposed : ¬condition → Composed part second) :
    Composed part (if condition then first else second) := by
  split
  · next holds => exact firstComposed holds
  · next fails => exact secondComposed fails

section

variable (register : Reg) (value : UInt32)

/-- Looking at the processor runs nothing. -/
theorem composed_ofCpu {α : Type} (view : Cpu → α) : Composed part (ofCpu view) :=
  .calm (fun _ => rfl) (fun _ => ⟨rfl, rfl⟩) fun _ _ _ => ⟨rfl, _, rfl⟩

/-- Looking at the bus runs nothing, as long as the recording is not looked at. -/
theorem composed_ofBus
    {α : Type}
    {view : Bus → α}
    (unheard :
      ∀ (bus : Bus) (recording : Recording), view (bus.withRecording recording) = view bus) :
    Composed part (ofBus view) :=
  .calm (fun _ => rfl) (fun _ => ⟨rfl, rfl⟩) fun machine recording _ =>
    ⟨unheard machine.bus recording, _, rfl⟩

/-- Looking at the firmware runs nothing. -/
theorem composed_ofFirmware {α : Type} (view : Firmware → α) :
    Composed part (ofFirmware view) :=
  .calm (fun _ => rfl) (fun _ => ⟨rfl, rfl⟩) fun _ _ _ => ⟨rfl, _, rfl⟩

theorem composed_getReg : Composed part (getReg register) :=
  composed_ofCpu fun cpu => cpu.registers.get register

theorem composed_getPc : Composed part getPc :=
  composed_ofCpu fun cpu => cpu.registers.pc

/-- A change of the registers runs nothing. -/
theorem composed_modifyRegisters (change : Registers → Registers) :
    Composed part (modifyRegisters change) :=
  .calm (fun _ => rfl) (fun _ => ⟨rfl, rfl⟩) fun _ _ _ => ⟨rfl, _, rfl⟩

theorem composed_setReg : Composed part (setReg register value) :=
  composed_modifyRegisters _

theorem composed_setPc : Composed part (setPc value) :=
  composed_modifyRegisters _

/-- A change of the system registers runs nothing. -/
theorem composed_modifySystem (change : SystemRegisters → SystemRegisters) :
    Composed part (modifySystem change) :=
  .calm (fun _ => rfl) (fun _ => ⟨rfl, rfl⟩) fun _ _ _ => ⟨rfl, _, rfl⟩

/-- An exception runs nothing. -/
theorem composed_raise (cause : ExceptionCause) : Composed part (raise cause) :=
  .calm (fun _ => rfl) (fun _ => ⟨rfl, rfl⟩) fun _ _ _ => ⟨rfl, _, rfl⟩

theorem composed_raiseAddress (cause : ExceptionCause) (address : UInt32) :
    Composed part (raiseAddress cause address) :=
  .calm (fun _ => rfl) (fun _ => ⟨rfl, rfl⟩) fun _ _ _ => ⟨rfl, _, rfl⟩

/-- A change of the firmware runs nothing. -/
theorem composed_modifyFirmware (change : Firmware → Firmware) :
    Composed part (modifyFirmware change) :=
  .calm (fun _ => rfl) (fun _ => ⟨rfl, rfl⟩) fun _ _ _ => ⟨rfl, _, rfl⟩

/-- Printing runs nothing. -/
theorem composed_print (line : String) : Composed part (print line) :=
  .calm (fun _ => rfl) (fun _ => ⟨rfl, rfl⟩) fun _ _ _ => ⟨rfl, _, rfl⟩

/-- A change of the bus runs nothing if it is a command and takes no time. -/
theorem composed_modifyBus
    {change : Bus → Bus}
    (same : ∀ bus, (change bus).clock = bus.clock)
    (madeUp : IsMadeUp id (modify change))
    (deaf : Bus.IsDeaf (modify change)) :
    Composed part (modifyBus change) :=
  .onBus (.modify (fun _ => rfl) same) madeUp deaf

/-- Reading memory or a device runs nothing. -/
theorem composed_read (width : Width) (address : UInt32) :
    Composed part (read width address) :=
  composed_ofBus fun _ _ => rfl

/-- A store is made up of commands to the bus. -/
theorem composed_write (width : Width) (address : UInt32) :
    Composed part (write width address value) :=
  .onBus (Bus.isFlat_write width address value) (Bus.isMadeUp_write width address value)
    (Bus.isDeaf_write width address value)

/-- A result is written, or an overflow raised. -/
theorem composed_settleResult (result? : Option UInt32) :
    Composed part (settleResult register result?) := by
  cases result? with
  | some result => exact composed_setReg register result
  | none => exact composed_raise .overflow

/-- A load reads, and writes a register or raises an exception. -/
theorem composed_load (op : LoadOp) (base : Reg) (offset : UInt32) :
    Composed part (load op register base offset) := by
  have aligned (width : Width) (extend : UInt32 → UInt32) (address : UInt32) :
      Composed part (loadAligned width extend register address) :=
    .ite (fun _ => .bind (composed_read _ _) fun _ => composed_setReg _ _) fun _ =>
      composed_raiseAddress _ _
  have part (paste : UInt32 → UInt32 → UInt32) (address : UInt32) :
      Composed part (loadPart paste register address) :=
    .bind (composed_read _ _) fun _ => .bind (composed_getReg _) fun _ => composed_setReg _ _
  refine .bind (composed_getReg base) fun found => ?_
  cases op with
  | signedByte => exact aligned _ _ _
  | byte => exact aligned _ _ _
  | signedHalf => exact aligned _ _ _
  | half => exact aligned _ _ _
  | word => exact aligned _ _ _
  | left => exact part _ _
  | right => exact part _ _

/-- A store writes, or raises an exception. -/
theorem composed_store (op : StoreOp) (base : Reg) (offset : UInt32) :
    Composed part (store op register base offset) := by
  have through (width : Width) (address stored : UInt32) :
      Composed part (writeThrough width address stored) :=
    .bind (composed_ofCpu _) fun _ => .ite (fun _ => composed_write _ _ _) fun _ => .pure ()
  have aligned (width : Width) (address stored : UInt32) :
      Composed part (storeAligned width address stored) :=
    .ite (fun _ => through _ _ _) fun _ => composed_raiseAddress _ _
  have part (paste : UInt32 → UInt32 → UInt32) (address stored : UInt32) :
      Composed part (storePart paste address stored) :=
    .bind (composed_read _ _) fun _ => through _ _ _
  refine .bind (composed_getReg base) fun found =>
    .bind (composed_getReg register) fun stored => ?_
  cases op with
  | byte => exact aligned _ _ _
  | half => exact aligned _ _ _
  | word => exact aligned _ _ _
  | left => exact part _ _ _
  | right => exact part _ _ _

end

/-- An instruction that nests no other runs none of the parts. -/
theorem composed_executeWith
    (execute : Instruction → Action Unit)
    {instruction : Instruction}
    (plain : instruction.isPlain = true) :
    Composed part (executeWith execute instruction) := by
  cases instruction <;>
    simp only [Instruction.isPlain, Instruction.isTransfer, Bool.not_true,
      Bool.false_eq_true] at plain
  case load op target base offset => exact composed_load target op base offset
  case store op source base offset => exact composed_store source op base offset
  case shift op target source amount =>
    exact .bind (composed_getReg _) fun _ => composed_setReg _ _
  case shiftVariable op target first second =>
    exact .bind (composed_getReg _) fun _ =>
      .bind (composed_getReg _) fun _ => composed_setReg _ _
  case alu op target first second =>
    exact .bind (composed_getReg _) fun _ =>
      .bind (composed_getReg _) fun _ => composed_settleResult _ _
  case immediate op target source value =>
    exact .bind (composed_getReg _) fun _ => composed_settleResult _ _
  case loadUpper target value => exact composed_setReg _ _
  case wide op first second =>
    exact .bind (composed_getReg _) fun _ =>
      .bind (composed_getReg _) fun _ => composed_modifyRegisters _
  case moveFromHi target => exact .bind (composed_ofCpu _) fun _ => composed_setReg _ _
  case moveFromLo target => exact .bind (composed_ofCpu _) fun _ => composed_setReg _ _
  case moveToHi source =>
    exact .bind (composed_getReg _) fun _ => composed_modifyRegisters _
  case moveToLo source =>
    exact .bind (composed_getReg _) fun _ => composed_modifyRegisters _
  case systemCall => exact composed_raise _
  case breakpoint => exact composed_raise _
  case moveFromSystem target index =>
    exact .bind (composed_ofCpu _) fun _ => composed_setReg _ _
  case moveToSystem source index =>
    exact .bind (composed_getReg _) fun _ => composed_modifySystem _
  case returnFromException => exact composed_modifySystem _
  case geometry => exact .pure ()
  case loadGeometry base => exact .pure ()
  case storeGeometry base => exact .pure ()
  case unknown => exact .pure ()

/-- Committing a load runs nothing. -/
theorem composed_commitDeferredLoad : Composed part commitDeferredLoad :=
  .calm run_commitDeferredLoad
    (fun machine => by
      unfold Machine.committed Cpu.committed
      split <;> exact ⟨rfl, rfl⟩)
    fun _ _ _ => ⟨rfl, _, rfl⟩

/-- Settling serves the counters, takes an interrupt or skips idle time. -/
theorem composed_settle (idle : Bool) : Composed part (settle idle) := by
  have served : Composed part serveCounters :=
    .bind (composed_ofBus fun _ _ => rfl) fun _ =>
      .ite
        (fun _ =>
          .onBus Bus.isFlat_updateCounters (.command .updateCounters)
            Bus.isDeaf_updateCounters)
        fun _ => .pure ()
  have taken : Composed part interrupt :=
    .calm (fun _ => rfl) (fun _ => ⟨rfl, rfl⟩) fun _ _ _ => ⟨rfl, _, rfl⟩
  have skipped : Composed part (if idle then skipIdleTime else pure ()) :=
    .ite (fun _ => .skipIdleTime) fun _ => .pure ()
  refine .bind served fun _ =>
    .bind (composed_ofBus fun _ _ => rfl) fun _ => .ite (fun _ => ?_) fun _ => ?_
  · refine .bind (composed_modifySystem _) fun _ =>
      .bind (composed_ofCpu _) fun _ => .ite (fun _ => ?_) fun _ => ?_
    · exact .bind taken fun _ => .pure ()
    · exact skipped
  · exact .bind (composed_modifySystem _) fun _ => skipped

/-- The end of a transfer runs none of the parts. -/
theorem composed_arrive (target : UInt32) (idle : Bool) :
    Composed part (arrive target idle) := by
  have left : Composed part leaveDelaySlot :=
    .calm (fun _ => rfl) (fun _ => ⟨rfl, rfl⟩) fun _ _ _ => ⟨rfl, _, rfl⟩
  refine .bind left fun _ => .bind (composed_ofCpu _) fun _ =>
    .ite (fun _ => .pure ()) fun _ => ?_
  exact .bind (composed_setPc _) fun _ => composed_settle _

end Action

end PsxPlayer
