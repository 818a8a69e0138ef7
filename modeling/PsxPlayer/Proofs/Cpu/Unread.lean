import PsxPlayer.Proofs.Cpu.Transfer

namespace PsxPlayer

/-!
# Registers that an instruction does not read

An instruction gives the same whatever a register holds that it does not read, and
whatever load is held back.  The register keeps its value unless the instruction
writes it.
-/

/-- Whether an instruction neither transfers control nor calls the firmware. -/
def Instruction.isPlain : Instruction → Bool
  | .trap _ => false
  | instruction => !instruction.isTransfer

/-- The processor with another value in a register and another load held back. -/
def Cpu.overlaid
    (cpu : Cpu)
    (register : Reg)
    (value : UInt32)
    (deferred? : Option (Reg × UInt32)) :
    Cpu :=
  { cpu with
    registers := cpu.registers.set register value
    deferredLoad? := deferred? }

/-- The machine with another value in a register and another load held back. -/
def Machine.overlaid
    (machine : Machine)
    (register : Reg)
    (value : UInt32)
    (deferred? : Option (Reg × UInt32)) :
    Machine :=
  { machine with cpu := machine.cpu.overlaid register value deferred? }

section

variable (cpu : Cpu) (cause : ExceptionCause) (register : Reg) (value : UInt32)
  (deferred? : Option (Reg × UInt32))

/-- Entering the exception handler does not touch an overlay. -/
theorem Cpu.enterException_overlaid (returnAddress : UInt32) (inDelaySlot : Bool) :
    (cpu.overlaid register value deferred?).enterException
        cause returnAddress inDelaySlot =
      (cpu.enterException cause returnAddress inDelaySlot).overlaid
        register value deferred? := by
  simp only [overlaid, enterException, Registers.set_withPc]

/-- An exception does not touch an overlay. -/
theorem Cpu.raise_overlaid :
    (cpu.overlaid register value deferred?).raise cause =
      (cpu.raise cause).overlaid register value deferred? := by
  unfold raise
  rw [← Cpu.enterException_overlaid]
  simp only [overlaid, Registers.pc_set]

end

namespace Action

variable {register : Reg} {value : UInt32} {deferred? : Option (Reg × UInt32)}
  {isWritten : Bool}

/--
An action gives the same on an overlaid machine, and the overlay stays, but for the
register if the action has written it.
-/
def Carries
    (register : Reg)
    (value : UInt32)
    (deferred? : Option (Reg × UInt32))
    (isWritten : Bool)
    (action : Action Unit) :
    Prop :=
  ∀ machine : Machine,
    machine.cpu.exceptionTaken = false →
    action.run (machine.overlaid register value deferred?) =
      match action.run machine with
      | .ok _ after =>
          .ok ()
            (after.overlaid
              (if isWritten && !after.cpu.exceptionTaken then 0 else register)
              value deferred?)
      | .error fault failed =>
          .error fault (failed.overlaid register value deferred?)

namespace Carries

/-- Reading something that the overlay does not show carries it. -/
theorem read
    {α : Type}
    {action : Action α}
    {view : Machine → α}
    {next : α → Action Unit}
    (reads : ∀ machine, action.run machine = .ok (view machine) machine)
    (same :
      ∀ machine : Machine,
        view (machine.overlaid register value deferred?) = view machine)
    (carries : ∀ found, Carries register value deferred? isWritten (next found)) :
    Carries register value deferred? isWritten (action >>= next) := by
  intro machine calm
  rw [EStateM.run_bind, EStateM.run_bind, reads, reads, same]
  exact carries (view machine) machine calm

/-- Reading another register carries an overlay. -/
theorem getReg
    {other : Reg}
    {next : UInt32 → Action Unit}
    (unread : register = 0 ∨ other ≠ register)
    (carries : ∀ found, Carries register value deferred? isWritten (next found)) :
    Carries register value deferred? isWritten (Action.getReg other >>= next) := by
  refine read (run_getReg · other) ?_ carries
  intro machine
  rcases unread with isZero | differs
  · subst isZero
    rfl
  · exact Registers.get_set_of_ne _ differs.symm _

/-- Writing a register carries an overlay. -/
theorem setReg
    (target : Reg)
    (result : UInt32) :
    Carries register value deferred? (some target == some register)
      (Action.setReg target result) := by
  intro machine calm
  rw [run_setReg, run_setReg]
  simp only [Machine.withRegisters_exceptionTaken, calm]
  by_cases same : target = register
  · subst same
    simp [Machine.overlaid, Cpu.overlaid, Machine.withRegisters]
  · have notWritten : (some target == some register) = false := by simpa using same
    simp only [notWritten, Bool.false_and, Bool.false_eq_true, ↓reduceIte]
    unfold Machine.overlaid Cpu.overlaid Machine.withRegisters
    simp only
    rw [Registers.set_comm _ (Ne.symm same)]

theorem pure : Carries register value deferred? false (Pure.pure ()) := by
  intro machine calm
  simp

/-- A change that the overlay commutes with carries it. -/
theorem modify
    {action : Action Unit}
    {change : Machine → Machine}
    (changes : ∀ machine, action.run machine = .ok () (change machine))
    (commutes :
      ∀ machine : Machine,
        change (machine.overlaid register value deferred?) =
          (change machine).overlaid register value deferred?) :
    Carries register value deferred? false action := by
  intro machine calm
  rw [changes, changes, commutes]
  simp

/-- A change that leaves the general purpose registers alone carries an overlay. -/
theorem modifyRegisters
    {change : Registers → Registers}
    (commutes :
      ∀ registers : Registers,
        change (registers.set register value) = (change registers).set register value) :
    Carries register value deferred? false (Action.modifyRegisters change) := by
  refine modify (run_modifyRegisters · change) fun machine => ?_
  unfold Machine.overlaid Cpu.overlaid Machine.withRegisters
  simp only [commutes]

/-- Raising an exception carries an overlay and does not count as a write. -/
theorem raise (cause : ExceptionCause) :
    Carries register value deferred? isWritten (Action.raise cause) := by
  intro machine calm
  have taken (cpu : Cpu) : (cpu.raise cause).exceptionTaken = true := rfl
  rw [run_raise, run_raise]
  simp only [taken, Bool.not_true, Bool.and_false, Bool.false_eq_true, ↓reduceIte]
  unfold Machine.overlaid
  simp only [Cpu.raise_overlaid]

theorem raiseAddress (cause : ExceptionCause) (address : UInt32) :
    Carries register value deferred? isWritten (Action.raiseAddress cause address) := by
  intro machine calm
  have taken (cpu : Cpu) : (cpu.raiseAddress cause address).exceptionTaken = true := rfl
  have commutes (cpu : Cpu) :
      (cpu.overlaid register value deferred?).raiseAddress cause address =
        (cpu.raiseAddress cause address).overlaid register value deferred? :=
    Cpu.raise_overlaid
      { cpu with system := cpu.system.set SystemRegisters.badAddress address }
      cause register value deferred?
  rw [run_raiseAddress, run_raiseAddress]
  simp only [taken, Bool.not_true, Bool.and_false, Bool.false_eq_true, ↓reduceIte]
  unfold Machine.overlaid
  simp only [commutes]

/-- An action on the bus carries an overlay. -/
theorem onBus (action : BusAction Unit) :
    Carries register value deferred? false (Action.onBus action) := by
  intro machine calm
  have sameBus : (machine.overlaid register value deferred?).bus = machine.bus := rfl
  rw [run_onBus, run_onBus, sameBus]
  cases action.run machine.bus with
  | ok value bus => simp [Machine.overlaid, Machine.withBus]
  | error fault bus => rfl

/-- Putting a result into a register carries an overlay. -/
theorem settleResult
    (target : Reg)
    (result? : Option UInt32) :
    Carries register value deferred? (some target == some register)
      (Action.settleResult target result?) := by
  cases result? with
  | some result => exact setReg target result
  | none => exact raise .overflow

/-- A load carries an overlay of a register that it does not read. -/
theorem load
    (op : LoadOp)
    (target base : Reg)
    (offset : UInt32)
    (unread : register = 0 ∨ register ∉ (Instruction.load op target base offset).sources) :
    Carries register value deferred? (some target == some register)
      (Action.load op target base offset) := by
  have baseUnread : register = 0 ∨ base ≠ register := by
    rcases unread with isZero | unread
    · exact .inl isZero
    · right
      rintro rfl
      cases op <;> simp [Instruction.sources] at unread
  have aligned (width : Width) (extend : UInt32 → UInt32) (address : UInt32) :
      Carries register value deferred? (some target == some register)
        (loadAligned width extend target address) := by
    unfold loadAligned
    split
    · exact read (run_read · width address) (fun _ => rfl) fun found => setReg target _
    · exact raiseAddress .addressErrorLoad address
  have part (paste : UInt32 → UInt32 → UInt32) (address : UInt32)
      (targetUnread : register = 0 ∨ target ≠ register) :
      Carries register value deferred? (some target == some register)
        (loadPart paste target address) := by
    unfold loadPart
    exact read (run_read · .word _) (fun _ => rfl) fun word =>
      getReg targetUnread fun old => setReg target _
  have targetUnread (reads : target ∈ (Instruction.load op target base offset).sources) :
      register = 0 ∨ target ≠ register := by
    rcases unread with isZero | unread
    · exact .inl isZero
    · right
      rintro rfl
      exact unread reads
  unfold Action.load
  refine getReg baseUnread fun found => ?_
  cases op with
  | signedByte => exact aligned _ _ _
  | byte => exact aligned _ _ _
  | signedHalf => exact aligned _ _ _
  | half => exact aligned _ _ _
  | word => exact aligned _ _ _
  | left => exact part _ _ (targetUnread (by simp [Instruction.sources]))
  | right => exact part _ _ (targetUnread (by simp [Instruction.sources]))

/-- A store carries an overlay of a register that it does not read. -/
theorem store
    (op : StoreOp)
    (source base : Reg)
    (offset : UInt32)
    (baseUnread : register = 0 ∨ base ≠ register)
    (sourceUnread : register = 0 ∨ source ≠ register) :
    Carries register value deferred? false (Action.store op source base offset) := by
  have through (width : Width) (address stored : UInt32) :
      Carries register value deferred? false (writeThrough width address stored) := by
    unfold writeThrough
    refine read (run_getSystem · SystemRegisters.status) (fun _ => rfl) fun status => ?_
    split
    · exact onBus _
    · exact pure
  have aligned (width : Width) (address stored : UInt32) :
      Carries register value deferred? false (storeAligned width address stored) := by
    unfold storeAligned
    split
    · exact through width address stored
    · exact raiseAddress .addressErrorStore address
  have part (paste : UInt32 → UInt32 → UInt32) (address stored : UInt32) :
      Carries register value deferred? false (storePart paste address stored) := by
    unfold storePart
    exact read (run_read · .word _) (fun _ => rfl) fun word => through _ _ _
  unfold Action.store
  refine getReg baseUnread fun found => getReg sourceUnread fun stored => ?_
  cases op with
  | byte => exact aligned _ _ _
  | half => exact aligned _ _ _
  | word => exact aligned _ _ _
  | left => exact part _ _ _
  | right => exact part _ _ _

end Carries

/-- An instruction carries an overlay of a register that it does not read. -/
theorem carries_executeWith
    (execute : Instruction → Action Unit)
    {instruction : Instruction}
    (plain : instruction.isPlain)
    (unread : register = 0 ∨ register ∉ instruction.sources) :
    Carries register value deferred? (instruction.destination? == some register)
      (executeWith execute instruction) := by
  have source {other : Reg} (member : other ∈ instruction.sources) :
      register = 0 ∨ other ≠ register := by
    rcases unread with isZero | unread
    · exact .inl isZero
    · right
      rintro rfl
      exact unread member
  cases instruction <;>
    simp only [Instruction.isPlain, Instruction.isTransfer, Bool.not_true,
      Bool.false_eq_true] at plain
  case shift op target other amount =>
    rw [executeWith]
    exact .getReg (source (by simp [Instruction.sources])) fun _ => .setReg target _
  case shiftVariable op target other amount =>
    rw [executeWith]
    exact .getReg (source (by simp [Instruction.sources])) fun _ =>
      .getReg (source (by simp [Instruction.sources])) fun _ => .setReg target _
  case alu op target first second =>
    rw [executeWith]
    exact .getReg (source (by simp [Instruction.sources])) fun _ =>
      .getReg (source (by simp [Instruction.sources])) fun _ => .settleResult target _
  case immediate op target other value =>
    rw [executeWith]
    exact .getReg (source (by simp [Instruction.sources])) fun _ =>
      .settleResult target _
  case loadUpper target value =>
    rw [executeWith]
    exact .setReg target _
  case wide op first second =>
    rw [executeWith]
    refine .getReg (source (by simp [Instruction.sources])) fun left =>
      .getReg (source (by simp [Instruction.sources])) fun right => ?_
    exact .modifyRegisters fun _ => Registers.set_withWide _ _ _ _ _
  case moveFromHi target =>
    rw [executeWith]
    exact .read (run_ofRegisters · Registers.hi) (fun _ => Registers.hi_set _ _ _)
      fun _ => .setReg target _
  case moveFromLo target =>
    rw [executeWith]
    exact .read (run_ofRegisters · Registers.lo) (fun _ => Registers.lo_set _ _ _)
      fun _ => .setReg target _
  case moveToHi other =>
    rw [executeWith]
    refine .getReg (source (by simp [Instruction.sources])) fun found => ?_
    exact .modifyRegisters fun _ => Registers.set_withHi _ _ _ _
  case moveToLo other =>
    rw [executeWith]
    refine .getReg (source (by simp [Instruction.sources])) fun found => ?_
    exact .modifyRegisters fun _ => Registers.set_withLo _ _ _ _
  case load op target base offset =>
    rw [executeWith]
    exact .load op target base offset unread
  case store op stored base offset =>
    rw [executeWith]
    exact .store op stored base offset (source (by simp [Instruction.sources]))
      (source (by simp [Instruction.sources]))
  case systemCall =>
    rw [executeWith]
    exact .raise .syscall
  case breakpoint =>
    rw [executeWith]
    exact .raise .breakpoint
  case moveFromSystem target index =>
    rw [executeWith]
    exact .read (run_getSystem · index) (fun _ => rfl) fun _ => .setReg target _
  case moveToSystem other index =>
    rw [executeWith]
    exact .getReg (source (by simp [Instruction.sources])) fun found =>
      .modify (run_modifySystem · _) fun _ => rfl
  case returnFromException =>
    rw [executeWith]
    exact .modify (run_modifySystem · _) fun _ => rfl
  case geometry =>
    rw [executeWith]
    exact .pure
  case loadGeometry base =>
    rw [executeWith]
    exact .pure
  case storeGeometry base =>
    rw [executeWith]
    exact .pure
  case unknown =>
    rw [executeWith]
    exact .pure

end Action

end PsxPlayer
