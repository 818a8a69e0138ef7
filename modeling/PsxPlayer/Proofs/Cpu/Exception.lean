import PsxPlayer.Proofs.Cpu.Standing
import PsxPlayer.Proofs.Cpu.System
import PsxPlayer.Proofs.Memory.Mirror

namespace PsxPlayer

/-!
# Exceptions of an instruction

A system call and a breakpoint raise an exception, a sum or difference does if it fits
no signed word, and a load or store of a halfword or a word if its address is not a
multiple of the width.  Nothing else does.  An instruction that raises an exception
enters the handler and does nothing more.
-/

open PsxPlayer.Action

/-- An exception that an instruction raises, with the address of a misplaced access. -/
structure GuestException where
  cause : ExceptionCause
  badAddress? : Option UInt32
  deriving DecidableEq, Repr

namespace GuestException

/-- A sum or difference that fits no signed word. -/
def ofResult? (result : Int) : Option GuestException :=
  if -2 ^ 31 ≤ result ∧ result < 2 ^ 31 then none else some ⟨.overflow, none⟩

/-- An access whose address is not a multiple of its width. -/
def ofAccess?
    (cause : ExceptionCause)
    (width : Width)
    (address : UInt32) :
    Option GuestException :=
  if address.toNat % width.bytes = 0 then none else some ⟨cause, some address⟩

end GuestException

/-- The exception that an instruction has to raise, if it has to. -/
def Instruction.exception? (registers : Registers) : Instruction → Option GuestException
  | .systemCall => some ⟨.syscall, none⟩
  | .breakpoint => some ⟨.breakpoint, none⟩
  | .alu .add _ left right =>
      GuestException.ofResult?
        (signed (registers.get left) + signed (registers.get right))
  | .alu .sub _ left right =>
      GuestException.ofResult?
        (signed (registers.get left) - signed (registers.get right))
  | .immediate .addi _ left value =>
      GuestException.ofResult?
        (signed (registers.get left) + signedHalf value.toUInt16)
  | .load op _ base offset =>
      op.width?.bind fun width =>
        GuestException.ofAccess? .addressErrorLoad width
          (effectiveAddress (registers.get base) offset)
  | .store op _ base offset =>
      op.width?.bind fun width =>
        GuestException.ofAccess? .addressErrorStore width
          (effectiveAddress (registers.get base) offset)
  | _ => none

/-- The exception that an execution has to raise, if it has to. -/
def Execution.exception? (execution : Execution) : Option GuestException :=
  execution.instruction.exception? execution.machine.cpu.registers

/-- The system registers once a misplaced access has been shown, if there is one. -/
def SystemRegisters.showing
    (registers : SystemRegisters) :
    Option UInt32 → SystemRegisters
  | some address => registers.set badAddress address
  | none => registers

/-- The processor once an exception has been raised. -/
def Cpu.raised (cpu : Cpu) (exception : GuestException) : Cpu :=
  { cpu with system := cpu.system.showing exception.badAddress? }.raise exception.cause

/-- The machine once an exception has been raised. -/
def Machine.raised (machine : Machine) (exception : GuestException) : Machine :=
  { machine with cpu := machine.cpu.raised exception }

/--
The handler has been entered with an exception, which returns to an address, and nothing
else has happened: no other register, no memory and no device has changed.
-/
structure Machine.HasEntered
    (after before : Machine)
    (exception : GuestException)
    (returnAddress : UInt32)
    (inDelaySlot : Bool) :
    Prop where
  registers :
    after.cpu.registers =
      { before.cpu.registers with
        pc :=
          if before.cpu.system.get SystemRegisters.status &&& SystemRegisters.bootBit ≠ 0
          then 0xBFC00180
          else 0x80000080 }
  bus : after.bus = before.bus
  firmware : after.firmware = before.firmware
  printed : after.printed = before.printed
  returns : after.cpu.system.get SystemRegisters.returnAddress = returnAddress
  slot :
    after.cpu.system.get SystemRegisters.cause &&& SystemRegisters.delaySlotBit =
      if inDelaySlot then SystemRegisters.delaySlotBit else 0
  code : after.cpu.system.causeCode = exception.cause.code
  causeRest :
    after.cpu.system.get SystemRegisters.cause &&& ~~~SystemRegisters.causeFields =
      before.cpu.system.get SystemRegisters.cause &&& ~~~SystemRegisters.causeFields
  address :
    after.cpu.system.get SystemRegisters.badAddress =
      exception.badAddress?.getD (before.cpu.system.get SystemRegisters.badAddress)
  modes :
    after.cpu.system.get SystemRegisters.status =
      before.cpu.system.get SystemRegisters.status &&& ~~~0x3F |||
        before.cpu.system.get SystemRegisters.status <<< (2 : UInt32) &&& 0x3F
  otherSystem :
    ∀ index,
      index ∉
          [SystemRegisters.badAddress, SystemRegisters.status, SystemRegisters.cause,
            SystemRegisters.returnAddress] →
        after.cpu.system.get index = before.cpu.system.get index

namespace SystemRegisters

variable (registers : SystemRegisters) (address? : Option UInt32)

theorem get_showing_of_ne
    {index : Fin 32}
    (differs : index ≠ badAddress) :
    (registers.showing address?).get index = registers.get index := by
  cases address? with
  | none => rfl
  | some address => exact registers.get_set_of_ne differs.symm address

theorem badAddress_showing :
    (registers.showing address?).get badAddress =
      address?.getD (registers.get badAddress) := by
  cases address? with
  | none => rfl
  | some address => exact registers.get_set_self badAddress address

@[simp]
theorem handler_showing : (registers.showing address?).handler = registers.handler := by
  simp only [handler, get_showing_of_ne registers address? (show status ≠ badAddress by decide)]

end SystemRegisters

/-- Raising an exception enters the handler; it returns to the branch of a delay slot. -/
theorem Machine.hasEntered_raised (machine : Machine) (exception : GuestException) :
    (machine.raised exception).HasEntered machine exception
      (if machine.cpu.inDelaySlot then machine.cpu.registers.pc - 4 - 4
        else machine.cpu.registers.pc - 4)
      machine.cpu.inDelaySlot where
  registers := by
    have entered :
        (machine.raised exception).cpu.registers =
          { machine.cpu.registers with pc := (machine.raised exception).cpu.registers.pc } :=
      rfl
    have handled :
        (machine.raised exception).cpu.registers.pc = machine.cpu.system.handler :=
      (Cpu.pc_enterException _ _ _ _).trans
        (machine.cpu.system.handler_showing exception.badAddress?)
    rw [entered, handled]
    simp [SystemRegisters.handler]
  bus := rfl
  firmware := rfl
  printed := rfl
  returns := Cpu.returnAddress_enterException _ _ _ _
  slot := Cpu.slotBit_enterException _ _ _ _
  code := Cpu.causeCode_enterException _ _ _ _
  causeRest := by
    refine (Cpu.causeRest_enterException _ _ _ _).trans ?_
    rw [SystemRegisters.get_showing_of_ne _ _ (by decide)]
  address := by
    refine (Cpu.get_enterException_of_ne _ _ _ _ (by decide) (by decide) (by decide)).trans ?_
    exact SystemRegisters.badAddress_showing _ _
  modes := by
    refine (Cpu.status_enterException _ _ _ _).trans ?_
    rw [SystemRegisters.pushMode, SystemRegisters.get_set_self,
      SystemRegisters.get_showing_of_ne _ _ (by decide)]
  otherSystem := by
    intro index other
    simp only [List.mem_cons, List.not_mem_nil, or_false, not_or] at other
    refine
      (Cpu.get_enterException_of_ne _ _ _ _ other.2.1 other.2.2.1 other.2.2.2).trans ?_
    exact SystemRegisters.get_showing_of_ne _ _ other.1

namespace GuestException

variable {exception : GuestException}

/-- A word holds what the exception for results lets pass. -/
theorem wordOf?_of_ofResult?
    {result : Int}
    (overflows : ofResult? result = some exception) :
    exception = ⟨.overflow, none⟩ ∧ wordOf? result = none := by
  unfold ofResult? at overflows
  split at overflows
  · cases overflows
  · next outside =>
      have unfit : fits32 result = false := by
        simp only [fits32, Bool.and_eq_false_iff, decide_eq_false_iff_not]
        omega
      cases overflows
      exact ⟨rfl, by rw [wordOf?, unfit, if_neg Bool.false_ne_true]⟩

theorem wordOf?_isSome
    {result : Int}
    (fits : ofResult? result = none) :
    (wordOf? result).isSome := by
  unfold ofResult? at fits
  split at fits
  · next inside =>
      have fit : fits32 result = true := by
        simp only [fits32, Bool.and_eq_true, decide_eq_true_eq]
        omega
      rw [wordOf?, if_pos fit]
      rfl
  · cases fits

variable {cause : ExceptionCause} {width : Width} {address : UInt32}

theorem aligned_of_ofAccess?
    (misplaced : ofAccess? cause width address = some exception) :
    exception = ⟨cause, some address⟩ ∧ width.aligned address = false := by
  unfold ofAccess? at misplaced
  split at misplaced
  · cases misplaced
  · next notMultiple =>
      cases misplaced
      exact ⟨rfl, Bool.eq_false_iff.2 fun aligned =>
        notMultiple ((aligned_iff width address).1 aligned)⟩

theorem ofAccess?_eq_none_iff :
    ofAccess? cause width address = none ↔ width.aligned address = true := by
  rw [aligned_iff]
  unfold ofAccess?
  split
  · next multiple => exact ⟨fun _ => multiple, fun _ => rfl⟩
  · next notMultiple =>
      constructor
      · intro none
        cases none
      · intro multiple
        exact absurd multiple notMultiple

end GuestException

/-- The immediate of a sum is read as a signed halfword. -/
theorem signed_signExtend16 (value : UInt32) :
    signed (signExtend16 value) = signedHalf value.toUInt16 := by
  unfold signed signExtend16 signedHalf
  simp

namespace Execution

variable {execution : Execution} {exception : GuestException}

theorem run_settleResult_of_none
    {result? : Option UInt32}
    (noResult : result? = none)
    (target : Reg)
    (machine : Machine) :
    (settleResult target result?).run machine =
      .ok () (machine.raised ⟨.overflow, none⟩) := by
  rw [noResult]
  rfl

theorem run_loadAligned_of_misaligned
    {width : Width}
    {address : UInt32}
    (misaligned : width.aligned address = false)
    (extend : UInt32 → UInt32)
    (target : Reg)
    (machine : Machine) :
    (loadAligned width extend target address).run machine =
      .ok () (machine.raised ⟨.addressErrorLoad, some address⟩) := by
  rw [loadAligned, misaligned]
  rfl

theorem run_storeAligned_of_misaligned
    {width : Width}
    {address : UInt32}
    (misaligned : width.aligned address = false)
    (value : UInt32)
    (machine : Machine) :
    (storeAligned width address value).run machine =
      .ok () (machine.raised ⟨.addressErrorStore, some address⟩) := by
  rw [storeAligned, misaligned]
  rfl

/-- A load that has to raise an exception does so and nothing else. -/
theorem run_load_of_exception
    {op : LoadOp}
    {target base : Reg}
    {offset : UInt32}
    {machine : Machine}
    (raises :
      (Instruction.load op target base offset).exception? machine.cpu.registers =
        some exception) :
    (load op target base offset).run machine = .ok () (machine.raised exception) := by
  simp only [Instruction.exception?] at raises
  obtain ⟨width, asked, misplaced⟩ := Option.bind_eq_some_iff.1 raises
  obtain ⟨rfl, misaligned⟩ := GuestException.aligned_of_ofAccess? misplaced
  rw [load, EStateM.run_bind, run_getReg]
  cases op <;> cases asked <;> exact run_loadAligned_of_misaligned misaligned _ _ _

/-- A store that has to raise an exception does so and nothing else. -/
theorem run_store_of_exception
    {op : StoreOp}
    {source base : Reg}
    {offset : UInt32}
    {machine : Machine}
    (raises :
      (Instruction.store op source base offset).exception? machine.cpu.registers =
        some exception) :
    (store op source base offset).run machine = .ok () (machine.raised exception) := by
  simp only [Instruction.exception?] at raises
  obtain ⟨width, asked, misplaced⟩ := Option.bind_eq_some_iff.1 raises
  obtain ⟨rfl, misaligned⟩ := GuestException.aligned_of_ofAccess? misplaced
  rw [store, EStateM.run_bind, run_getReg]
  simp only
  rw [EStateM.run_bind, run_getReg]
  cases op <;> cases asked <;> exact run_storeAligned_of_misaligned misaligned _ _

/-- An instruction that has to raise an exception does so and nothing else. -/
theorem run_of_exception
    (raises : execution.exception? = some exception)
    (depth : Nat) :
    execution.run (depth + 1) = .ok () (execution.machine.raised exception) := by
  rcases execution with ⟨instruction, machine⟩
  have result
      {result? : Option UInt32}
      {value : Int}
      (target : Reg)
      (sameResult : result? = wordOf? value)
      (overflows : GuestException.ofResult? value = some exception) :
      (settleResult target result?).run machine =
        .ok () (machine.raised exception) := by
    obtain ⟨rfl, noResult⟩ := GuestException.wordOf?_of_ofResult? overflows
    exact run_settleResult_of_none (sameResult.trans noResult) target machine
  rw [run, executeNested]
  simp only [exception?] at raises ⊢
  cases instruction with
  | systemCall =>
      cases raises
      rfl
  | breakpoint =>
      cases raises
      rfl
  | alu op target left right =>
      rw [executeWith, EStateM.run_bind, run_getReg]
      simp only
      rw [EStateM.run_bind, run_getReg]
      cases op with
      | add => exact result target rfl raises
      | sub => exact result target rfl raises
      | _ => cases raises
  | immediate op target left value =>
      rw [executeWith, EStateM.run_bind, run_getReg]
      cases op with
      | addi =>
          refine result target ?_ raises
          rw [← signed_signExtend16]
          rfl
      | _ => cases raises
  | load op target base offset => exact run_load_of_exception raises
  | store op source base offset => exact run_store_of_exception raises
  | _ => cases raises

/-- An instruction raises an exception exactly if it has to. -/
theorem raises_iff : execution.Raises ↔ execution.exception?.isSome := by
  rcases execution with ⟨instruction, machine⟩
  have result
      {result? : Option UInt32}
      {value : Int}
      (sameResult : result? = wordOf? value) :
      result?.isNone = true ↔ (GuestException.ofResult? value).isSome = true := by
    subst sameResult
    cases overflows : GuestException.ofResult? value with
    | some exception => simp [(GuestException.wordOf?_of_ofResult? overflows).2]
    | none =>
        have fits := GuestException.wordOf?_isSome overflows
        simp [Option.isNone_eq_false_iff.2 fits]
  have access (cause : ExceptionCause) (width? : Option Width) (address : UInt32) :
      isMisaligned width? address = true ↔
        (width?.bind fun width =>
            GuestException.ofAccess? cause width address).isSome = true := by
    cases width? with
    | none => simp [isMisaligned]
    | some width =>
        rw [Option.bind_some, ← Option.ne_none_iff_isSome, ne_eq,
          GuestException.ofAccess?_eq_none_iff]
        simp [isMisaligned]
  simp only [Raises, exception?]
  cases instruction with
  | systemCall => exact iff_of_true rfl rfl
  | breakpoint => exact iff_of_true rfl rfl
  | alu op target left right =>
      cases op with
      | add => exact result rfl
      | sub => exact result rfl
      | _ => exact iff_of_false Bool.false_ne_true Bool.false_ne_true
  | immediate op target left value =>
      cases op with
      | addi =>
          refine result ?_
          rw [← signed_signExtend16]
          rfl
      | _ => exact iff_of_false Bool.false_ne_true Bool.false_ne_true
  | load op target base offset => exact access _ _ _
  | store op source base offset => exact access _ _ _
  | _ => exact iff_of_false Bool.false_ne_true Bool.false_ne_true

end Execution

end PsxPlayer
