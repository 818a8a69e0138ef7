import PsxPlayer.Cpu.System

namespace PsxPlayer

/-!
# Entering the exception handler

What the system registers show after the exception handler has been entered, and what a
return from it brings back.
-/

/-- Bits picked from two words together are picked from each of them. -/
theorem word_or_and (left right bits : UInt32) :
    (left ||| right) &&& bits = (left &&& bits) ||| (right &&& bits) :=
  UInt32.toBitVec_inj.1 BitVec.and_or_distrib_right

namespace SystemRegisters

@[simp]
theorem get_set_self
    (registers : SystemRegisters)
    (index : Fin 32)
    (value : UInt32) :
    (registers.set index value).get index = value := by
  simp [get, set]

theorem get_set_of_ne
    (registers : SystemRegisters)
    {target other : Fin 32}
    (differs : target ≠ other)
    (value : UInt32) :
    (registers.set target value).get other = registers.get other :=
  Vector.getElem_set_ne target.isLt other.isLt fun same => differs (Fin.ext same)

/-- Pushing the mode stack changes the status register only. -/
theorem get_pushMode_of_ne
    (registers : SystemRegisters)
    {index : Fin 32}
    (differs : index ≠ status) :
    registers.pushMode.get index = registers.get index :=
  registers.get_set_of_ne differs.symm _

/-- Bits apart from the mode stack survive a push of it. -/
theorem status_pushMode_and
    (registers : SystemRegisters)
    {bits : UInt32}
    (apart : (0x3F : UInt32) &&& bits = 0)
    (kept : ~~~(0x3F : UInt32) &&& bits = bits) :
    registers.pushMode.get status &&& bits = registers.get status &&& bits := by
  simp only [pushMode, get_set_self]
  rw [word_or_and, UInt32.and_assoc, UInt32.and_assoc, apart, kept]
  simp

/-- Bits apart from the mode stack survive a pop of it. -/
theorem status_popMode_and
    (registers : SystemRegisters)
    {bits : UInt32}
    (apart : (0x0F : UInt32) &&& bits = 0)
    (kept : ~~~(0x0F : UInt32) &&& bits = bits) :
    registers.popMode.get status &&& bits = registers.get status &&& bits := by
  simp only [popMode, get_set_self]
  rw [word_or_and, UInt32.and_assoc, UInt32.and_assoc, apart, kept]
  simp

@[simp]
theorem handler_pushMode (registers : SystemRegisters) :
    registers.pushMode.handler = registers.handler := by
  have sameBit :=
    registers.status_pushMode_and (show (0x3F : UInt32) &&& bootBit = 0 by decide)
      (by decide)
  simp only [handler, sameBit]

/-- Exceptions go where the status register says, whatever else is written. -/
theorem handler_set_of_ne
    (registers : SystemRegisters)
    {index : Fin 32}
    (differs : index ≠ status)
    (value : UInt32) :
    (registers.set index value).handler = registers.handler := by
  simp only [handler, registers.get_set_of_ne differs value]

@[simp]
theorem handler_setLine
    (registers : SystemRegisters)
    (raised : Bool) :
    (registers.setLine raised).handler = registers.handler :=
  registers.handler_set_of_ne (by decide) _

/-- Status bits 0 to 3: the current and the previous mode. -/
def modeBits : UInt32 := 0x0F

/-- What is shifted up by two bits comes down again, but for its upper end. -/
theorem shiftLeft_shiftRight_and_modeBits (value : UInt32) :
    (value <<< (2 : UInt32)) >>> (2 : UInt32) &&& modeBits = value &&& modeBits := by
  have mask : modeBits.toNat = 2 ^ 4 - 1 := by decide
  have two : (2 : UInt32).toNat % 32 = 2 := by decide
  apply UInt32.toNat_inj.1
  rw [UInt32.toNat_and, UInt32.toNat_and, UInt32.toNat_shiftRight, UInt32.toNat_shiftLeft,
    mask, two, Nat.and_two_pow_sub_one_eq_mod, Nat.and_two_pow_sub_one_eq_mod,
    Nat.shiftLeft_eq, Nat.shiftRight_eq_div_pow]
  omega

/-- A push of the mode stack moves the modes up. -/
theorem pushMode_modeBits (registers : SystemRegisters) :
    registers.pushMode.get status >>> (2 : UInt32) &&& modeBits =
      registers.get status &&& modeBits := by
  have above : ~~~(0x3F : UInt32) >>> (2 : UInt32) &&& modeBits = 0 := by decide
  have within : (0x3F : UInt32) >>> (2 : UInt32) &&& modeBits = modeBits := by decide
  simp only [pushMode, get_set_self]
  rw [UInt32.shiftRight_or, UInt32.shiftRight_and, UInt32.shiftRight_and, word_or_and,
    UInt32.and_assoc, above, UInt32.and_assoc, within, shiftLeft_shiftRight_and_modeBits]
  simp

/-- A pop of the mode stack moves the modes down. -/
theorem popMode_modeBits (registers : SystemRegisters) :
    registers.popMode.get status &&& modeBits =
      registers.get status >>> (2 : UInt32) &&& modeBits := by
  have kept : ~~~(0x0F : UInt32) &&& modeBits = 0 := by decide
  have moved : (0x0F : UInt32) &&& modeBits = modeBits := by decide
  simp only [popMode, get_set_self]
  rw [word_or_and, UInt32.and_assoc, kept, UInt32.and_assoc, moved]
  simp

/-- What a push shows in the status register depends on that register alone. -/
theorem status_pushMode_congr
    {registers other : SystemRegisters}
    (same : registers.get status = other.get status) :
    registers.pushMode.get status = other.pushMode.get status := by
  simp only [pushMode, get_set_self, same]

/-- No interrupt is taken while one of the bits that it needs is clear. -/
theorem takesInterrupts_of_clear
    {registers : SystemRegisters}
    {bits : UInt32}
    (needed : interruptBits &&& bits = bits)
    (nonzero : bits ≠ 0)
    (clear : registers.get status &&& bits = 0) :
    registers.takesInterrupts = false := by
  cases takes : registers.takesInterrupts with
  | false => rfl
  | true =>
      have isSet : registers.get status &&& interruptBits &&& bits = bits := by
        rw [eq_of_beq takes, needed]
      rw [UInt32.and_assoc, needed, clear] at isSet
      exact absurd isSet.symm nonzero

/-- A push of the mode stack disables interrupts. -/
theorem takesInterrupts_of_pushMode
    {registers other : SystemRegisters}
    (pushed : registers.get status = other.pushMode.get status) :
    registers.takesInterrupts = false := by
  have disabled : registers.get status &&& 1 = 0 := by
    have above : ~~~(0x3F : UInt32) &&& 1 = 0 := by decide
    have within : (0x3F : UInt32) &&& 1 = 1 := by decide
    have moved (value : UInt32) : value <<< (2 : UInt32) &&& 1 = 0 := by
      have two : (2 : UInt32).toNat % 32 = 2 := by decide
      have one : (1 : UInt32).toNat = 1 := by decide
      apply UInt32.toNat_inj.1
      rw [UInt32.toNat_and, UInt32.toNat_shiftLeft, two, one, Nat.and_one_is_mod,
        Nat.shiftLeft_eq, UInt32.toNat_zero]
      omega
    simp only [pushed, pushMode, get_set_self]
    rw [word_or_and, UInt32.and_assoc, above, UInt32.and_assoc, within, moved]
    simp
  exact takesInterrupts_of_clear (by decide) (by decide) disabled

/-- Showing the hardware line changes one bit of the cause register. -/
theorem cause_setLine_and
    (registers : SystemRegisters)
    {bits : UInt32}
    (apart : lineBit &&& bits = 0)
    (kept : ~~~lineBit &&& bits = bits)
    (raised : Bool) :
    (registers.setLine raised).get cause &&& bits = registers.get cause &&& bits := by
  simp only [setLine, get_set_self]
  cases raised with
  | true =>
      rw [if_pos rfl, word_or_and, apart]
      simp
  | false => rw [if_neg Bool.false_ne_true, UInt32.and_assoc, kept]

/-- The exception code is the same bits of the cause register, moved down. -/
theorem causeCode_eq (registers : SystemRegisters) :
    registers.causeCode = (registers.get cause &&& 0x7C) >>> (2 : UInt32) := by
  have field : (0x7C : UInt32) >>> (2 : UInt32) = 0x1F := by decide
  rw [UInt32.shiftRight_and, field]
  rfl

@[simp]
theorem causeCode_setLine (registers : SystemRegisters) (raised : Bool) :
    (registers.setLine raised).causeCode = registers.causeCode := by
  rw [causeCode_eq, causeCode_eq, cause_setLine_and _ (by decide) (by decide)]

end SystemRegisters

namespace Cpu

section

variable (cpu : Cpu) (cause : ExceptionCause) (returnAddress : UInt32)
  (inDelaySlot : Bool)

@[simp]
theorem pc_enterException :
    (cpu.enterException cause returnAddress inDelaySlot).registers.pc =
      cpu.system.handler := by
  simp only [enterException, SystemRegisters.handler_pushMode]
  rw [SystemRegisters.handler_set_of_ne _ (by decide),
    SystemRegisters.handler_set_of_ne _ (by decide)]

@[simp]
theorem returnAddress_enterException :
    (cpu.enterException cause returnAddress inDelaySlot).system.get
        SystemRegisters.returnAddress =
      returnAddress := by
  simp only [enterException]
  rw [SystemRegisters.get_pushMode_of_ne _ (by decide),
    SystemRegisters.get_set_self]

/-- What an exception writes to the cause register. -/
theorem cause_enterException :
    (cpu.enterException cause returnAddress inDelaySlot).system.get SystemRegisters.cause =
      cpu.system.get SystemRegisters.cause &&& ~~~SystemRegisters.causeFields |||
          cause.code <<< (2 : UInt32) |||
        if inDelaySlot then SystemRegisters.delaySlotBit else 0 := by
  simp only [enterException]
  rw [SystemRegisters.get_pushMode_of_ne _ (by decide),
    SystemRegisters.get_set_of_ne _ (by decide), SystemRegisters.get_set_self]

/-- The exception shows its code. -/
theorem causeCode_enterException :
    (cpu.enterException cause returnAddress inDelaySlot).system.causeCode =
      cause.code := by
  have field :
      (~~~SystemRegisters.causeFields >>> (2 : UInt32)) &&& (0x1F : UInt32) = 0 := by
    decide
  have slotField :
      ((if inDelaySlot then SystemRegisters.delaySlotBit else 0) >>> (2 : UInt32)) &&&
          (0x1F : UInt32) =
        0 := by
    cases inDelaySlot <;> decide
  have codeField :
      (cause.code <<< (2 : UInt32) >>> (2 : UInt32)) &&& (0x1F : UInt32) = cause.code := by
    cases cause <;> decide
  rw [SystemRegisters.causeCode, cause_enterException, UInt32.shiftRight_or,
    UInt32.shiftRight_or, UInt32.shiftRight_and, word_or_and, word_or_and,
    UInt32.and_assoc, field, slotField, codeField]
  simp

/-- The exception shows whether it was taken in a delay slot. -/
theorem slotBit_enterException :
    (cpu.enterException cause returnAddress inDelaySlot).system.get SystemRegisters.cause &&&
        SystemRegisters.delaySlotBit =
      if inDelaySlot then SystemRegisters.delaySlotBit else 0 := by
  have cleared : ~~~SystemRegisters.causeFields &&& SystemRegisters.delaySlotBit = 0 := by
    decide
  have code : cause.code <<< (2 : UInt32) &&& SystemRegisters.delaySlotBit = 0 := by
    cases cause <;> decide
  rw [cause_enterException, word_or_and, word_or_and, UInt32.and_assoc, cleared, code]
  cases inDelaySlot <;> simp

/-- The other bits of the cause register are kept. -/
theorem causeRest_enterException :
    (cpu.enterException cause returnAddress inDelaySlot).system.get SystemRegisters.cause &&&
        ~~~SystemRegisters.causeFields =
      cpu.system.get SystemRegisters.cause &&& ~~~SystemRegisters.causeFields := by
  have code :
      cause.code <<< (2 : UInt32) &&& ~~~SystemRegisters.causeFields = 0 := by
    cases cause <;> decide
  have slot :
      (if inDelaySlot then SystemRegisters.delaySlotBit else 0) &&&
          ~~~SystemRegisters.causeFields =
        0 := by
    cases inDelaySlot <;> decide
  rw [cause_enterException, word_or_and, word_or_and, UInt32.and_assoc, code, slot]
  simp

/-- An exception pushes the mode stack. -/
theorem status_enterException :
    (cpu.enterException cause returnAddress inDelaySlot).system.get SystemRegisters.status =
      cpu.system.pushMode.get SystemRegisters.status := by
  refine SystemRegisters.status_pushMode_congr ?_
  rw [SystemRegisters.get_set_of_ne _ (by decide),
    SystemRegisters.get_set_of_ne _ (by decide)]

/-- An exception writes no system register but three. -/
theorem get_enterException_of_ne
    {index : Fin 32}
    (notStatus : index ≠ SystemRegisters.status)
    (notCause : index ≠ SystemRegisters.cause)
    (notReturn : index ≠ SystemRegisters.returnAddress) :
    (cpu.enterException cause returnAddress inDelaySlot).system.get index =
      cpu.system.get index := by
  simp only [enterException]
  rw [SystemRegisters.get_pushMode_of_ne _ notStatus,
    SystemRegisters.get_set_of_ne _ notReturn.symm,
    SystemRegisters.get_set_of_ne _ notCause.symm]

end

end Cpu

end PsxPlayer
