import PsxPlayer.Proofs.Cpu.Unread

namespace PsxPlayer

/-!
# Loads that are held back

A load in a delay slot that the target reads is carried out at once.  The register
then gets its old value back for one instruction.
-/

namespace Machine

/-- The machine after a jump or branch at the program counter has linked. -/
def branched (machine : Machine) : Machine :=
  machine.fetched.withRegisters
    (machine.nextInstruction.linked machine.fetched.cpu.registers)

/-- Without a load that is held back, register 0 has nothing to overlay. -/
theorem overlaid_zero
    (machine : Machine)
    (nothingHeld : machine.cpu.deferredLoad? = none)
    (value : UInt32) :
    machine.overlaid 0 value none = machine := by
  rw [← nothingHeld]
  unfold overlaid Cpu.overlaid
  simp only [Registers.set_zero]

/-- Without a load that is held back, an overlay is a write. -/
theorem overlaid_eq_withRegisters
    (machine : Machine)
    (nothingHeld : machine.cpu.deferredLoad? = none)
    (register : Reg)
    (value : UInt32) :
    machine.overlaid register value none =
      machine.withRegisters (machine.cpu.registers.set register value) := by
  rw [← nothingHeld]
  rfl

/-- An overlay does not change the next instruction. -/
@[simp]
theorem nextInstruction_overlaid
    (machine : Machine)
    (register : Reg)
    (value : UInt32)
    (deferred? : Option (Reg × UInt32)) :
    (machine.overlaid register value deferred?).nextInstruction =
      machine.nextInstruction := by
  simp [nextInstruction, nextWord, overlaid, Cpu.overlaid]

end Machine

namespace Action

/-- A load either raises an exception or gives its register a value. -/
theorem load_outcome
    (op : LoadOp)
    (register base : Reg)
    (offset : UInt32)
    (machine : Machine) :
    ∃ after,
      (load op register base offset).run machine = .ok () after ∧
        (after.cpu.exceptionTaken = true ∨
          ∃ value,
            after = machine.withRegisters (machine.cpu.registers.set register value)) := by
  have aligned (width : Width) (extend : UInt32 → UInt32) (address : UInt32) :
      ∃ after,
        (loadAligned width extend register address).run machine = .ok () after ∧
          (after.cpu.exceptionTaken = true ∨
            ∃ value,
              after =
                machine.withRegisters (machine.cpu.registers.set register value)) := by
    unfold loadAligned
    split
    · exact ⟨_, rfl, .inr ⟨_, rfl⟩⟩
    · exact ⟨_, rfl, .inl rfl⟩
  have part (paste : UInt32 → UInt32 → UInt32) (address : UInt32) :
      ∃ after,
        (loadPart paste register address).run machine = .ok () after ∧
          (after.cpu.exceptionTaken = true ∨
            ∃ value,
              after =
                machine.withRegisters (machine.cpu.registers.set register value)) :=
    ⟨_, rfl, .inr ⟨_, rfl⟩⟩
  rw [load, EStateM.run_bind, run_getReg]
  cases op with
  | signedByte => exact aligned _ _ _
  | byte => exact aligned _ _ _
  | signedHalf => exact aligned _ _ _
  | half => exact aligned _ _ _
  | word => exact aligned _ _ _
  | left => exact part _ _
  | right => exact part _ _

section

variable {machine after : Machine} {load : Action Unit} {register : Reg}
  {loaded target : UInt32}

theorem run_arrive_of_calm
    (calm : machine.cpu.exceptionTaken = false)
    (target : UInt32) :
    (arrive target false).run machine = (settle false).run (machine.atTarget target) := by
  rw [run_arrive, calm, if_neg Bool.false_ne_true]

/-- Carry out a load in a delay slot and go on with its register's old and new value. -/
def loadAround
    (load : Action Unit)
    (register : Reg)
    (next : UInt32 → UInt32 → Action Unit) :
    Action Unit := do
  let old ← getReg register
  load
  leaveDelaySlot
  unless ← ofCpu Cpu.exceptionTaken do
    let loaded ← getReg register
    next old loaded

theorem run_loadAround_of_exception
    (next : UInt32 → UInt32 → Action Unit)
    (ran : load.run machine = .ok () after)
    (taken : after.cpu.exceptionTaken = true) :
    (loadAround load register next).run machine = .ok () after.slotLeft := by
  have stillTaken : after.slotLeft.cpu.exceptionTaken = true := taken
  rw [loadAround, EStateM.run_bind, run_getReg]
  simp only
  rw [EStateM.run_bind, ran]
  simp only [EStateM.run_bind, run_leaveDelaySlot, run_ofCpu, stillTaken, ↓reduceIte,
    EStateM.run_pure]

theorem run_loadAround_of_value
    (next : UInt32 → UInt32 → Action Unit)
    (nonzero : register ≠ 0)
    (calm : machine.cpu.exceptionTaken = false)
    (ran :
      load.run machine =
        .ok () (machine.withRegisters (machine.cpu.registers.set register loaded))) :
    (loadAround load register next).run machine =
      (next (machine.cpu.registers.get register) loaded).run
        (machine.withRegisters (machine.cpu.registers.set register loaded)).slotLeft := by
  have stillCalm :
      (machine.withRegisters
          (machine.cpu.registers.set register loaded)).slotLeft.cpu.exceptionTaken =
        false :=
    calm
  have value :
      (machine.withRegisters
            (machine.cpu.registers.set register loaded)).slotLeft.cpu.registers.get
          register =
        loaded :=
    Registers.get_set_self _ nonzero _
  rw [loadAround, EStateM.run_bind, run_getReg]
  simp only
  rw [EStateM.run_bind, ran]
  simp only [EStateM.run_bind, run_leaveDelaySlot, run_ofCpu, stillCalm, run_getReg,
    value, Bool.false_eq_true, ↓reduceIte]

theorem run_transferHolding_of_exception
    (step : Action Unit)
    (ran : load.run machine = .ok () after)
    (taken : after.cpu.exceptionTaken = true) :
    (transferHolding load step register target).run machine = .ok () after.slotLeft :=
  run_loadAround_of_exception _ ran taken

theorem run_transferHolding_of_value
    (step : Action Unit)
    (nonzero : register ≠ 0)
    (calm : machine.cpu.exceptionTaken = false)
    (ran :
      load.run machine =
        .ok () (machine.withRegisters (machine.cpu.registers.set register loaded))) :
    (transferHolding load step register target).run machine =
      (step >>= fun _ => commitDeferredLoad >>= fun _ => settle false).run
        ((machine.atTarget target).overlaid 0 0 (some (register, loaded))) := by
  have moved (machine : Machine) :
      (setPc target).run machine.slotLeft = .ok () (machine.atTarget target) :=
    rfl
  have held :
      (deferLoad register (machine.cpu.registers.get register) loaded).run
          ((machine.withRegisters
                (machine.cpu.registers.set register loaded)).atTarget target) =
        .ok () ((machine.atTarget target).overlaid 0 0 (some (register, loaded))) := by
    rw [deferLoad, run_modifyCpu, Machine.atTarget]
    simp only [Machine.withRegisters_registers, Registers.set_withPc, Registers.set_set,
      Registers.set_get]
    rfl
  refine (run_loadAround_of_value _ nonzero calm ran).trans ?_
  rw [EStateM.run_bind, moved]
  simp only
  rw [EStateM.run_bind, held]

end

end Action

end PsxPlayer
