import PsxPlayer.Proofs.Cpu.Invariant

namespace PsxPlayer

/-!
# Where the program counter is aligned

No jump checks its target.  A branch, a jump with a field and an exception keep the
program counter at a multiple of four; every other way to set it takes the address from
the guest.  So it stays aligned as long as all these addresses are.
-/

open PsxPlayer.Action

/-- A multiple of four. -/
def IsWordAligned (address : UInt32) : Prop :=
  address.toNat % 4 = 0

instance (address : UInt32) : Decidable (IsWordAligned address) :=
  inferInstanceAs (Decidable (_ = _))

namespace IsWordAligned

variable {address : UInt32}

theorem add_four_mul (aligned : IsWordAligned address) (count : UInt32) :
    IsWordAligned (address + 4 * count) := by
  unfold IsWordAligned at *
  simp only [UInt32.toNat_add, UInt32.toNat_mul, UInt32.reduceToNat]
  omega

theorem add_four (aligned : IsWordAligned address) : IsWordAligned (address + 4) :=
  aligned.add_four_mul 1

theorem sub_four (aligned : IsWordAligned address) : IsWordAligned (address - 4) := by
  unfold IsWordAligned at *
  simp only [UInt32.toNat_sub, UInt32.reduceToNat]
  omega

/-- A jump with a field stays in its region of memory. -/
theorem jumpTarget (address field : UInt32) :
    IsWordAligned ((address &&& 0xF0000000) ||| (4 * field)) := by
  have region : (address &&& 0xF0000000).toNat % 2 ^ 2 = 0 := by
    rw [UInt32.toNat_and, Nat.and_mod_two_pow]
    exact Nat.and_zero _
  have offset : (4 * field).toNat % 2 ^ 2 = 0 := by
    simp only [UInt32.toNat_mul, UInt32.reduceToNat]
    omega
  have both : ((address &&& 0xF0000000) ||| (4 * field)).toNat % 2 ^ 2 = 0 := by
    rw [UInt32.toNat_or, Nat.or_mod_two_pow, region, offset]
    rfl
  exact both

theorem handler (system : SystemRegisters) : IsWordAligned system.handler := by
  unfold SystemRegisters.handler
  split <;> decide

end IsWordAligned

/-- The addresses that the guest supplies for the program counter, at once or for later. -/
inductive Course.Moment.Supplies : Course.Moment → UInt32 → Prop where
  | jump
      {execution : Execution}
      {source : Reg}
      (jumps : execution.instruction = .jumpRegister source) :
      Supplies (.executed execution) (execution.machine.cpu.registers.get source)
  | jumpLink
      {execution : Execution}
      {target source : Reg}
      (jumps : execution.instruction = .jumpLinkRegister target source) :
      Supplies (.executed execution) (execution.machine.cpu.registers.get source)
  | exceptionReturn
      {execution : Execution}
      {source : Reg}
      (writes :
        execution.instruction = .moveToSystem source SystemRegisters.returnAddress) :
      Supplies (.executed execution) (execution.machine.cpu.registers.get source)
  | caller
      {execution : Execution}
      (calls : execution.CallsTable) :
      Supplies (.executed execution) (execution.machine.cpu.registers.get Reg.ra)
  | context
      {execution : Execution}
      (restores : execution.RestoresContext) :
      Supplies (.executed execution)
        (execution.machine.bus.read .word execution.contextAddress)
  | handler (function : UInt32) (machine : Machine) :
      Supplies (.called function machine) function
  | hook
      {machine : Machine}
      (hooked : machine.firmware.hook ≠ 0) :
      Supplies (.delivered machine) (machine.bus.read .word machine.firmware.hook)

/-- All addresses that the guest supplies are multiples of four. -/
def SuppliesAligned (told : List Course.Moment) : Prop :=
  ∀ moment ∈ told, ∀ address, moment.Supplies address → IsWordAligned address

/-- The machine stands at a multiple of four, and so does what it returns to. -/
structure Standing.IsAligned (standing : Standing) : Prop where
  pc : IsWordAligned standing.pc
  returnAddress : IsWordAligned (standing.system.get SystemRegisters.returnAddress)

namespace SuppliesAligned

theorem before
    {told later : List Course.Moment}
    (aligned : SuppliesAligned (told ++ later)) :
    SuppliesAligned told :=
  fun moment member => aligned moment (List.mem_append_left _ member)

theorem at_moment
    {told later : List Course.Moment}
    {moment : Course.Moment}
    (aligned : SuppliesAligned (told ++ [moment] ++ later))
    {address : UInt32}
    (supplies : moment.Supplies address) :
    IsWordAligned address :=
  aligned moment (by simp) address supplies

theorem at_end
    {told : List Course.Moment}
    {moment : Course.Moment}
    (aligned : SuppliesAligned (told ++ [moment]))
    {address : UInt32}
    (supplies : moment.Supplies address) :
    IsWordAligned address :=
  aligned moment (by simp) address supplies

end SuppliesAligned

namespace SystemRegisters

variable {registers : SystemRegisters}

/-- Popping the mode stack changes the status register only. -/
theorem get_popMode_of_ne
    (registers : SystemRegisters)
    {index : Fin 32}
    (differs : index ≠ status) :
    registers.popMode.get index = registers.get index :=
  registers.get_set_of_ne differs.symm _

end SystemRegisters

/-- Raising an exception keeps the program counter and its return address aligned. -/
theorem Cpu.isAligned_raise
    (cpu : Cpu)
    (cause : ExceptionCause)
    (aligned : IsWordAligned cpu.registers.pc) :
    IsWordAligned (cpu.raise cause).registers.pc ∧
      IsWordAligned ((cpu.raise cause).system.get SystemRegisters.returnAddress) := by
  simp only [raise, pc_enterException, returnAddress_enterException]
  refine ⟨.handler _, ?_⟩
  split
  · exact aligned.sub_four.sub_four
  · exact aligned.sub_four

namespace Execution

variable {execution : Execution} {standing : Standing}

/-- A transfer goes to an aligned address if the guest supplies no other. -/
theorem isWordAligned_target
    {target : UInt32}
    (transfers : execution.target? = some target)
    (aligned : IsWordAligned execution.machine.cpu.registers.pc)
    (supplies :
      ∀ address,
        (Course.Moment.executed execution).Supplies address → IsWordAligned address) :
    IsWordAligned target := by
  rcases execution with ⟨instruction, machine⟩
  cases instruction <;>
    simp only [target?, Instruction.target?, Option.some.injEq, reduceCtorEq] at transfers
  case jump field =>
    subst transfers
    exact .jumpTarget _ _
  case jumpLink field =>
    subst transfers
    exact .jumpTarget _ _
  case jumpRegister source =>
    subst transfers
    exact supplies _ (.jump rfl)
  case jumpLinkRegister link source =>
    subst transfers
    exact supplies _ (.jumpLink rfl)
  case branch test first second offset =>
    split at transfers
    · cases transfers
      exact aligned.add_four_mul _
    · cases transfers
  case branchSign nonNegative links source offset =>
    split at transfers
    · cases transfers
      exact aligned.add_four_mul _
    · cases transfers

/-- The function that delivers an event returns to its caller. -/
theorem CallsTable.of_delivery
    (serves : execution.guestService? = some .delivery) :
    execution.CallsTable := by
  have delivers : execution.CallsKernel .deliverEvent := by
    unfold guestService? at serves
    split at serves
    · cases serves
    · split at serves
      · next calls => exact calls
      · cases serves
  refine ⟨.inr (.inl delivers.1), fun restores => ?_, fun returns => ?_⟩
  · cases restores.1.symm.trans delivers.1
  · cases returns.2.symm.trans delivers.2

theorem returnAddress_granted :
    execution.granted.get SystemRegisters.returnAddress =
      execution.machine.cpu.system.get SystemRegisters.returnAddress := by
  unfold granted
  simp only
  split
  · split
    · exact SystemRegisters.get_set_of_ne _ (by decide) _
    · split
      · exact SystemRegisters.get_set_of_ne _ (by decide) _
      · rfl
  · rfl

/-- What nests no other goes on at an aligned address if the guest supplies no other. -/
theorem Leaves.isAligned
    (leaves : execution.Leaves standing)
    (aligned : execution.machine.standing.IsAligned)
    (supplies :
      ∀ address,
        (Course.Moment.executed execution).Supplies address → IsWordAligned address) :
    standing.IsAligned := by
  have popped :
      IsWordAligned
        (execution.machine.cpu.system.popMode.get SystemRegisters.returnAddress) := by
    rw [SystemRegisters.get_popMode_of_ne _ (by decide)]
    exact aligned.returnAddress
  cases leaves with
  | undisturbed => exact aligned
  | raised raises entered sameFirmware =>
      obtain ⟨cause, same | ⟨address, same⟩⟩ := entered
      · have raised := execution.machine.cpu.isAligned_raise cause aligned.pc
        rw [← same] at raised
        exact ⟨raised.1, raised.2⟩
      · have raised :=
          Cpu.isAligned_raise
            { execution.machine.cpu with
              system :=
                execution.machine.cpu.system.set SystemRegisters.badAddress address }
            cause aligned.pc
        have unfolded := same
        rw [Cpu.raiseAddress] at unfolded
        rw [← unfolded] at raised
        exact ⟨raised.1, raised.2⟩
  | systemWritten writes =>
      rename_i source index
      refine ⟨aligned.pc, ?_⟩
      by_cases returns : index = SystemRegisters.returnAddress
      · subst returns
        simp only [SystemRegisters.get_set_self]
        exact supplies _ (.exceptionReturn writes)
      · simp only [SystemRegisters.get_set_of_ne _ returns]
        exact aligned.returnAddress
  | modePopped => exact ⟨aligned.pc, popped⟩
  | exceptionServed called noInterrupt =>
      refine ⟨aligned.returnAddress.add_four, ?_⟩
      simp only
      rw [SystemRegisters.get_popMode_of_ne _ (by decide), returnAddress_granted]
      exact aligned.returnAddress
  | tableReturned calls => exact ⟨supplies _ (.caller calls), aligned.returnAddress⟩
  | contextRestored restores =>
      exact ⟨supplies _ (.context restores), aligned.returnAddress⟩
  | interruptLeft calls address returns =>
      refine ⟨?_, popped⟩
      rcases returns with rfl | rfl
      · exact aligned.returnAddress
      · exact aligned.returnAddress.add_four

end Execution

namespace Machine

/-- The check for interrupts on arrival goes on at an aligned address. -/
theorem isAligned_checked
    {machine : Machine}
    (aligned : machine.standing.IsAligned) :
    machine.checked.standing.IsAligned := by
  have line (raised : Bool) :
      (machine.withSystem (machine.cpu.system.setLine raised)).standing.IsAligned := by
    refine ⟨aligned.pc, ?_⟩
    have same :
        (machine.cpu.system.setLine raised).get SystemRegisters.returnAddress =
          machine.cpu.system.get SystemRegisters.returnAddress :=
      SystemRegisters.get_set_of_ne _ (by decide) _
    simp only [standing, withSystem_system, same]
    exact aligned.returnAddress
  unfold checked
  split
  · split
    · constructor
      · simp only [standing, interrupted, Cpu.pc_enterException]
        exact .handler _
      · simp only [standing, interrupted, Cpu.returnAddress_enterException]
        exact aligned.pc
    · exact line true
  · exact line false

end Machine

/-- While the guest supplies aligned addresses only, the machine stands at one. -/
theorem isInvariant_alignment :
    IsInvariant fun told standing => SuppliesAligned told → standing.IsAligned where
  fetched holds supplied :=
    have aligned := holds supplied
    ⟨aligned.pc.add_four, aligned.returnAddress⟩
  entered _ holds supplied := holds supplied.before
  transferred := by
    intro told later execution target standing transfers before holds supplied
    have stood := before supplied.before.before
    exact
      ⟨Execution.isWordAligned_target transfers stood.pc fun _ => supplied.at_moment,
        (holds supplied).returnAddress⟩
  left _ _ holds leaves supplied :=
    leaves.isAligned (holds supplied.before) fun _ => supplied.at_end
  arrived holds supplied := holds supplied.before
  checked holds supplied := Machine.isAligned_checked (holds supplied.before)
  called function holds supplied :=
    ⟨supplied.at_end (.handler function _), (holds supplied.before).returnAddress⟩
  returned before holds supplied :=
    ⟨(before supplied.before.before).pc, (holds supplied).returnAddress⟩
  delivering := by
    intro told execution serves holds supplied
    exact
      ⟨supplied.at_end (.caller (.of_delivery serves)),
        (holds supplied.before).returnAddress⟩
  interrupting _ holds supplied :=
    have aligned := holds supplied.before
    ⟨aligned.pc, aligned.returnAddress⟩
  goneOn := by
    intro told later execution delivered serves before holds supplied
    have returns := (before supplied.before.before.before).returnAddress
    have aligned := holds supplied.before
    split
    · next hooked => exact ⟨supplied.at_end (.hook hooked), aligned.returnAddress⟩
    · refine ⟨returns, ?_⟩
      have same :
          delivered.cpu.system.popMode.get SystemRegisters.returnAddress =
            delivered.cpu.system.get SystemRegisters.returnAddress :=
        SystemRegisters.get_popMode_of_ne _ (by decide)
      simp only [Machine.standing, Machine.resumed, Machine.withSystem_system, same]
      exact aligned.returnAddress

namespace Course

/--
A run that starts at an aligned address stays at aligned addresses, however deeply what
happens is nested and even if it ends with a fault, as long as the guest supplies no
other address: by a jump to a register, as the caller of a firmware function, in a saved
context, as the handler of an event, or by writing the exception's return address.
-/
theorem steps_keepAlignment
    (depth count : Nat)
    {machine : Machine}
    (start : machine.standing.IsAligned)
    (supplied : SuppliesAligned (steps depth count machine).moments) :
    (steps nestingLimit count machine).outcome = (Action.steps count).run machine ∧
      (∀ moment ∈ (steps depth count machine).moments,
        IsWordAligned moment.machine.cpu.registers.pc) ∧
      (∀ last,
        (steps depth count machine).outcome = .ok () last →
          IsWordAligned last.cpu.registers.pc) ∧
      ∀ fault failed,
        (steps depth count machine).outcome = .error fault failed →
          fault ≠ .nestingTooDeep →
          IsWordAligned failed.cpu.registers.pc := by
  have starts : SuppliesAligned [] → machine.standing.IsAligned := fun _ => start
  refine ⟨outcome_steps count machine, ?_, ?_, ?_⟩
  · intro moment member
    obtain ⟨before, after, happened⟩ := List.mem_iff_append.1 member
    rw [happened] at supplied
    exact (holds_at_moment isInvariant_alignment starts happened supplied.before).pc
  · intro last ended
    exact (holds_at_end isInvariant_alignment starts ended supplied).pc
  · intro fault failed ended notTooDeep
    exact (holds_at_fault isInvariant_alignment starts ended notTooDeep supplied).pc

end Course

/-- A jump to t0 with nothing in its delay slot. -/
def registerJump : List (UInt32 × UInt32) :=
  [(0x80010000, 0x01000008), (0x80010004, 0)]

/-- A machine about to jump to `target`. -/
def jumping (target : UInt32) : Machine :=
  (Machine.guest registerJump 0x80010000).withRegisters
    { Registers.initial.set 8 target with pc := 0x80010000 }

namespace Course

/-- Nothing but the jump happens. -/
theorem execution_jumping (depth : Nat) (target : UInt32) :
    execution (depth + 2) (jumping target).execution =
      ⟨[.executed ⟨.jumpRegister 8, (jumping target).fetched⟩,
          .executed ⟨.shift .left 0 0 0, (jumping target).fetched.inSlot⟩,
          .arrived ((jumping target).fetched.inSlot.atTarget target),
          .checked ((jumping target).fetched.inSlot.atTarget target)],
        (checkInterrupts ((jumping target).fetched.loopsTo target)).run
          ((jumping target).fetched.inSlot.atTarget target)⟩ := by
  let jump : Execution := ⟨.jumpRegister 8, (jumping target).fetched⟩
  have jumps : (jumping target).execution = jump :=
    (show (jumping target).Holds registerJump from rfl).execution_eq 0x80010000 0x01000008
      (by decide) rfl (by decide) (by decide) (by decide)
  have slot :
      jump.delaySlot = ⟨.shift .left 0 0 0, (jumping target).fetched.inSlot⟩ :=
    (show jump.machine.Holds registerJump from rfl).delaySlot_eq 0x80010004 0
      (by decide) rfl (by decide) (by decide) (by decide)
  have transfers : jump.target? = some target :=
    congrArg some (Registers.get_set_self Registers.initial (by decide) target)
  have early :
      (jumping target).fetched.inSlot.bus.counters.deadlineReached = false := by
    have ticked :
        (jumping target).fetched.inSlot.bus =
          (Machine.guest registerJump 0x80010000).bus.tick.tick :=
      rfl
    rw [ticked]
    decide
  rw [jumps,
    execution_of_slot depth transfers (by rw [slot]; rfl) (by rw [slot]; rfl)
      (by rw [slot]; rfl) (by rw [slot]; rfl) rfl early,
    slot]
  rfl

/-- A step of the jump. -/
theorem steps_jumping (depth : Nat) (target : UInt32) :
    ∃ bus,
      steps (depth + 2) 1 (jumping target) =
        ⟨[.executed ⟨.jumpRegister 8, (jumping target).fetched⟩,
            .executed ⟨.shift .left 0 0 0, (jumping target).fetched.inSlot⟩,
            .arrived ((jumping target).fetched.inSlot.atTarget target),
            .checked ((jumping target).fetched.inSlot.atTarget target)],
          .ok ()
            (((jumping target).fetched.inSlot.atTarget target).checked.withBus bus)⟩ := by
  obtain ⟨bus, -, checked⟩ :=
    run_checkInterrupts ((jumping target).fetched.loopsTo target)
      ((jumping target).fetched.inSlot.atTarget target)
  have passed := execution_jumping depth target
  rw [checked] at passed
  refine ⟨bus, ?_⟩
  rw [steps, andThen_of_ok (congrArg Course.outcome passed), passed]
  rfl

/-- A jump to an aligned address keeps the machine at aligned addresses. -/
theorem jumping_keepsAlignment :
    (jumping 0x80010000).standing.IsAligned ∧
      SuppliesAligned (steps 2 1 (jumping 0x80010000)).moments ∧
      ∀ moment ∈ (steps 2 1 (jumping 0x80010000)).moments,
        IsWordAligned moment.machine.cpu.registers.pc := by
  have start : (jumping 0x80010000).standing.IsAligned := ⟨by decide, by decide⟩
  have supplied : SuppliesAligned (steps 2 1 (jumping 0x80010000)).moments := by
    obtain ⟨bus, stepped⟩ := steps_jumping 0 0x80010000
    rw [stepped]
    intro moment member address supplies
    simp only [List.mem_cons, List.not_mem_nil, or_false] at member
    rcases member with rfl | rfl | rfl | rfl
    · cases supplies with
      | jump jumps =>
          cases jumps
          decide
      | jumpLink jumps => cases jumps
      | exceptionReturn writes => cases writes
      | caller calls => rcases calls.isTable with other | other | other <;> cases other
      | context restores => cases restores.1
    · cases supplies with
      | jump jumps => cases jumps
      | jumpLink jumps => cases jumps
      | exceptionReturn writes => cases writes
      | caller calls => rcases calls.isTable with other | other | other <;> cases other
      | context restores => cases restores.1
    · cases supplies
    · cases supplies
  exact ⟨start, supplied, (steps_keepAlignment 2 1 start supplied).2.1⟩

/-- A jump to any other address leaves the program counter there. -/
theorem jumping_losesAlignment :
    (jumping 0x80010002).standing.IsAligned ∧
      ∃ after,
        (Action.steps 1).run (jumping 0x80010002) = .ok () after ∧
          ¬IsWordAligned after.cpu.registers.pc := by
  have limit : nestingLimit = 0xFFFFE + 2 := by decide
  have start : (jumping 0x80010002).standing.IsAligned := ⟨by decide, by decide⟩
  obtain ⟨bus, stepped⟩ := steps_jumping 0xFFFFE 0x80010002
  have misplaced :
      ¬IsWordAligned
        ((jumping 0x80010002).fetched.inSlot.atTarget
            0x80010002).checked.cpu.registers.pc := by
    decide
  rw [← outcome_steps, limit, stepped]
  exact ⟨start, _, rfl, misplaced⟩

end Course

end PsxPlayer
