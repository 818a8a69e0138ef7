import PsxPlayer.Proofs.Cpu.Invariant

namespace PsxPlayer

/-!
# Critical sections

The system call that enters a critical section masks the hardware line.  Exceptions and
returns from them move the other bits of the status register only, so that the line
stays masked, and no interrupt is taken, until the section is left or the guest writes
the status register itself.
-/

open PsxPlayer.Action

namespace SystemRegisters

/-- Status bit 10: the hardware line is unmasked. -/
def lineMask : UInt32 := 0x400

/-- The hardware line is masked. -/
def MasksLine (registers : SystemRegisters) : Prop :=
  registers.get status &&& lineMask = 0

variable {registers : SystemRegisters}

theorem masksLine_set_of_ne
    {index : Fin 32}
    (differs : index ≠ status)
    (value : UInt32) :
    (registers.set index value).MasksLine ↔ registers.MasksLine := by
  rw [MasksLine, MasksLine, registers.get_set_of_ne differs]

@[simp]
theorem masksLine_setLine (raised : Bool) :
    (registers.setLine raised).MasksLine ↔ registers.MasksLine :=
  masksLine_set_of_ne (by decide) _

@[simp]
theorem masksLine_pushMode : registers.pushMode.MasksLine ↔ registers.MasksLine := by
  rw [MasksLine, MasksLine, registers.status_pushMode_and (by decide) (by decide)]

@[simp]
theorem masksLine_popMode : registers.popMode.MasksLine ↔ registers.MasksLine := by
  rw [MasksLine, MasksLine, registers.status_popMode_and (by decide) (by decide)]

/-- While the line is masked, no interrupt is taken. -/
theorem MasksLine.takesInterrupts
    (masks : registers.MasksLine) :
    registers.takesInterrupts = false :=
  takesInterrupts_of_clear (by decide) (by decide) masks

/-- Bits that are set are found among others. -/
theorem or_and_of_subset
    {bits part : UInt32}
    (subset : bits &&& part = part)
    (value : UInt32) :
    (value ||| bits) &&& part = part := by
  rw [word_or_and, subset]
  have absorbed : (value &&& part ||| part).toBitVec = part.toBitVec := by
    simp only [UInt32.toBitVec_or, UInt32.toBitVec_and]
    ext index
    simp
  exact UInt32.toBitVec_inj.1 absorbed

/-- Setting the previous enable bit and the line mask lets a return enable interrupts. -/
theorem interruptBits_popMode (registers : SystemRegisters) (value : UInt32) :
    (registers.set status (value ||| criticalBits)).popMode.get status &&& interruptBits =
      interruptBits := by
  have moved :
      (value ||| criticalBits) >>> (2 : UInt32) =
        value >>> (2 : UInt32) ||| criticalBits >>> (2 : UInt32) :=
    UInt32.shiftRight_or
  have enable :
      ((value ||| criticalBits) >>> (2 : UInt32) &&& 0x0F) &&& interruptBits = 1 := by
    have part : (0x0F : UInt32) &&& interruptBits = 1 := by decide
    rw [UInt32.and_assoc, part, moved]
    exact or_and_of_subset (by decide) _
  have unmask :
      ((value ||| criticalBits) &&& ~~~(0x0F : UInt32)) &&& interruptBits = lineMask := by
    have part : ~~~(0x0F : UInt32) &&& interruptBits = lineMask := by decide
    rw [UInt32.and_assoc, part]
    exact or_and_of_subset (by decide) _
  simp only [popMode, get_set_self]
  rw [word_or_and, enable, unmask]
  decide

end SystemRegisters

@[simp]
theorem Cpu.masksLine_enterException
    (cpu : Cpu)
    (cause : ExceptionCause)
    (returnAddress : UInt32)
    (inDelaySlot : Bool) :
    (cpu.enterException cause returnAddress inDelaySlot).system.MasksLine ↔
      cpu.system.MasksLine := by
  simp only [enterException, SystemRegisters.masksLine_pushMode]
  rw [SystemRegisters.masksLine_set_of_ne (by decide),
    SystemRegisters.masksLine_set_of_ne (by decide)]

namespace Execution

/-- The exception trap serves a system call with this request. -/
def ServesCall (execution : Execution) (request : UInt32) : Prop :=
  execution.trap? = some .exception ∧
    execution.causeCode = ExceptionCause.syscall.code ∧
      execution.machine.cpu.registers.get Reg.a0 = request

/-- A critical section is entered. -/
def EntersCritical (execution : Execution) : Prop :=
  execution.ServesCall 1

/-- A critical section is left. -/
def LeavesCritical (execution : Execution) : Prop :=
  execution.ServesCall 2

/-- The guest writes the status register. -/
def WritesStatus (execution : Execution) : Prop :=
  ∃ source, execution.instruction = .moveToSystem source SystemRegisters.status

end Execution

namespace Course.Moment

/-- A critical section is entered. -/
def EntersCritical : Course.Moment → Prop
  | .executed execution => execution.EntersCritical
  | _ => False

/-- A critical section ends: it is left, or the guest writes the status register. -/
def EndsCritical : Course.Moment → Prop
  | .executed execution => execution.LeavesCritical ∨ execution.WritesStatus
  | _ => False

end Course.Moment

/-- A critical section has been entered that has not ended. -/
abbrev InCriticalSection : List Course.Moment → Prop :=
  Lasts Course.Moment.EntersCritical Course.Moment.EndsCritical

namespace Execution

variable {execution : Execution} {standing : Standing}

/-- The exception trap leaves the machine behind the exception that it serves. -/
theorem Leaves.of_exception
    (leaves : execution.Leaves standing)
    (called : execution.trap? = some .exception) :
    standing.system = execution.granted.popMode := by
  obtain ⟨code, isTrap, -⟩ := instruction_of_trap called
  have notTable {trap : Trap} (other : execution.trap? = some trap) : trap = .exception :=
    Option.some.inj (other.symm.trans called)
  cases leaves with
  | undisturbed noException => exact absurd called noException
  | raised raises =>
      rw [Raises, isTrap] at raises
      cases raises
  | systemWritten writes => cases isTrap.symm.trans writes
  | modePopped pops => cases isTrap.symm.trans pops
  | exceptionServed => rfl
  | tableReturned table =>
      rcases table.isTable with other | other | other <;> cases notTable other
  | contextRestored restores => cases notTable restores.1
  | interruptLeft calls => cases notTable calls.1

/-- Entering a critical section masks the line. -/
theorem EntersCritical.masksLine
    (enters : execution.EntersCritical)
    (leaves : execution.Leaves standing) :
    standing.system.MasksLine := by
  obtain ⟨called, call, request⟩ := enters
  have cleared : ~~~criticalBits &&& SystemRegisters.lineMask = 0 := by decide
  rw [leaves.of_exception called, SystemRegisters.masksLine_popMode, granted]
  simp only [if_pos call, if_pos request]
  rw [SystemRegisters.MasksLine, SystemRegisters.get_set_self, UInt32.and_assoc, cleared]
  simp

/-- What does not end a critical section keeps the line masked. -/
theorem Leaves.masksLine
    (leaves : execution.Leaves standing)
    (noLeave : ¬execution.LeavesCritical)
    (noWrite : ¬execution.WritesStatus)
    (masks : execution.machine.cpu.system.MasksLine) :
    standing.system.MasksLine := by
  cases leaves with
  | undisturbed noException => exact masks
  | raised raises entered sameFirmware =>
      obtain ⟨cause, same | ⟨address, same⟩⟩ := entered
      · simpa [Machine.standing, same, Cpu.raise] using masks
      · have written :
            (execution.machine.cpu.system.set SystemRegisters.badAddress
                address).MasksLine :=
          (SystemRegisters.masksLine_set_of_ne (by decide) _).2 masks
        simpa [Machine.standing, same, Cpu.raiseAddress, Cpu.raise] using written
  | systemWritten writes =>
      rename_i source index
      have other : index ≠ SystemRegisters.status := by
        rintro rfl
        exact noWrite ⟨source, writes⟩
      exact (SystemRegisters.masksLine_set_of_ne other _).2 masks
  | modePopped pops => exact SystemRegisters.masksLine_popMode.2 masks
  | exceptionServed called noInterrupt =>
      rw [SystemRegisters.masksLine_popMode]
      unfold granted
      simp only
      split
      · next call =>
          split
          · next enters =>
              have entered : execution.EntersCritical := ⟨called, call, enters⟩
              have left := Leaves.exceptionServed called noInterrupt
              have masked := entered.masksLine left
              simpa [granted, call, enters] using masked
          · split
            · next leaves => exact absurd ⟨called, call, leaves⟩ noLeave
            · exact masks
      · exact masks
  | tableReturned => exact masks
  | contextRestored => exact masks
  | interruptLeft => exact SystemRegisters.masksLine_popMode.2 masks

/-- A system call calls no guest function. -/
theorem ServesCall.guestService?_eq_none
    {request : UInt32}
    (serves : execution.ServesCall request) :
    execution.guestService? = none := by
  have noInterrupt : ¬execution.causeCode = ExceptionCause.interrupt.code := by
    rw [serves.2.1]
    decide
  simp [guestService?, CallsKernel, serves.1, noInterrupt]

/-- Leaving a critical section enables interrupts and unmasks the line. -/
theorem LeavesCritical.interruptBits
    (leavesCritical : execution.LeavesCritical)
    (leaves : execution.Leaves standing) :
    standing.system.get SystemRegisters.status &&& SystemRegisters.interruptBits =
      SystemRegisters.interruptBits := by
  obtain ⟨called, call, request⟩ := leavesCritical
  have notEnter : ¬execution.machine.cpu.registers.get Reg.a0 = 1 := by
    rw [request]
    decide
  rw [leaves.of_exception called, granted]
  simp only [if_pos call, if_neg notEnter, if_pos request]
  exact SystemRegisters.interruptBits_popMode _ _

/-- The trap that serves the call to leave a critical section returns. -/
theorem LeavesCritical.outcome
    (leavesCritical : execution.LeavesCritical)
    (depth : Nat) :
    ∃ left,
      execution.run (depth + 1) = .ok () left ∧
        left.cpu.system.get SystemRegisters.status &&& SystemRegisters.interruptBits =
          SystemRegisters.interruptBits := by
  have noInterrupt : execution.causeCode ≠ ExceptionCause.interrupt.code := by
    rw [leavesCritical.2.1]
    decide
  obtain ⟨left, ran, leaves, -⟩ :=
    exception_outcome leavesCritical.1 noInterrupt (stepWith (executeNested depth))
  refine ⟨left, ?_, leavesCritical.interruptBits leaves⟩
  rw [run_succ, run_executeWith_of_trap leavesCritical.1, ran]

end Execution

namespace Machine

/-- The check for interrupts on arrival does not unmask the line. -/
theorem masksLine_checked
    {machine : Machine}
    (masks : machine.cpu.system.MasksLine) :
    machine.checked.cpu.system.MasksLine := by
  obtain ⟨raised, same⟩ :=
    machine.checked_of_ignored
      ((SystemRegisters.masksLine_setLine true).2 masks).takesInterrupts
  rw [same]
  exact (SystemRegisters.masksLine_setLine raised).2 masks

end Machine

/-- In a critical section, the line is masked. -/
theorem isInvariant_criticalSection :
    IsInvariant fun told standing =>
      InCriticalSection told → standing.system.MasksLine where
  fetched holds := holds
  entered := by
    intro told execution target transfers holds inside
    refine holds (inside.of_append fun enters => ?_).1
    rw [Execution.target?_eq_none enters.1] at transfers
    cases transfers
  transferred _ _ holds := holds
  left := by
    intro told execution standing untaken noService holds leaves inside
    rcases (Lasts.append_iff told _).1 inside with enters | ⟨stays, lasts⟩
    · exact Execution.EntersCritical.masksLine enters leaves
    · exact leaves.masksLine (fun left => lasts (.inl left))
        (fun writes => lasts (.inr writes)) (holds stays)
  arrived holds inside := holds (inside.of_append id).1
  checked holds inside := Machine.masksLine_checked (holds (inside.of_append id).1)
  called function holds inside := holds (inside.of_append id).1
  returned _ holds := holds
  delivering := by
    intro told execution serves holds inside
    refine holds (inside.of_append fun enters => ?_).1
    rw [Execution.ServesCall.guestService?_eq_none enters] at serves
    cases serves
  interrupting := by
    intro told execution serves holds inside
    refine holds (inside.of_append fun enters => ?_).1
    rw [Execution.ServesCall.guestService?_eq_none enters] at serves
    cases serves
  goneOn := by
    intro told later execution delivered serves before holds inside
    have masks := holds (inside.of_append id).1
    split
    · exact masks
    · exact SystemRegisters.masksLine_popMode.2 masks

namespace Course

/--
Between the entry into a critical section and its end, no interrupt is taken, however
deeply what happens is nested; and once the section has been left, interrupts are
enabled and the line is unmasked.
-/
theorem interrupt_after_criticalSection (depth count : Nat) (machine : Machine) :
    ((steps nestingLimit count machine).outcome = (Action.steps count).run machine) ∧
      (∀ before entry within arrival after,
        (steps depth count machine).moments =
            before ++ .executed entry :: (within ++ .checked arrival :: after) →
          entry.EntersCritical →
          arrival.MeetsInterrupt →
          ∃ moment ∈ within, moment.EndsCritical) ∧
        ∀ exit : Execution,
          exit.LeavesCritical →
          ∃ left,
            exit.run (depth + 1) = .ok () left ∧
              left.cpu.system.get SystemRegisters.status &&&
                  SystemRegisters.interruptBits =
                SystemRegisters.interruptBits := by
  refine ⟨outcome_steps count machine, ?_, fun exit leaves => leaves.outcome depth⟩
  intro before entry within arrival after happened enters meets
  by_cases ended : ∃ moment ∈ within, moment.EndsCritical
  · exact ended
  · have lasts : ∀ moment ∈ within, ¬moment.EndsCritical := fun moment member ends =>
      ended ⟨moment, member, ends⟩
    have regrouped :
        (steps depth count machine).moments =
          (before ++ .executed entry :: within) ++ .checked arrival :: after := by
      rw [happened, List.append_assoc, List.cons_append]
    have masks : arrival.cpu.system.MasksLine :=
      holds_at_moment isInvariant_criticalSection (fun inside => inside.elim) regrouped
        (.of_begun enters lasts)
    have masked : (arrival.cpu.system.setLine true).MasksLine :=
      (SystemRegisters.masksLine_setLine true).2 masks
    exact absurd (masked.takesInterrupts.symm.trans meets.isEnabled) Bool.false_ne_true

end Course

/-- A loop that takes the status register from t0 in its delay slot. -/
def unmaskingLoop : List (UInt32 × UInt32) :=
  [(0x80010000, 0x08004000), (0x80010004, 0x40886000)]

/-- An interrupt is pending, and the call to enter a critical section before the loop. -/
def enteringCritical : Machine :=
  { Machine.guest unmaskingLoop 0x80000080 with
    cpu :=
      { Cpu.initial with
        registers :=
          { (Registers.initial.set Reg.a0 1).set 8 0x401 with pc := 0x80000080 }
        system :=
          ((SystemRegisters.initial.set SystemRegisters.status 0x401).set
              SystemRegisters.cause 0x20).set
            SystemRegisters.returnAddress 0x8000FFFC }
    bus := { (Machine.guest unmaskingLoop 0x80000080).bus with interrupts := ⟨1, 1⟩ } }

/-- The machine in the critical section. -/
def insideCritical : Machine :=
  ((enteringCritical.fetched.withSystem
        (enteringCritical.cpu.system.set SystemRegisters.status 1)).withRegisters
    (enteringCritical.fetched.cpu.registers.set Reg.v0 1)).resumed 0x80010000

namespace Course

/--
A program that enters the critical section and unmasks the line by hand meets the
interrupt only then.
-/
theorem interrupt_after_unmaskingLoop :
    ∃ entry within arrival,
      (steps 2 2 enteringCritical).moments =
          [] ++ .executed entry :: (within ++ .checked arrival :: []) ∧
        entry.EntersCritical ∧
        arrival.MeetsInterrupt ∧
        ∃ moment ∈ within, moment.EndsCritical := by
  have entry : enteringCritical.execution = ⟨.trap 0, enteringCritical.fetched⟩ :=
    (show enteringCritical.Holds unmaskingLoop from rfl).execution_eq 0x80000080
      Trap.exception.word (by decide) rfl (by decide) (by decide) (by decide)
  have enters : Execution.EntersCritical ⟨.trap 0, enteringCritical.fetched⟩ :=
    ⟨by decide, by decide, by decide⟩
  have entered :
      execution 2 enteringCritical.execution =
        ⟨[.executed ⟨.trap 0, enteringCritical.fetched⟩], .ok () insideCritical⟩ := by
    rw [entry, execution, executing_alone rfl enters.guestService?_eq_none]
    rfl
  have jumps : insideCritical.execution = ⟨.jump 0x4000, insideCritical.fetched⟩ :=
    (show insideCritical.Holds unmaskingLoop from rfl).execution_eq 0x80010000
      0x08004000 (by decide) rfl (by decide) (by decide) (by decide)
  let jump : Execution := ⟨.jump 0x4000, insideCritical.fetched⟩
  let write : Execution :=
    ⟨.moveToSystem 8 SystemRegisters.status, insideCritical.fetched.inSlot⟩
  let arrival :=
    (insideCritical.fetched.inSlot.withSystem
        (insideCritical.cpu.system.set SystemRegisters.status 0x401)).atTarget 0x80010000
  have slot : jump.delaySlot = write :=
    (show jump.machine.Holds unmaskingLoop from rfl).delaySlot_eq 0x80010004
      0x40886000 (by decide) rfl (by decide) (by decide) (by decide)
  have passed :
      execution 2 insideCritical.execution =
        ⟨[.executed jump, .executed write, .arrived arrival, .checked arrival],
          (checkInterrupts (jump.linked.loopsTo 0x80010000)).run arrival⟩ := by
    have slotRuns :
        (executeAlone jump.delaySlot.instruction).run jump.delaySlot.machine =
          .ok ()
            (insideCritical.fetched.inSlot.withSystem
              (insideCritical.cpu.system.set SystemRegisters.status 0x401)) := by
      rw [slot]
      rfl
    have transfers : jump.target? = some 0x80010000 := by decide
    rw [jumps,
      execution_of_slot 0 transfers (by rw [slot]; rfl) (by rw [slot]; rfl)
        (by rw [slot]; rfl) slotRuns rfl (by decide),
      slot]
  obtain ⟨bus, -, checked⟩ := run_checkInterrupts (jump.linked.loopsTo 0x80010000) arrival
  have happened :
      (steps 2 2 enteringCritical).moments =
        [] ++ .executed ⟨.trap 0, enteringCritical.fetched⟩ ::
          ([.executed jump, .executed write, .arrived arrival] ++
            .checked arrival :: []) := by
    rw [steps, andThen_of_ok (congrArg Course.outcome entered), steps,
      andThen_of_ok ((congrArg Course.outcome passed).trans checked), entered, passed]
    rfl
  have meets : arrival.MeetsInterrupt := ⟨by decide, by decide⟩
  exact
    ⟨_, _, _, happened, enters, meets,
      (interrupt_after_criticalSection 2 2 enteringCritical).2.1 _ _ _ _ _ happened enters
        meets⟩

end Course

end PsxPlayer
