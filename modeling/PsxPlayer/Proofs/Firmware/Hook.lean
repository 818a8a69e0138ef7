import PsxPlayer.Proofs.Firmware.ReturnFromException

namespace PsxPlayer

/-!
# The lines that a hook finds

The firmware acknowledges an interrupt once it has delivered its events, and only then
looks for a hook.  So the lines that were pending at its trap are clear wherever it goes
on, at the hook as well as behind the interrupt: a handler behind the hook reads nothing
of them in the interrupt status.
-/

open PsxPlayer.Action

/-- A line is one of some lines. -/
def Lines.Has (lines : Lines) (line : Nat) : Prop :=
  lines.bits.toBitVec.getLsbD line = true

/-- A line is latched in the status register. -/
def InterruptController.IsRaised (controller : InterruptController) (line : Nat) : Prop :=
  controller.status.toBitVec.getLsbD line = true

instance (lines : Lines) (line : Nat) : Decidable (lines.Has line) :=
  inferInstanceAs (Decidable (_ = true))

/-- The address of the interrupt status. -/
def interruptStatusAddress : UInt32 := 0x1F801070

theorem Lines.eq_none_iff (lines : Lines) :
    lines = .none ↔ ∀ line, ¬lines.Has line := by
  constructor
  · rintro rfl line
    simp [Has, Lines.none]
  · intro missing
    have bits : lines.bits = 0 := by
      apply UInt16.eq_of_toBitVec_eq
      apply BitVec.eq_of_getLsbD_eq
      intro line _
      simpa [Has] using missing line
    cases lines
    exact congrArg Lines.mk bits

/-- Lines are acknowledged whether or not they are raised; no other line is cleared. -/
theorem InterruptController.isRaised_acknowledge
    (controller : InterruptController)
    (lines : Lines)
    (line : Nat) :
    (controller.acknowledge lines).IsRaised line ↔
      controller.IsRaised line ∧ ¬lines.Has line := by
  have inside :
      controller.status.toBitVec.getLsbD line = true → line < 16 :=
    BitVec.lt_of_getLsbD
  simp only [IsRaised, acknowledge, Lines.Has, UInt16.toBitVec_and, UInt16.toBitVec_not,
    BitVec.getLsbD_and, BitVec.getLsbD_not, Bool.and_eq_true, decide_eq_true_eq,
    Bool.not_eq_true', Bool.not_eq_true]
  exact ⟨fun raised => ⟨raised.1, raised.2.2⟩,
    fun raised => ⟨raised.1, inside raised.1, raised.2⟩⟩

/-- A guest reads the status register as it is. -/
theorem Bus.read_interruptStatus (bus : Bus) :
    bus.read .word interruptStatusAddress = bus.interrupts.status.toUInt32 := by
  have isPort : port? interruptStatusAddress = some 0x1F801070 := by decide
  have isStatus : Port.ofAddress? 0x1F801070 = some .interruptStatus := by decide
  have unmoved : (8 : UInt32) * (0x1F801070 &&& 3) = 0 := by decide
  have whole : Width.word.mask = -1 := by decide
  simp only [read, isPort, isStatus, readDevice, readPort, unmoved, whole,
    UInt32.shiftRight_zero, UInt32.and_neg_one]

namespace Machine

/--
The firmware goes on from an interrupt, which its trap has found in `trapped`, after the
events have been delivered in `delivered`.
-/
structure GoesOnFrom (after trapped delivered : Machine) : Prop where
  place :
    after.cpu.registers.pc =
      if delivered.firmware.hook ≠ 0 then
        after.bus.read .word delivered.firmware.hook
      else
        trapped.cpu.system.get SystemRegisters.returnAddress
  linked :
    delivered.firmware.hook ≠ 0 →
      after.cpu.registers.get Reg.ra = after.cpu.registers.pc
  sameOtherwise :
    after.bus = { delivered.bus with interrupts := after.bus.interrupts }
  sameMask : after.bus.interrupts.mask = delivered.bus.interrupts.mask
  lines :
    ∀ line,
      after.bus.interrupts.IsRaised line ↔
        delivered.bus.interrupts.IsRaised line ∧
          ¬trapped.bus.interrupts.pending.Has line
  seen :
    after.bus.read .word interruptStatusAddress = after.bus.interrupts.status.toUInt32
  keepsPending :
    (∀ line,
        trapped.bus.interrupts.pending.Has line → after.bus.interrupts.IsRaised line) ↔
      trapped.bus.interrupts.pending = .none

variable {after trapped delivered : Machine}

/-- What follows from the acknowledgment, wherever the firmware goes on. -/
theorem goesOnFrom_of_acknowledged
    (bus :
      after.bus = (delivered.acknowledged trapped.bus.interrupts.pending).bus)
    (place :
      after.cpu.registers.pc =
        if delivered.firmware.hook ≠ 0 then
          after.bus.read .word delivered.firmware.hook
        else
          trapped.cpu.system.get SystemRegisters.returnAddress)
    (linked :
      delivered.firmware.hook ≠ 0 →
        after.cpu.registers.get Reg.ra = after.cpu.registers.pc) :
    after.GoesOnFrom trapped delivered := by
  have interrupts :
      after.bus.interrupts =
        delivered.bus.interrupts.acknowledge trapped.bus.interrupts.pending := by
    rw [bus]
    rfl
  have lines (line : Nat) :
      after.bus.interrupts.IsRaised line ↔
        delivered.bus.interrupts.IsRaised line ∧
          ¬trapped.bus.interrupts.pending.Has line := by
    rw [interrupts]
    exact InterruptController.isRaised_acknowledge _ _ _
  refine
    { place := place
      linked := linked
      sameOtherwise := by rw [interrupts, bus]; rfl
      sameMask := by rw [interrupts]; rfl
      lines := lines
      seen := after.bus.read_interruptStatus
      keepsPending := ?_ }
  rw [Lines.eq_none_iff]
  constructor
  · intro keeps line pending
    exact ((lines line).mp (keeps line pending)).2 pending
  · intro none line pending
    exact absurd pending (none line)

theorem goesOnFrom_restored
    (hooked : delivered.firmware.hook ≠ 0) :
    ((delivered.acknowledged trapped.bus.interrupts.pending).restored
        delivered.firmware.hook 1).GoesOnFrom trapped delivered := by
  refine goesOnFrom_of_acknowledged rfl ?_ fun _ => ?_
  · rw [if_pos hooked]
    rfl
  · rw [restored, withRegisters_registers, Registers.get_pc,
      Registers.get_set_of_ne _ (by decide), Bus.ra_contextAt]

theorem goesOnFrom_resumed
    (unhooked : ¬delivered.firmware.hook ≠ 0) :
    ((delivered.acknowledged trapped.bus.interrupts.pending).resumed
        (trapped.cpu.system.get SystemRegisters.returnAddress)).GoesOnFrom
      trapped delivered := by
  refine goesOnFrom_of_acknowledged rfl ?_ fun hooked => absurd hooked unhooked
  rw [if_neg unhooked]
  rfl

end Machine

namespace Execution

/--
The interrupt that an execution serves is acknowledged before the firmware goes on,
unless a handler of its events fails.
-/
def ClearsPending (execution : Execution) (depth : Nat) : Prop :=
  match
    (deliverPending (stepWith (executeNested depth))
        execution.machine.bus.interrupts.pending deliveryOrder).run
      execution.machine.contextKept
  with
  | .error fault failed => execution.run (depth + 1) = .error fault failed
  | .ok _ delivered =>
      ∃ after,
        execution.run (depth + 1) = .ok () after ∧
          after.GoesOnFrom execution.machine delivered

/-- Once its events are delivered, an interrupt is acknowledged and the firmware goes on. -/
theorem run_of_interrupt
    {execution : Execution}
    (serves : execution.guestService? = some .interrupt)
    (depth : Nat) :
    execution.run (depth + 1) =
      match
        (deliverPending (stepWith (executeNested depth))
            execution.machine.bus.interrupts.pending deliveryOrder).run
          execution.machine.contextKept
      with
      | .error fault failed => .error fault failed
      | .ok _ delivered =>
          (goOn (execution.machine.cpu.system.get SystemRegisters.returnAddress)).run
            (delivered.acknowledged execution.machine.bus.interrupts.pending) := by
  rw [run, executeNested, run_executeWith_of_interrupt serves, run_serveInterrupt]
  cases (deliverPending _ _ deliveryOrder).run execution.machine.contextKept with
  | error fault failed => rfl
  | ok value delivered => rfl

/--
Whatever the handlers of its events do, an interrupt leaves none of the lines raised
that were pending at its trap: none is left for the hook to see, unless there was none.
-/
theorem interrupt_clearsPending
    {execution : Execution}
    (serves : execution.guestService? = some .interrupt)
    (depth : Nat) :
    execution.ClearsPending depth := by
  have ran := run_of_interrupt serves depth
  unfold ClearsPending
  split
  · next fault failed failing =>
      rw [ran, failing]
  · next delivered delivers =>
      rw [delivers] at ran
      simp only at ran
      have sameHook :
          (delivered.acknowledged execution.machine.bus.interrupts.pending).firmware.hook =
            delivered.firmware.hook :=
        rfl
      rw [run_goOn, sameHook] at ran
      split at ran
      · next hooked => exact ⟨_, ran, Machine.goesOnFrom_restored hooked⟩
      · next unhooked => exact ⟨_, ran, Machine.goesOnFrom_resumed unhooked⟩

/-- A hook whose handler is elsewhere. -/
def hookBuffer : List (UInt32 × UInt32) :=
  [(0x80020000, 0x80030000)]

/-- The trap of an interrupt that is taken with that hook. -/
def hookedTrap : Execution :=
  (hooked hookBuffer interruptedRegisters).interrupted.execution

theorem hookedTrap_serves : hookedTrap.guestService? = some .interrupt :=
  Machine.FollowsInterrupt.taken.enters.guestService?_eq
    (hooked_takesInterrupt _ (by decide))

/-- The frame interrupt is pending as that trap is entered. -/
theorem hookedTrap_pending : hookedTrap.machine.bus.interrupts.pending = .vblank := by
  have interrupts : hookedTrap.machine.bus.interrupts = ⟨1, 1⟩ := rfl
  rw [interrupts]
  decide

/-- A pending video interrupt is cleared although a hook is set. -/
theorem interrupt_clearsPending_vblank :
    hookedTrap.guestService? = some .interrupt ∧
      hookedTrap.machine.firmware.hook ≠ 0 ∧
      hookedTrap.machine.bus.interrupts.pending = .vblank ∧
      hookedTrap.ClearsPending 0 :=
  ⟨hookedTrap_serves, @hook_behindHook hookBuffer interruptedRegisters,
    hookedTrap_pending, interrupt_clearsPending hookedTrap_serves 0⟩

/-- The handler behind the hook finds no line raised. -/
theorem hookedTrap_forgetsLine :
    hookedTrap.guestService? = some .interrupt ∧
      hookedTrap.machine.firmware.hook ≠ 0 ∧
      hookedTrap.machine.bus.interrupts.pending.Has 0 ∧
      ∃ after,
        hookedTrap.run 1 = .ok () after ∧
          after.cpu.registers.pc = 0x80030000 ∧
          after.cpu.registers.get Reg.ra = 0x80030000 ∧
          ¬after.bus.interrupts.IsRaised 0 ∧
          after.bus.read .word interruptStatusAddress = 0 := by
  have ran : hookedTrap.run 1 = .ok () (behindHook hookBuffer interruptedRegisters) := by
    rw [← Course.outcome_execution]
    exact congrArg Course.outcome
      (Course.execution_of_hook 0 hookedTrap_serves rfl
        (@hook_behindHook hookBuffer interruptedRegisters))
  have goesOn :
      (behindHook hookBuffer interruptedRegisters).GoesOnFrom hookedTrap.machine
        hookedTrap.machine.contextKept :=
    Machine.goesOnFrom_restored (@hook_behindHook hookBuffer interruptedRegisters)
  have place : (behindHook hookBuffer interruptedRegisters).cpu.registers.pc = 0x80030000 :=
    pc_behindHook _ (by decide) (by decide)
  have pending : hookedTrap.machine.bus.interrupts.pending.Has 0 := by
    rw [hookedTrap_pending]
    decide
  have cleared :
      (behindHook hookBuffer interruptedRegisters).bus.interrupts.status = 0 := by
    have acknowledged :
        (behindHook hookBuffer interruptedRegisters).bus.interrupts =
          (⟨1, 1⟩ : InterruptController).acknowledge
            hookedTrap.machine.bus.interrupts.pending :=
      rfl
    rw [acknowledged, hookedTrap_pending]
    decide
  refine ⟨hookedTrap_serves, @hook_behindHook hookBuffer interruptedRegisters, pending, _,
    ran, place, ?_, ?_, ?_⟩
  · exact (goesOn.linked (@hook_behindHook hookBuffer interruptedRegisters)).trans place
  · exact fun raised => ((goesOn.lines 0).mp raised).2 pending
  · rw [goesOn.seen, cleared]
    rfl

end Execution

end PsxPlayer
