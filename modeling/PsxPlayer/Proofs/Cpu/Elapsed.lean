import PsxPlayer.Proofs.Cpu.Course

namespace PsxPlayer

/-!
# The time that steps take

The clock wraps, but it can be followed through the course of a step.  From one thing that happens
to the next there are one fetch and one jump to a deadline at most, so that the clock never comes
round unseen, and the cycles between the readings add up to the time that has really passed.
-/

open PsxPlayer.Action

/-- A fetch takes one cycle, also when the clock comes round. -/
theorem add_one_sub (now : UInt32) : now + 1 - now = 1 := by
  rw [UInt32.add_comm, UInt32.add_sub_cancel]

/-- The cycles that pass while the clock goes through some readings. -/
def cyclesThrough : UInt32 → List UInt32 → Nat
  | _, [] => 0
  | now, next :: rest => (next - now).toNat + cyclesThrough next rest

/-- The clock ends up where the cycles bring it. -/
theorem add_cyclesThrough (now last : UInt32) (readings : List UInt32) :
    now + UInt32.ofNat (cyclesThrough now (readings ++ [last])) = last := by
  induction readings generalizing now with
  | nil =>
      rw [List.nil_append, cyclesThrough, cyclesThrough, Nat.add_zero, UInt32.ofNat_toNat,
        UInt32.add_comm, UInt32.sub_add_cancel]
  | cons next rest inductionHypothesis =>
      rw [List.cons_append, cyclesThrough, UInt32.ofNat_add, UInt32.ofNat_toNat,
        ← UInt32.add_assoc, UInt32.add_comm now, UInt32.sub_add_cancel]
      exact inductionHypothesis next

namespace Course

/-- The machine at the end of a course. -/
def last (course : Course) : Machine :=
  match course.outcome with
  | .ok _ after => after
  | .error _ failed => failed

/-- The readings of the clock whenever something happens, and at the end. -/
def readings (course : Course) : List UInt32 :=
  course.moments.map (fun moment => moment.machine.bus.clock) ++ [course.last.bus.clock]

/-- The first thing that happens is that the fetched instruction is executed. -/
theorem exists_moments_execution (depth : Nat) (outermost : Execution) :
    ∃ later, (execution depth outermost).moments = .executed outermost :: later := by
  cases depth with
  | zero => exact ⟨[], rfl⟩
  | succ depth => exact ⟨_, rfl⟩

end Course

namespace Machine

/-- The cycles of the next step. -/
def stepCycles (machine : Machine) : Nat :=
  cyclesThrough machine.bus.clock (Course.execution nestingLimit machine.execution).readings

/-- The cycles of the next steps. -/
def elapsed : Nat → Machine → Nat
  | 0, _ => 0
  | count + 1, machine => machine.stepCycles + elapsed count (stateAfter step machine)

/-- The fetch of an instruction takes a cycle. -/
theorem stepCycles_pos (machine : Machine) : 0 < machine.stepCycles := by
  obtain ⟨later, happened⟩ := Course.exists_moments_execution nestingLimit machine.execution
  have fetched : machine.execution.machine.bus.clock - machine.bus.clock = 1 :=
    add_one_sub machine.bus.clock
  rw [stepCycles, Course.readings, happened, List.map_cons, List.cons_append, cyclesThrough]
  change 0 < (machine.execution.machine.bus.clock - machine.bus.clock).toNat + _
  rw [fetched]
  exact Nat.lt_of_lt_of_le Nat.zero_lt_one (Nat.le_add_right _ _)

/-- The course of a step ends where the step does. -/
theorem last_execution (machine : Machine) :
    (Course.execution nestingLimit machine.execution).last = stateAfter step machine := by
  have ended : (Course.execution nestingLimit machine.execution).outcome = step.run machine := by
    rw [Course.outcome_execution]
    exact (Execution.run_step machine nestingLimit).symm
  rw [Course.last, ended, stateAfter]
  cases step.run machine <;> rfl

theorem clock_step (machine : Machine) :
    (stateAfter step machine).bus.clock = machine.bus.clock + .ofNat machine.stepCycles := by
  rw [stepCycles, Course.readings, add_cyclesThrough, last_execution]

end Machine

end PsxPlayer
