import PsxPlayer.Proofs.Cpu.Exception
import PsxPlayer.Proofs.Firmware.Standing

namespace PsxPlayer

/-!
# Precise exceptions

A step executes the delay slots of its transfers and the targets that run with a load
held back inside itself, and moves the program counter underneath them.  An exception
still returns to the instruction that has raised it, or to the branch whose delay slot
it is in, and that instruction has had no effect.
-/

open PsxPlayer.Action

/-- Where an instruction is, and the branch whose delay slot it is in, if it is in one. -/
structure Location where
  address : UInt32
  branch? : Option UInt32
  deriving DecidableEq, Repr

namespace Location

/-- The delay slot of a branch. -/
def slot (branch : Location) : Location :=
  ⟨branch.address + 4, some branch.address⟩

/-- The address to which an exception there returns. -/
def resumption (location : Location) : UInt32 :=
  location.branch?.getD location.address

end Location

/--
What a step of a machine executes: its own instruction, the delay slot of each transfer
unless it is left out, and a target that runs with the load of a delay slot held back.
-/
inductive Machine.Executes (machine : Machine) : Location → Execution → Prop where
  | itself : machine.Executes ⟨machine.cpu.registers.pc, none⟩ machine.execution
  | slot
      {location : Location}
      {execution : Execution}
      {target : UInt32}
      (executes : machine.Executes location execution)
      (transfers : execution.target? = some target)
      (isKept :
        ∀ register,
          execution.linked.hazard? target ≠ some (register, .readsAndWrites)) :
      machine.Executes location.slot execution.delaySlot
  | target
      {location : Location}
      {execution : Execution}
      {target : UInt32}
      {register : Reg}
      {slotted : Machine}
      (executes : machine.Executes location execution)
      (transfers : execution.target? = some target)
      (reads : execution.linked.hazard? target = some (register, .reads))
      (ran :
        (executeAlone execution.delaySlot.instruction).run execution.delaySlot.machine =
          .ok () slotted)
      (calm : slotted.cpu.exceptionTaken = false) :
      machine.Executes ⟨target, none⟩
        (slotted.heldBack register
          (execution.linked.inSlot.cpu.registers.get register) target).execution

namespace Execution

/-- An execution ends in a machine, be it with a fault. -/
def EndsIn (execution : Execution) (depth : Nat) (after : Machine) : Prop :=
  execution.run depth = .ok () after ∨
    ∃ fault, execution.run depth = .error fault after

/--
If an instruction has to raise an exception, it enters the handler with it and does
nothing else; if not, it raises none.
-/
structure IsPrecise (execution : Execution) (location : Location) (depth : Nat) : Prop where
  raises :
    ∀ exception,
      execution.exception? = some exception →
      ∃ after,
        execution.run (depth + 1) = .ok () after ∧
          after.HasEntered execution.machine exception location.resumption
            location.branch?.isSome
  undisturbed :
    execution.exception? = none →
    execution.instruction.isPlain = true →
    ∀ after,
      execution.EndsIn (depth + 1) after →
      after.control = execution.machine.control ∨
        (∃ source index, execution.instruction = .moveToSystem source index) ∨
          execution.instruction = .returnFromException
  alone :
    execution.exception? = none →
    execution.target? = none →
    execution.guestService? = none →
    ¬execution.Raises ∧ execution.LeavesBehind (execution.run (depth + 1))

/-- The processor knows where the instruction is that it executes. -/
structure IsAt (execution : Execution) (location : Location) : Prop where
  word :
    ∃ bus : Bus,
      bus.memory = execution.machine.bus.memory ∧
        execution.instruction = .ofWord (bus.read .word location.address)
  pc : execution.machine.cpu.registers.pc = location.address + 4
  inDelaySlot : execution.machine.cpu.inDelaySlot = location.branch?.isSome
  branch : ∀ branch, location.branch? = some branch → location.address = branch + 4

section

variable {execution : Execution} {location : Location}

/-- A step executes the instruction at the program counter. -/
theorem isAt_execution
    {machine : Machine}
    (clear : machine.cpu.inDelaySlot = false) :
    machine.execution.IsAt ⟨machine.cpu.registers.pc, none⟩ where
  word := ⟨machine.bus, rfl, rfl⟩
  pc := rfl
  inDelaySlot := clear
  branch := by
    rintro branch ⟨⟩

/-- A delay slot is behind its branch. -/
theorem IsAt.delaySlot (isAt : execution.IsAt location) :
    execution.delaySlot.IsAt location.slot where
  word := by
    refine ⟨execution.linked.bus, rfl, ?_⟩
    have behind : execution.linked.cpu.registers.pc = location.slot.address :=
      (execution.instruction.pc_linked _).trans isAt.pc
    rw [← behind]
    rfl
  pc := by
    have behind : execution.linked.cpu.registers.pc = location.slot.address :=
      (execution.instruction.pc_linked _).trans isAt.pc
    rw [← behind]
    exact congrArg (· + 4) (Cpu.pc_committed _)
  inDelaySlot := rfl
  branch := by
    rintro branch ⟨⟩
    rfl

/-- A target that runs with a load held back is in no delay slot. -/
theorem isAt_heldBack
    (slotted : Machine)
    (register : Reg)
    (old target : UInt32) :
    (slotted.heldBack register old target).execution.IsAt ⟨target, none⟩ := by
  have there : (slotted.heldBack register old target).cpu.registers.pc = target :=
    Registers.pc_set _ _ _
  have clear : (slotted.heldBack register old target).cpu.inDelaySlot = false := rfl
  have isAt := isAt_execution clear
  rwa [there] at isAt

/-- The exception of an instruction returns to it or to the branch of its slot. -/
theorem IsAt.resumption_eq (isAt : execution.IsAt location) :
    (if execution.machine.cpu.inDelaySlot then
        execution.machine.cpu.registers.pc - 4 - 4
      else
        execution.machine.cpu.registers.pc - 4) =
      location.resumption := by
  have here : execution.machine.cpu.registers.pc - 4 = location.address := by
    rw [isAt.pc, UInt32.add_sub_cancel]
  rw [here, isAt.inDelaySlot, Location.resumption]
  cases before : location.branch? with
  | none => rfl
  | some branch =>
      rw [isAt.branch branch before, UInt32.add_sub_cancel]
      rfl

/-- An instruction that only computes calls no firmware. -/
theorem trap?_of_isPlain
    (plain : execution.instruction.isPlain = true) :
    execution.trap? = none := by
  rcases execution with ⟨instruction, machine⟩
  cases instruction with
  | trap code => cases plain
  | _ => rfl

/-- Without an exception, what only computes leaves the machine where it stands. -/
theorem Leaves.eq_of_isPlain
    {standing : Standing}
    (leaves : execution.Leaves standing)
    (plain : execution.instruction.isPlain = true)
    (noRaise : ¬execution.Raises) :
    standing = execution.machine.standing ∨
      (∃ source index, execution.instruction = .moveToSystem source index) ∨
        execution.instruction = .returnFromException := by
  have noTrap (trap : Trap) : execution.trap? ≠ some trap := by
    rw [trap?_of_isPlain plain]
    exact nofun
  cases leaves with
  | undisturbed => exact .inl rfl
  | raised raises => exact absurd raises noRaise
  | systemWritten writes => exact .inr (.inl ⟨_, _, writes⟩)
  | modePopped pops => exact .inr (.inr pops)
  | exceptionServed called => exact absurd called (noTrap _)
  | tableReturned calls =>
      rcases calls.isTable with called | called | called <;>
        exact absurd called (noTrap _)
  | contextRestored restores => exact absurd restores.1 (noTrap _)
  | interruptLeft calls => exact absurd calls.1 (noTrap _)

/-- An instruction whose place the processor knows raises precise exceptions. -/
theorem IsAt.isPrecise (isAt : execution.IsAt location) (depth : Nat) :
    execution.IsPrecise location depth := by
  have noRaise (quiet : execution.exception? = none) : ¬execution.Raises := by
    rw [raises_iff, quiet]
    exact Bool.false_ne_true
  constructor
  · intro exception raises
    refine ⟨_, run_of_exception raises depth, ?_⟩
    have entered := execution.machine.hasEntered_raised exception
    rwa [isAt.resumption_eq, isAt.inDelaySlot] at entered
  · intro quiet plain after ended
    have left : execution.LeavesBehind (execution.run (depth + 1)) :=
      leavesBehind_of_isPlain plain _
    have kept :
        execution.Leaves after.standing ∧ after.marks = execution.machine.marks := by
      rcases ended with ended | ⟨fault, ended⟩
      · rw [ended] at left
        exact left
      · rw [ended] at left
        exact left.2
    refine (kept.1.eq_of_isPlain plain (noRaise quiet)).imp_left fun same => ?_
    exact congrArg₂ Prod.mk same kept.2
  · intro quiet untaken noService
    refine ⟨noRaise quiet, ?_⟩
    rw [run_succ, run_executeWith_alone untaken noService]
    exact leavesBehind_executeAlone untaken noService

end

end Execution

namespace Machine

/-- What a step executes is where the processor takes it to be. -/
theorem Executes.isAt
    {machine : Machine}
    {location : Location}
    {execution : Execution}
    (executes : machine.Executes location execution)
    (clear : machine.cpu.inDelaySlot = false) :
    execution.IsAt location := by
  induction executes with
  | itself => exact Execution.isAt_execution clear
  | slot executes transfers isKept inductionHypothesis => exact inductionHypothesis.delaySlot
  | target executes transfers reads ran calm inductionHypothesis =>
      exact Execution.isAt_heldBack _ _ _ _

end Machine

namespace Course

/-- All that a course executes is as given, unless it calls a guest function. -/
def ExecutesOnly (Allowed : Execution → Prop) (course : Course) : Prop :=
  (∃ function caller, .called function caller ∈ course.moments) ∨
    ∀ execution, .executed execution ∈ course.moments → Allowed execution

section

variable {Allowed : Execution → Prop}

theorem executesOnly_of_nil
    {course : Course}
    (nothing : course.moments = []) :
    course.ExecutesOnly Allowed := by
  refine .inr fun execution executed => ?_
  rw [nothing] at executed
  exact absurd executed List.not_mem_nil

theorem executesOnly_still (machine : Machine) : (still machine).ExecutesOnly Allowed :=
  executesOnly_of_nil rfl

theorem executesOnly_ofAction (action : Action Unit) (machine : Machine) :
    (ofAction action machine).ExecutesOnly Allowed :=
  executesOnly_of_nil rfl

theorem executesOnly_since
    {moment : Course.Moment}
    {course : Course}
    (allowed : ∀ execution, moment = .executed execution → Allowed execution)
    (rest : course.ExecutesOnly Allowed) :
    (since moment course).ExecutesOnly Allowed := by
  rcases rest with ⟨function, caller, calls⟩ | only
  · exact .inl ⟨function, caller, List.mem_cons_of_mem _ calls⟩
  · refine .inr fun execution executed => ?_
    rcases List.mem_cons.1 executed with same | later
    · exact allowed execution same.symm
    · exact only execution later

theorem executesOnly_andThen
    {course : Course}
    {next : Machine → Course}
    (first : course.ExecutesOnly Allowed)
    (second :
      ∀ after,
        course.outcome = .ok () after →
        (next after).ExecutesOnly Allowed) :
    (course.andThen next).ExecutesOnly Allowed := by
  unfold andThen
  cases ran : course.outcome with
  | error fault failed => exact first
  | ok value after =>
      rcases first with ⟨function, caller, calls⟩ | firstOnly
      · exact .inl ⟨function, caller, List.mem_append_left _ calls⟩
      · rcases second after ran with ⟨function, caller, calls⟩ | secondOnly
        · exact .inl ⟨function, caller, List.mem_append_right _ calls⟩
        · refine .inr fun execution executed => ?_
          rcases List.mem_append.1 executed with before | behind
          · exact firstOnly execution before
          · exact secondOnly execution behind

theorem executesOnly_settled (idle : Bool) (machine : Machine) :
    (settled idle machine).ExecutesOnly Allowed := by
  refine executesOnly_since (by rintro execution ⟨⟩)
    (executesOnly_andThen (executesOnly_ofAction _ _) fun served _ => ?_)
  exact executesOnly_since (by rintro execution ⟨⟩) (executesOnly_ofAction _ _)

theorem executesOnly_arriving (target : UInt32) (idle : Bool) (machine : Machine) :
    (arriving target idle machine).ExecutesOnly Allowed := by
  unfold arriving
  split
  · exact executesOnly_still _
  · exact executesOnly_settled _ _

section

variable (nested : Execution → Course)

/-- A delivery executes nothing, unless it calls a guest function. -/
theorem executesOnly_deliveringAmong
    (eventClass specification : UInt32)
    (slots : List Nat)
    (machine : Machine) :
    (deliveringAmong nested eventClass specification slots machine).ExecutesOnly
      Allowed := by
  induction slots generalizing machine with
  | nil => exact executesOnly_still _
  | cons slot rest inductionHypothesis =>
      refine executesOnly_andThen ?_ fun after _ => inductionHypothesis after
      split
      · next event found =>
          split
          · unfold deliveringTo
            split
            · exact .inl ⟨event.handler, machine, List.mem_cons_self⟩
            · exact executesOnly_ofAction _ _
          · exact executesOnly_still _
      · exact executesOnly_still _

theorem executesOnly_deliveringPending
    (pending : Lines)
    (counters : List Nat)
    (machine : Machine) :
    (deliveringPending nested pending counters machine).ExecutesOnly Allowed := by
  induction counters generalizing machine with
  | nil => exact executesOnly_still _
  | cons counter rest inductionHypothesis =>
      refine executesOnly_andThen ?_ fun after _ => inductionHypothesis after
      split
      · exact executesOnly_deliveringAmong nested _ _ _ _
      · exact executesOnly_still _

theorem executesOnly_servingInterrupt (machine : Machine) :
    (servingInterrupt nested machine).ExecutesOnly Allowed := by
  refine executesOnly_andThen (executesOnly_deliveringPending nested _ _ _)
    fun delivered _ => ?_
  exact executesOnly_since (by rintro execution ⟨⟩) (executesOnly_ofAction _ _)

end

end

/-- A load in a delay slot ends as it does by itself. -/
theorem run_delaySlot_of_hazard
    {outermost : Execution}
    {target : UInt32}
    {register : Reg}
    {hazard : Hazard}
    {slotted : Machine}
    {depth : Nat}
    (found : outermost.linked.hazard? target = some (register, hazard))
    (ended : outermost.delaySlot.run depth = .ok () slotted) :
    (executeAlone outermost.delaySlot.instruction).run outermost.delaySlot.machine =
      .ok () slotted := by
  obtain ⟨-, op, base, offset, loads⟩ := Machine.slot_of_hazard? found
  have plain : outermost.delaySlot.instruction.isPlain = true := by
    rw [Execution.delaySlot, loads]
    rfl
  cases depth with
  | zero => cases ended
  | succ depth =>
      rw [← ended, Execution.run_succ]
      exact
        congrArg (EStateM.run · outermost.delaySlot.machine)
          (executeWith_of_isPlain plain _ _)

/-- What a transfer of control executes is what a step executes. -/
theorem executesOnly_transferring
    {machine : Machine}
    {location : Location}
    {outermost : Execution}
    {target : UInt32}
    {depth : Nat}
    (nestedOnly :
      ∀ {location nested},
        machine.Executes location nested →
        (execution depth nested).ExecutesOnly fun other =>
          ∃ location, machine.Executes location other)
    (executes : machine.Executes location outermost)
    (transfers : outermost.target? = some target) :
    (transferring (execution depth) outermost target).ExecutesOnly fun other =>
      ∃ location, machine.Executes location other := by
  have slotFirst
      (isKept :
        ∀ register,
          outermost.linked.hazard? target ≠ some (register, .readsAndWrites)) :
      ((execution depth outermost.delaySlot).andThen
          (arriving target (outermost.linked.loopsTo target))).ExecutesOnly fun other =>
        ∃ location, machine.Executes location other :=
    executesOnly_andThen (nestedOnly (.slot executes transfers isKept)) fun _ _ =>
      executesOnly_arriving _ _ _
  unfold transferring
  cases found : outermost.linked.hazard? target with
  | none => exact slotFirst (by simp [found])
  | some use =>
      rcases use with ⟨register, use⟩
      cases use with
      | none => exact slotFirst (by simp [found])
      | writes => exact slotFirst (by simp [found])
      | readsAndWrites => exact executesOnly_arriving _ _ _
      | reads =>
          refine executesOnly_andThen
            (nestedOnly (.slot executes transfers (by simp [found]))) fun slotted ended => ?_
          rw [outcome_execution] at ended
          cases calm : slotted.cpu.exceptionTaken with
          | true =>
              rw [if_pos rfl]
              exact executesOnly_still _
          | false =>
              rw [if_neg Bool.false_ne_true]
              have heldBack :=
                executes.target transfers found (run_delaySlot_of_hazard found ended) calm
              exact executesOnly_andThen (nestedOnly heldBack) fun last _ =>
                executesOnly_settled _ _

/-- Unless it calls a guest function, a step executes what is in the relation. -/
theorem executesOnly_execution
    {machine : Machine}
    {location : Location}
    {outermost : Execution}
    (executes : machine.Executes location outermost)
    (depth : Nat) :
    (execution depth outermost).ExecutesOnly fun other =>
      ∃ location, machine.Executes location other := by
  have itself
      {location : Location}
      {outermost : Execution}
      (executes : machine.Executes location outermost)
      (other : Execution)
      (same : Course.Moment.executed outermost = .executed other) :
      ∃ location, machine.Executes location other := by
    cases same
    exact ⟨location, executes⟩
  induction depth generalizing location outermost with
  | zero =>
      have told :
          execution 0 outermost =
            since (.executed outermost) ⟨[], .error .nestingTooDeep outermost.machine⟩ :=
        rfl
      rw [told]
      exact executesOnly_since (itself executes) (executesOnly_of_nil rfl)
  | succ depth inductionHypothesis =>
      rw [execution, executing]
      refine executesOnly_since (itself executes) ?_
      cases transfers : outermost.target? with
      | some target =>
          exact executesOnly_transferring inductionHypothesis executes transfers
      | none =>
          cases outermost.guestService? with
          | none => exact executesOnly_ofAction _ _
          | some service =>
              cases service with
              | interrupt => exact executesOnly_servingInterrupt _ _
              | delivery => exact executesOnly_deliveringAmong _ _ _ _ _

end Course

/--
Exceptions are precise.  Whatever a step executes that does not begin in a delay slot,
be it at the program counter, in a delay slot or at a target with a load held back, and
however deeply it is nested: an instruction raises an exception exactly if it has to,
and then it has done nothing else and the exception returns to it or to the branch of
its delay slot.  Nothing else is executed but by guest functions that the firmware
calls, whose steps are steps themselves.
-/
theorem Machine.exceptions_arePrecise
    {machine : Machine}
    (clear : machine.cpu.inDelaySlot = false) :
    (Course.execution nestingLimit machine.execution).outcome = step.run machine ∧
      (∀ location execution,
        machine.Executes location execution →
          ∀ depth, execution.IsPrecise location depth) ∧
      ((∀ function caller,
          .called function caller ∉
            (Course.execution nestingLimit machine.execution).moments) →
        ∀ execution,
          .executed execution ∈ (Course.execution nestingLimit machine.execution).moments →
            ∃ location, machine.Executes location execution) := by
  refine ⟨?_, ?_, ?_⟩
  · rw [Course.outcome_execution]
    exact (Execution.run_step machine nestingLimit).symm
  · intro location execution executes depth
    exact (executes.isAt clear).isPrecise depth
  · intro noCall execution executed
    rcases Course.executesOnly_execution .itself nestingLimit with calls | only
    · obtain ⟨function, caller, calls⟩ := calls
      exact absurd calls (noCall function caller)
    · exact only execution executed

section

variable {slot next : UInt32} (program : isProgram (branchOver slot next) = true)

include program

theorem delaySlot_branching :
    (branching slot next).execution.delaySlot.instruction = .ofWord slot :=
  slot_branching program

/-- A branch executes a delay slot that loads a register which its target reads. -/
theorem executes_branching
    {op : LoadOp}
    {register base : Reg}
    {offset : UInt32}
    (loads : .ofWord slot = Instruction.load op register base offset)
    (nonzero : register ≠ 0)
    (reads : hazardAt next register = .reads) :
    (branching slot next).Executes ⟨0x80010004, some 0x80010000⟩
      (branching slot next).execution.delaySlot := by
  have hazard :
      (branching slot next).branched.hazard? 0x80010020 = some (register, .reads) := by
    rw [Machine.hazard?, slot_branching program, target_branching program, loads,
      loadedRegister?, if_neg nonzero, Option.map_some, reads]
  have behind : Location.slot ⟨0x80010000, none⟩ = ⟨0x80010004, some 0x80010000⟩ := by
    decide
  have started :
      (branching slot next).Executes ⟨0x80010000, none⟩ (branching slot next).execution :=
    .itself
  rw [← behind]
  refine .slot started (taken_branching program) fun other dropped => ?_
  cases hazard.symm.trans dropped

end

/-- A load from an odd address in the slot of a branch: the exception names the branch. -/
theorem exceptions_arePrecise_inDelaySlot :
    (branching 0x8C080001 0x01005021).cpu.inDelaySlot = false ∧
      (branching 0x8C080001 0x01005021).execution.delaySlot.exception? =
        some ⟨.addressErrorLoad, some 1⟩ ∧
      (branching 0x8C080001 0x01005021).execution.delaySlot.IsPrecise
        ⟨0x80010004, some 0x80010000⟩ 0 := by
  have program : isProgram (branchOver 0x8C080001 0x01005021) = true := by decide
  have clear : (branching 0x8C080001 0x01005021).cpu.inDelaySlot = false := rfl
  have loads : .ofWord 0x8C080001 = Instruction.load .word 8 0 1 := by decide
  refine ⟨clear, ?_, ?_⟩
  · rw [Execution.exception?, delaySlot_branching program, loads, Instruction.exception?,
      Registers.get_zero]
    decide
  · have executes := executes_branching program loads (by decide) (by decide)
    exact (Machine.exceptions_arePrecise clear).2.1 _ _ executes 0

end PsxPlayer
