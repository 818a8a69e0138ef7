import PsxPlayer.Proofs.Cpu.Guest
import PsxPlayer.Proofs.Cpu.Holding
import PsxPlayer.Proofs.Cpu.Pace

namespace PsxPlayer

/-!
# How deeply the instructions of a step nest

A transfer executes its delay slot, or the instruction at its target with a load held
back, inside its own execution.  Where that instruction is a transfer too, so does it
in turn.  A step ends exactly if this chain does, and it fetches at least one word and
at most two for each of its links.
-/

open PsxPlayer.Action

/-- An instruction that has been fetched and is about to be executed. -/
structure Execution where
  instruction : Instruction
  machine : Machine

/-- What an execution fetches and executes inside itself. -/
inductive Nested where
  /-- Nothing. -/
  | nothing
  /-- The delay slot is fetched and left out. -/
  | droppedSlot
  /-- The delay slot. -/
  | slot (execution : Execution)
  /-- The delay slot, which is a load, and then the target. -/
  | target (execution : Execution)

namespace Nested

/-- The execution that may nest further. -/
def execution? : Nested → Option Execution
  | .slot execution | .target execution => some execution
  | .nothing | .droppedSlot => none

/-- The words that are fetched before it. -/
def words : Nested → Nat
  | .nothing => 0
  | .droppedSlot | .slot _ => 1
  | .target _ => 2

theorem words_le (nested : Nested) : nested.words ≤ 2 := by
  cases nested with
  | nothing => exact Nat.zero_le _
  | droppedSlot => exact Nat.le_succ 1
  | slot execution => exact Nat.le_succ 1
  | target execution => exact Nat.le_refl 2

theorem words_pos
    {nested : Nested}
    {next : Execution}
    (found : nested.execution? = some next) :
    0 < nested.words := by
  cases nested with
  | nothing => cases found
  | droppedSlot => cases found
  | slot execution => exact Nat.zero_lt_one
  | target execution => exact Nat.zero_lt_two

end Nested

/-- The execution of the instruction at the program counter. -/
def Machine.execution (machine : Machine) : Execution :=
  ⟨machine.nextInstruction, machine.fetched⟩

/-- The execution at the target with the load of the delay slot held back. -/
def Machine.held?
    (slotted : Machine)
    (register : Reg)
    (target : UInt32) :
    Instruction → Option Execution
  | .load op loaded base offset =>
      match (load op loaded base offset).run slotted with
      | .ok _ after =>
          if after.cpu.exceptionTaken then
            none
          else
            some
              ((slotted.atTarget target).overlaid 0 0
                (some (register, after.cpu.registers.get register))).execution
      | .error _ _ => none
  | _ => none

namespace Execution

/-- The machine after the instruction has linked. -/
def linked (execution : Execution) : Machine :=
  execution.machine.withRegisters
    (execution.instruction.linked execution.machine.cpu.registers)

/-- The execution of the delay slot. -/
def delaySlot (execution : Execution) : Execution :=
  ⟨execution.linked.nextInstruction, execution.linked.inSlot⟩

/-- What an execution nests. -/
def nested (execution : Execution) : Nested :=
  match execution.instruction.target? execution.machine.cpu.registers with
  | none => .nothing
  | some target =>
      match execution.linked.hazard? target with
      | some (_, .readsAndWrites) => .droppedSlot
      | some (register, .reads) =>
          match
            execution.linked.inSlot.held? register target execution.delaySlot.instruction
          with
          | some held => .target held
          | none => .slot execution.delaySlot
      | _ => .slot execution.delaySlot

/-- The execution that is nested `links` deep. -/
def nestedAfter : Nat → Execution → Option Execution
  | 0, execution => some execution
  | links + 1, execution => execution.nested.execution?.bind (nestedAfter links)

/-- The words that are fetched in an execution in which others nest `depth` deep. -/
def words : Nat → Execution → Nat
  | 0, _ => 0
  | depth + 1, execution =>
      execution.nested.words +
        match execution.nested.execution? with
        | some next => words depth next
        | none => 0

/-- The execution in which others nest at most `depth` deep. -/
def run (execution : Execution) (depth : Nat) : EStateM.Result Fault Machine Unit :=
  (executeNested depth execution.instruction).run execution.machine

/-- Others nest too deeply. -/
def RunsOut (execution : Execution) (depth : Nat) : Prop :=
  ∃ failed, execution.run depth = .error .nestingTooDeep failed

/-- What runs on `machine` ends without running out of nesting, `words` words later. -/
def EndsAfter
    (words : Nat)
    (machine : Machine) :
    EStateM.Result Fault Machine Unit → Prop
  | .ok _ after => after.pace = machine.pace.map (· + UInt32.ofNat words)
  | .error fault failed =>
      fault ≠ .nestingTooDeep ∧ failed.pace = machine.pace.map (· + UInt32.ofNat words)

/-- The execution is not that of a trap that runs guest instructions. -/
def CallsNoGuest (execution : Execution) : Prop :=
  ∀ code trap,
    execution.instruction = .trap code →
    Trap.ofCode? code = some trap →
    ∀ first second : Action Unit,
      (serveTrap first trap).run execution.machine =
        (serveTrap second trap).run execution.machine

/-- A steady action adds nothing to the words. -/
theorem EndsAfter.of_isSteady
    {action : Action Unit}
    (steady : IsSteady action)
    {words : Nat}
    {machine start : Machine}
    (pace : start.pace = machine.pace.map (· + UInt32.ofNat words)) :
    EndsAfter words machine (action.run start) := by
  have flat := steady start
  generalize action.run start = result at flat
  cases result with
  | ok value after => exact flat.trans pace
  | error fault failed => exact ⟨flat.1, flat.2.trans pace⟩

/-- Words that have been fetched before count as well. -/
theorem EndsAfter.shift
    {count words : Nat}
    {machine start : Machine}
    {result : EStateM.Result Fault Machine Unit}
    (ends : EndsAfter words start result)
    (pace : start.pace = machine.pace.map (· + UInt32.ofNat count)) :
    EndsAfter (count + words) machine result := by
  have later (last : Machine) (same : last.pace = start.pace.map (· + UInt32.ofNat words)) :
      last.pace = machine.pace.map (· + UInt32.ofNat (count + words)) := by
    rw [same, pace]
    cases machine.pace with
    | none => rfl
    | some cycle => simp only [Option.map_some, UInt32.ofNat_add, UInt32.add_assoc]
  cases result with
  | ok value after => exact later after ends
  | error fault failed => exact ⟨ends.1, later failed ends.2⟩

end Execution

theorem Machine.pace_committed (machine : Machine) :
    machine.committed.pace = machine.pace := by
  unfold committed Cpu.committed
  split <;> rfl

/-- The delay slot has been fetched when it starts. -/
theorem Machine.pace_inSlot (machine : Machine) :
    machine.inSlot.pace = machine.pace.map (· + 1) := by
  have fetched : machine.inSlot.pace = (machine.committed.withBus machine.bus.tick).pace :=
    rfl
  rw [fetched, ← machine.pace_committed]
  exact machine.committed.pace_tick

/-- The slot of a hazard is a load. -/
theorem Machine.slot_of_hazard?
    {machine : Machine}
    {target : UInt32}
    {register : Reg}
    {hazard : Hazard}
    (found : machine.hazard? target = some (register, hazard)) :
    register ≠ 0 ∧
      ∃ op base offset, machine.nextInstruction = .load op register base offset := by
  unfold hazard? at found
  generalize machine.nextInstruction = slot at found
  cases slot <;> simp only [loadedRegister?, Option.map_none, reduceCtorEq] at found
  next op loaded base offset =>
    split at found
    · cases found
    · next nonzero =>
        cases found
        exact ⟨nonzero, op, base, offset, rfl⟩

namespace Execution

/-- An execution nests within what is left of the nesting. -/
theorem run_succ (execution : Execution) (depth : Nat) :
    execution.run (depth + 1) =
      (executeWith (executeNested depth) execution.instruction).run execution.machine :=
  rfl

/-- The step of a machine is the execution of its next instruction. -/
theorem run_step (machine : Machine) (depth : Nat) :
    (stepWith (executeNested depth)).run machine = machine.execution.run depth :=
  run_stepWith machine (executeNested depth)

/-- A transfer enters its delay slot. -/
theorem run_succ_of_target
    {execution : Execution}
    {target : UInt32}
    (taken :
      execution.instruction.target? execution.machine.cpu.registers = some target)
    (depth : Nat) :
    execution.run (depth + 1) =
      (continueTransfer (executeNested depth) (stepWith (executeNested depth)) target
          execution.delaySlot.instruction (execution.linked.loopsTo target)
          (execution.linked.hazard? target)).run
        execution.linked.inSlot := by
  rw [run_succ]
  exact (run_executeWith_of_target _ taken).trans (run_transfer _ _ _ _)

/-- An instruction that transfers control nowhere fetches nothing. -/
theorem ends_of_nothing
    {execution : Execution}
    (alone :
      execution.instruction.target? execution.machine.cpu.registers = none)
    (callsNoGuest : execution.CallsNoGuest)
    (depth : Nat) :
    EndsAfter 0 execution.machine (execution.run (depth + 1)) := by
  have unmoved :
      execution.machine.pace = execution.machine.pace.map (· + UInt32.ofNat 0) := by
    cases execution.machine.pace with
    | none => rfl
    | some cycle => simp
  rw [run_succ]
  rcases execution with ⟨instruction, machine⟩
  by_cases plain : instruction.isPlain = true
  · exact .of_isSteady (isSteady_executeWith _ plain) unmoved
  · by_cases transfers : instruction.isTransfer = true
    · rw [run_executeWith_of_untaken _ transfers alone]
      exact unmoved
    · cases instruction <;>
        simp only [Instruction.isPlain, Instruction.isTransfer, Bool.not_true,
          Bool.not_false, not_true_eq_false] at plain transfers
      case trap code =>
        rw [executeWith]
        cases found : Trap.ofCode? code with
        | none => exact .of_isSteady (.pure ()) unmoved
        | some trap =>
            have sameService := callsNoGuest code trap rfl found
            simp only
            rw [sameService _ (pure ())]
            exact .of_isSteady (isSteady_serveTrap (.pure ()) trap) unmoved

/-- The execution at the target while a load of the delay slot is held back. -/
def heldTarget
    (execution : Execution)
    (target : UInt32)
    (register : Reg)
    (loaded : UInt32) :
    Execution :=
  ((execution.linked.inSlot.atTarget target).overlaid 0 0
    (some (register, loaded))).execution

/--
What an execution nests is its delay slot, before it arrives, or with a load in the
delay slot that its target reads: the load if it raises an exception, or the target.
-/
inductive Nests (execution : Execution) : Execution → Nat → Prop where
  | slot
      {target : UInt32}
      (taken :
        execution.instruction.target? execution.machine.cpu.registers = some target)
      (arrives :
        ∀ execute step idle,
          continueTransfer execute step target execution.delaySlot.instruction idle
              (execution.linked.hazard? target) =
            (execute execution.delaySlot.instruction >>= fun _ => arrive target idle)) :
      Nests execution execution.delaySlot 1
  | faultingLoad
      {target offset : UInt32}
      {register base : Reg}
      {op : LoadOp}
      {after : Machine}
      (taken :
        execution.instruction.target? execution.machine.cpu.registers = some target)
      (reads : execution.linked.hazard? target = some (register, .reads))
      (loads : execution.delaySlot.instruction = .load op register base offset)
      (ran :
        (load op register base offset).run execution.linked.inSlot = .ok () after)
      (exception : after.cpu.exceptionTaken = true) :
      Nests execution execution.delaySlot 1
  | target
      {target offset loaded : UInt32}
      {register base : Reg}
      {op : LoadOp}
      (taken :
        execution.instruction.target? execution.machine.cpu.registers = some target)
      (reads : execution.linked.hazard? target = some (register, .reads))
      (nonzero : register ≠ 0)
      (loads : execution.delaySlot.instruction = .load op register base offset)
      (ran :
        (load op register base offset).run execution.linked.inSlot =
          .ok ()
            (execution.linked.inSlot.withRegisters
              (execution.linked.inSlot.cpu.registers.set register loaded))) :
      Nests execution (execution.heldTarget target register loaded) 2

/-- What is nested is nested in one of these ways. -/
theorem nests_of_nested
    {execution next : Execution}
    (found : execution.nested.execution? = some next) :
    Nests execution next execution.nested.words := by
  unfold nested at found ⊢
  cases taken : execution.instruction.target? execution.machine.cpu.registers with
  | none =>
      simp only [taken] at found
      cases found
  | some target =>
      simp only [taken] at found ⊢
      cases hazard : execution.linked.hazard? target with
      | none =>
          simp only [hazard] at found ⊢
          cases found
          exact .slot taken fun _ _ _ => by rw [hazard]; rfl
      | some use =>
          rcases use with ⟨register, use⟩
          cases use with
          | none =>
              simp only [hazard] at found ⊢
              cases found
              exact .slot taken fun _ _ _ => by rw [hazard]; rfl
          | writes =>
              simp only [hazard] at found ⊢
              cases found
              exact .slot taken fun _ _ _ => by rw [hazard]; rfl
          | readsAndWrites =>
              simp only [hazard] at found
              cases found
          | reads =>
              obtain ⟨nonzero, op, base, offset, loads⟩ := Machine.slot_of_hazard? hazard
              have isLoad :
                  execution.delaySlot.instruction = .load op register base offset :=
                loads
              obtain ⟨after, ran, outcome⟩ :=
                load_outcome op register base offset execution.linked.inSlot
              simp only [hazard, isLoad, Machine.held?, ran] at found ⊢
              rcases outcome with exception | ⟨loaded, rfl⟩
              · simp only [exception, ↓reduceIte] at found ⊢
                cases found
                exact .faultingLoad taken hazard isLoad ran exception
              · have calm : execution.linked.inSlot.cpu.exceptionTaken = false := rfl
                simp only [Machine.withRegisters_exceptionTaken, calm,
                  Machine.withRegisters_registers, Registers.get_set_self _ nonzero,
                  Bool.false_eq_true, ↓reduceIte] at found ⊢
                cases found
                exact .target taken hazard nonzero isLoad ran

/-- Words are fetched before what is nested starts. -/
theorem Nests.pace
    {execution next : Execution}
    {count : Nat}
    (nests : Nests execution next count) :
    next.machine.pace = execution.machine.pace.map (· + UInt32.ofNat count) := by
  have entered :
      execution.linked.inSlot.pace = execution.machine.pace.map (· + 1) :=
    Machine.pace_inSlot _
  cases nests with
  | slot taken arrives => exact entered
  | faultingLoad taken reads loads ran exception => exact entered
  | @target target offset loaded register base op taken reads nonzero loads ran =>
      have fetched :
          (execution.heldTarget target register loaded).machine.pace =
            execution.linked.inSlot.pace.map (· + 1) :=
        Machine.pace_tick _
      rw [fetched, entered]
      cases execution.machine.pace with
      | none => rfl
      | some cycle =>
          simp only [Option.map_some]
          rw [UInt32.add_assoc]
          rfl

/-- A transfer whose slot cannot be executed for want of nesting. -/
theorem runsOut_of_holding
    {execution : Execution}
    {target : UInt32}
    {register : Reg}
    (taken :
      execution.instruction.target? execution.machine.cpu.registers = some target)
    (reads : execution.linked.hazard? target = some (register, .reads)) :
    execution.RunsOut 1 := by
  rw [RunsOut, run_succ_of_target taken, reads]
  exact ⟨execution.linked.inSlot, rfl⟩

/-- A transfer that executes its slot arrives after it. -/
theorem run_succ_of_arrives
    {execution : Execution}
    {target : UInt32}
    (taken :
      execution.instruction.target? execution.machine.cpu.registers = some target)
    (arrives :
      ∀ execute step idle,
        continueTransfer execute step target execution.delaySlot.instruction idle
            (execution.linked.hazard? target) =
          (execute execution.delaySlot.instruction >>= fun _ => arrive target idle))
    (depth : Nat) :
    execution.run (depth + 1) =
      match execution.delaySlot.run depth with
      | .ok _ after => (arrive target (execution.linked.loopsTo target)).run after
      | .error fault failed => .error fault failed := by
  have slotRun :
      (executeNested depth execution.delaySlot.instruction).run execution.linked.inSlot =
        execution.delaySlot.run depth :=
    rfl
  rw [run_succ_of_target taken, arrives, EStateM.run_bind, slotRun]
  cases execution.delaySlot.run depth <;> rfl

/-- A transfer that holds a load back executes its target and lets the load appear. -/
theorem run_succ_of_heldTarget
    {execution : Execution}
    {target offset loaded : UInt32}
    {register base : Reg}
    {op : LoadOp}
    (taken :
      execution.instruction.target? execution.machine.cpu.registers = some target)
    (reads : execution.linked.hazard? target = some (register, .reads))
    (nonzero : register ≠ 0)
    (loads : execution.delaySlot.instruction = .load op register base offset)
    (ran :
      (load op register base offset).run execution.linked.inSlot =
        .ok ()
          (execution.linked.inSlot.withRegisters
            (execution.linked.inSlot.cpu.registers.set register loaded)))
    (depth : Nat) :
    execution.run (depth + 2) =
      match (execution.heldTarget target register loaded).run (depth + 1) with
      | .ok _ after => (commitDeferredLoad >>= fun _ => settle false).run after
      | .error fault failed => .error fault failed := by
  have loadRan :
      (executeNested (depth + 1) (.load op register base offset)).run
          execution.linked.inSlot =
        .ok ()
          (execution.linked.inSlot.withRegisters
            (execution.linked.inSlot.cpu.registers.set register loaded)) :=
    ran
  rw [run_succ_of_target taken, reads, loads]
  refine (run_transferHolding_of_value _ nonzero rfl loadRan).trans ?_
  rw [EStateM.run_bind, run_step, ← heldTarget]
  cases (execution.heldTarget target register loaded).run (depth + 1) <;> rfl

/--
What is nested runs out of nesting together with the execution, fails together with
it, and is otherwise followed by something that fetches nothing.
-/
theorem Nests.run
    {execution next : Execution}
    {count : Nat}
    (nests : Nests execution next count)
    (depth : Nat) :
    match next.run depth with
    | .ok _ after =>
        ∃ tail : Action Unit, IsSteady tail ∧ execution.run (depth + 1) = tail.run after
    | .error fault failed =>
        ∃ last,
          execution.run (depth + 1) = .error fault last ∧
            (fault = .nestingTooDeep ∨ last = failed) := by
  cases nests with
  | @slot target taken arrives =>
      rw [run_succ_of_arrives taken arrives]
      cases execution.delaySlot.run depth with
      | ok value after => exact ⟨_, isSteady_arrive _ _, rfl⟩
      | error fault failed => exact ⟨failed, rfl, .inr rfl⟩
  | @faultingLoad target offset register base op after taken reads loads ran exception =>
      cases depth with
      | zero =>
          obtain ⟨last, ranOut⟩ := runsOut_of_holding taken reads
          exact ⟨last, ranOut, .inl rfl⟩
      | succ depth =>
          have slotRan : execution.delaySlot.run (depth + 1) = .ok () after := by
            rw [run_succ, loads]
            exact ran
          have loadRan :
              (executeNested (depth + 1) (.load op register base offset)).run
                  execution.linked.inSlot =
                .ok () after :=
            ran
          rw [slotRan]
          refine ⟨leaveDelaySlot, .modify (fun _ => rfl) fun _ => rfl, ?_⟩
          rw [run_succ_of_target taken, reads, loads]
          exact run_transferHolding_of_exception _ loadRan exception
  | @target target offset loaded register base op taken reads nonzero loads ran =>
      cases depth with
      | zero =>
          obtain ⟨last, ranOut⟩ := runsOut_of_holding taken reads
          exact ⟨last, ranOut, .inl rfl⟩
      | succ depth =>
          rw [run_succ_of_heldTarget taken reads nonzero loads ran]
          cases (execution.heldTarget target register loaded).run (depth + 1) with
          | ok value after =>
              have committed : IsSteady commitDeferredLoad :=
                .modify run_commitDeferredLoad Machine.pace_committed
              exact ⟨_, .bind committed fun _ => isSteady_settle false, rfl⟩
          | error fault failed => exact ⟨failed, rfl, .inr rfl⟩

/-- An execution that nests no other ends. -/
theorem ends_of_last
    {execution : Execution}
    (last : execution.nested.execution? = none)
    (callsNoGuest : execution.CallsNoGuest)
    (depth : Nat) :
    EndsAfter execution.nested.words execution.machine (execution.run (depth + 1)) := by
  cases taken : execution.instruction.target? execution.machine.cpu.registers with
  | none =>
      have nothing : execution.nested = .nothing := by
        simp only [nested, taken]
      rw [nothing]
      exact ends_of_nothing taken callsNoGuest depth
  | some target =>
      have dropped :
          execution.nested = .droppedSlot ∧
            ∃ register,
              execution.linked.hazard? target = some (register, .readsAndWrites) := by
        simp only [nested, taken] at last ⊢
        split at last
        · next register found => simp only [found, true_and]; exact ⟨register, rfl⟩
        · split at last
          · cases last
          · cases last
        · cases last
      obtain ⟨isDropped, register, hazard⟩ := dropped
      rw [isDropped, run_succ_of_target taken, hazard]
      exact .of_isSteady (isSteady_arrive _ _) (Machine.pace_inSlot _)

/-- An execution ends together with what is nested in it. -/
theorem Nests.ends
    {execution next : Execution}
    {count words depth : Nat}
    (nests : Nests execution next count)
    (ends : EndsAfter words next.machine (next.run depth)) :
    EndsAfter (count + words) execution.machine (execution.run (depth + 1)) := by
  have shifted := ends.shift nests.pace
  have outcome := nests.run depth
  cases ran : next.run depth with
  | ok value after =>
      rw [ran] at shifted outcome
      obtain ⟨tail, steady, tailRuns⟩ := outcome
      rw [tailRuns]
      exact .of_isSteady steady shifted
  | error fault failed =>
      rw [ran] at shifted outcome
      obtain ⟨last, failsToo, isNesting | isSame⟩ := outcome
      · exact absurd isNesting shifted.1
      · rw [failsToo, isSame]
        exact shifted

/-- An execution runs out of nesting together with what is nested in it. -/
theorem Nests.runsOut
    {execution next : Execution}
    {count depth : Nat}
    (nests : Nests execution next count)
    (runsOut : next.RunsOut depth) :
    execution.RunsOut (depth + 1) := by
  obtain ⟨failed, ran⟩ := runsOut
  have outcome := nests.run depth
  rw [ran] at outcome
  obtain ⟨last, failsToo, _⟩ := outcome
  exact ⟨last, failsToo⟩

/-- A chain as long as the nesting is deep runs out of it. -/
theorem runsOut_of_nestedAfter
    {depth : Nat}
    {execution last : Execution}
    (reaches : execution.nestedAfter depth = some last) :
    execution.RunsOut depth := by
  induction depth generalizing execution with
  | zero => exact ⟨execution.machine, rfl⟩
  | succ depth inductionHypothesis =>
      rw [nestedAfter, Option.bind_eq_some_iff] at reaches
      obtain ⟨next, found, reachesOn⟩ := reaches
      exact (nests_of_nested found).runsOut (inductionHypothesis reachesOn)

/-- A shorter chain ends, after the words that its links fetch. -/
theorem ends_of_nestedAfter
    {depth : Nat}
    {execution : Execution}
    (short : execution.nestedAfter depth = none)
    (callsNoGuest :
      ∀ links last, execution.nestedAfter links = some last → last.CallsNoGuest) :
    EndsAfter (execution.words depth) execution.machine (execution.run depth) := by
  induction depth generalizing execution with
  | zero => cases short
  | succ depth inductionHypothesis =>
      rw [words]
      rw [nestedAfter, Option.bind_eq_none_iff] at short
      cases found : execution.nested.execution? with
      | none => exact ends_of_last found (callsNoGuest 0 execution rfl) depth
      | some next =>
          have nextCalls (links : Nat) (last : Execution)
              (reaches : next.nestedAfter links = some last) :
              last.CallsNoGuest := by
            refine callsNoGuest (links + 1) last ?_
            rw [nestedAfter, found]
            exact reaches
          exact
            (nests_of_nested found).ends (inductionHypothesis (short next found) nextCalls)

/-- A longer chain fetches at least a word for each link. -/
theorem le_words
    {links depth : Nat}
    {execution last : Execution}
    (reaches : execution.nestedAfter links = some last)
    (within : links ≤ depth) :
    links ≤ execution.words depth := by
  induction links generalizing execution depth with
  | zero => exact Nat.zero_le _
  | succ links inductionHypothesis =>
      rw [nestedAfter, Option.bind_eq_some_iff] at reaches
      obtain ⟨next, found, reachesOn⟩ := reaches
      cases depth with
      | zero => cases within
      | succ depth =>
          have own := Nested.words_pos found
          have later := inductionHypothesis reachesOn (Nat.le_of_succ_le_succ within)
          rw [words, found]
          simp only
          omega

/-- A chain fetches at most two words for each link. -/
theorem words_le
    {links : Nat}
    {execution : Execution}
    (short : execution.nestedAfter links = none)
    (depth : Nat) :
    execution.words depth ≤ 2 * links := by
  induction links generalizing execution depth with
  | zero => cases short
  | succ links inductionHypothesis =>
      cases depth with
      | zero => exact Nat.zero_le _
      | succ depth =>
          rw [nestedAfter, Option.bind_eq_none_iff] at short
          rw [words]
          have own := execution.nested.words_le
          cases found : execution.nested.execution? with
          | none => simp only; omega
          | some next =>
              have later := inductionHypothesis (short next found) depth
              simp only
              omega

/-- A chain that has ended stays ended. -/
theorem nestedAfter_mono
    {fewer more : Nat}
    {execution : Execution}
    (short : execution.nestedAfter fewer = none)
    (later : fewer ≤ more) :
    execution.nestedAfter more = none := by
  induction fewer generalizing execution more with
  | zero => cases short
  | succ fewer inductionHypothesis =>
      cases more with
      | zero => cases later
      | succ more =>
          rw [nestedAfter, Option.bind_eq_none_iff] at short ⊢
          intro next found
          exact inductionHypothesis (short next found) (Nat.le_of_succ_le_succ later)

end Execution

namespace Machine

/-- A step that runs no guest instructions in a trap, however deeply it nests. -/
def CallsNoGuest (machine : Machine) : Prop :=
  ∀ links last,
    machine.execution.nestedAfter links = some last →
    last.CallsNoGuest

/--
A step ends, whatever nesting from some depth on it is allowed, and has moved the
clock by the words that it has fetched, which are at most `bound`.
-/
def StepsWithin (machine : Machine) (bound : Nat) : Prop :=
  ∃ depth, ∀ limit, depth ≤ limit →
    1 + machine.execution.words limit ≤ bound ∧
      Execution.EndsAfter (1 + machine.execution.words limit) machine
        ((stepWith (executeNested limit)).run machine)

/-- A step ends if the chain of what it nests does. -/
theorem stepsWithin_of_nestedAfter
    {machine : Machine}
    {links : Nat}
    (callsNoGuest : machine.CallsNoGuest)
    (short : machine.execution.nestedAfter links = none) :
    machine.StepsWithin (1 + 2 * links) := by
  refine ⟨links, fun limit deeper => ⟨?_, ?_⟩⟩
  · exact Nat.add_le_add_left (Execution.words_le short limit) 1
  · have fetched : machine.execution.machine.pace = machine.pace.map (· + 1) :=
      machine.pace_tick
    have ends :=
      Execution.ends_of_nestedAfter (Execution.nestedAfter_mono short deeper) callsNoGuest
    rw [Execution.run_step]
    exact ends.shift fetched

/-- A step that ends within some words nests no deeper. -/
theorem StepsWithin.nestedAfter
    {machine : Machine}
    {bound : Nat}
    (within : machine.StepsWithin bound) :
    machine.execution.nestedAfter bound = none := by
  obtain ⟨depth, ends⟩ := within
  obtain ⟨few, ended⟩ := ends (max depth bound) (Nat.le_max_left _ _)
  cases reaches : machine.execution.nestedAfter bound with
  | none => rfl
  | some last =>
      have many := Execution.le_words reaches (Nat.le_max_right depth bound)
      omega

/--
The steps of some machines end within a bound that is common to them exactly if there
is a bound to how deeply they nest.
-/
theorem stepsWithin_bounded_iff (states : Machine → Prop) :
    (∃ bound,
        ∀ machine, states machine → machine.CallsNoGuest → machine.StepsWithin bound) ↔
      ∃ links,
        ∀ machine,
          states machine →
          machine.CallsNoGuest →
          machine.execution.nestedAfter links = none := by
  constructor
  · rintro ⟨bound, within⟩
    refine ⟨bound, fun machine isState callsNoGuest => ?_⟩
    exact (within machine isState callsNoGuest).nestedAfter
  · rintro ⟨links, short⟩
    refine ⟨1 + 2 * links, fun machine isState callsNoGuest => ?_⟩
    exact stepsWithin_of_nestedAfter callsNoGuest (short machine isState callsNoGuest)

/-- A branch to itself on t0, with a load into t0 in its delay slot. -/
def endlessWords : List (UInt32 × UInt32) :=
  [(0x80010000, 0x1108FFFF), (0x80010004, 0x8C080000)]

/-- A machine about to execute the branch. -/
structure IsEndless (machine : Machine) : Prop where
  pc : machine.cpu.registers.pc = 0x80010000
  holds : machine.Holds endlessWords

namespace IsEndless

variable {machine : Machine} (endless : machine.IsEndless)

include endless

theorem nextInstruction : machine.nextInstruction = .branch .equal 8 8 0xFFFF := by
  have word : machine.nextWord = 0x1108FFFF := by
    rw [nextWord, endless.pc]
    exact endless.holds.read (by decide) (by decide) (by decide)
  rw [Machine.nextInstruction, word]
  decide

theorem pc_fetched : machine.fetched.cpu.registers.pc = 0x80010004 := by
  have moved : machine.fetched.cpu.registers.pc = machine.cpu.registers.pc + 4 := rfl
  rw [moved, endless.pc]
  decide

theorem taken :
    machine.execution.instruction.target? machine.execution.machine.cpu.registers =
      some 0x80010000 := by
  change machine.nextInstruction.target? machine.fetched.cpu.registers = some 0x80010000
  rw [endless.nextInstruction, Instruction.target?, if_pos (by simp [BranchTest.holds]),
    endless.pc_fetched]
  decide

theorem linked : machine.execution.linked = machine.fetched := by
  change
    machine.fetched.withRegisters
        (machine.nextInstruction.linked machine.fetched.cpu.registers) =
      machine.fetched
  rw [endless.nextInstruction]
  rfl

theorem slot : machine.fetched.nextInstruction = .load .word 8 0 0 := by
  have slotHolds : machine.fetched.Holds endlessWords := endless.holds
  have word : machine.fetched.nextWord = 0x8C080000 := by
    rw [nextWord, endless.pc_fetched]
    exact slotHolds.read (by decide) (by decide) (by decide)
  rw [Machine.nextInstruction, word]
  decide

theorem reads : machine.fetched.hazard? 0x80010000 = some (8, .reads) := by
  have slotHolds : machine.fetched.inSlot.Holds endlessWords := endless.holds
  have word : machine.fetched.inSlot.bus.read .word 0x80010000 = 0x1108FFFF :=
    slotHolds.read (by decide) (by decide) (by decide)
  rw [hazard?, endless.slot, word]
  decide

/-- The branch nests itself, with the load held back. -/
theorem nested :
    ∃ later : Machine,
      later.IsEndless ∧ machine.execution.nested = .target later.execution := by
  obtain ⟨loaded, ran⟩ :
      ∃ loaded,
        (load .word 8 0 0).run machine.fetched.inSlot =
          .ok ()
            (machine.fetched.inSlot.withRegisters
              (machine.fetched.inSlot.cpu.registers.set 8 loaded)) := by
    rw [load, EStateM.run_bind, run_getReg, Registers.get_zero]
    simp only
    rw [loadAligned, if_pos (by decide)]
    exact ⟨_, rfl⟩
  refine
    ⟨(machine.fetched.inSlot.atTarget 0x80010000).overlaid 0 0 (some (8, loaded)),
      ⟨?_, ?_⟩, ?_⟩
  · unfold overlaid Cpu.overlaid
    simp only [Registers.set_zero]
    rfl
  · exact endless.holds
  · have calm : machine.fetched.inSlot.cpu.exceptionTaken = false := rfl
    have value :
        (machine.fetched.inSlot.cpu.registers.set 8 loaded).get 8 = loaded :=
      Registers.get_set_self _ (by decide) _
    simp only [Execution.nested, endless.taken, Execution.delaySlot, endless.linked,
      endless.reads, endless.slot, held?, ran, withRegisters_exceptionTaken, calm,
      withRegisters_registers, value, Bool.false_eq_true, ↓reduceIte]

/-- However deep, what the branch nests is the branch. -/
theorem nestedAfter (links : Nat) :
    ∃ later : Machine,
      later.IsEndless ∧ machine.execution.nestedAfter links = some later.execution := by
  induction links generalizing machine with
  | zero => exact ⟨machine, endless, rfl⟩
  | succ links inductionHypothesis =>
      obtain ⟨next, nextEndless, found⟩ := endless.nested
      obtain ⟨later, laterEndless, reaches⟩ := inductionHypothesis nextEndless
      refine ⟨later, laterEndless, ?_⟩
      rw [Execution.nestedAfter, found]
      exact reaches

theorem callsNoGuest : machine.CallsNoGuest := by
  intro links last reaches code trap isTrap
  obtain ⟨later, laterEndless, reachesLater⟩ := endless.nestedAfter links
  rw [reachesLater] at reaches
  cases reaches
  have isBranch : later.execution.instruction = .branch .equal 8 8 0xFFFF :=
    laterEndless.nextInstruction
  rw [isBranch] at isTrap
  cases isTrap

end IsEndless

/-- The step of a branch that nests itself never ends, so that no bound holds for all. -/
theorem not_stepsWithin_bounded :
    (∀ depth,
        ∃ failed,
          (stepWith (executeNested depth)).run (guest endlessWords 0x80010000) =
            .error .nestingTooDeep failed) ∧
      ¬∃ bound, ∀ machine : Machine, machine.CallsNoGuest → machine.StepsWithin bound := by
  have endless : (guest endlessWords 0x80010000).IsEndless := ⟨rfl, rfl⟩
  constructor
  · intro depth
    obtain ⟨later, _, reaches⟩ := endless.nestedAfter depth
    rw [Execution.run_step]
    exact Execution.runsOut_of_nestedAfter reaches
  · rintro ⟨bound, within⟩
    obtain ⟨later, _, reaches⟩ := endless.nestedAfter bound
    have short := (within _ endless.callsNoGuest).nestedAfter
    rw [reaches] at short
    cases short

end Machine

end PsxPlayer
