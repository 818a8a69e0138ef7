import PsxPlayer.Proofs.Firmware.Composed

namespace PsxPlayer

/-!
# What a step does to the bus

However deeply its instructions nest, a step comes down to fetches, each of which moves
the clock by one, and to what fetches nothing.  What it does to the bus is therefore
what a list of commands does.
-/

namespace Action

/-- What all instructions come down to. -/
inductive IsElementary : Action Unit → Prop where
  | tick : IsElementary tick
  | fault (fault : Fault) : IsElementary (throw fault)

section

variable {part : Action Unit → Prop}

theorem composed_link (register : Reg) : Composed part (link register) :=
  .bind composed_getPc fun _ => composed_setReg _ _

theorem composed_jumpTarget (field : UInt32) : Composed part (jumpTarget field) :=
  .bind composed_getPc fun _ => .pure _

theorem composed_branchTarget (offset : UInt32) : Composed part (branchTarget offset) :=
  .bind composed_getPc fun _ => .pure _

variable {execute : Instruction → Action Unit}
  (ticks : Composed part tick)
  (executes : ∀ instruction, Composed part (execute instruction))

include ticks executes

/--
A step of the processor is composed of the elementary actions of its parts, the steps
that a branch takes in its slot included.
-/
theorem composed_stepWith : Composed part (stepWith execute) :=
  .bind composed_getPc fun _ =>
    .bind (composed_read _ _) fun _ =>
      .bind ticks fun _ => .bind (composed_setPc _) fun _ => executes _

/-- So is a transfer which holds a load back. -/
theorem composed_transferHolding
    (slot : Instruction)
    (register : Reg)
    (target : UInt32) :
    Composed part
      (transferHolding (execute slot) (stepWith execute) register target) := by
  have left : Composed part leaveDelaySlot :=
    .calm (fun _ => rfl) (fun _ => ⟨rfl, rfl⟩) fun _ _ _ => ⟨rfl, _, rfl⟩
  have deferred (old loaded : UInt32) : Composed part (deferLoad register old loaded) :=
    .calm (fun _ => rfl) (fun _ => ⟨rfl, rfl⟩) fun _ _ _ => ⟨rfl, _, rfl⟩
  refine .bind (composed_getReg _) fun _ => .bind (executes _) fun _ =>
    .bind left fun _ => .bind (composed_ofCpu _) fun _ => .ite (fun _ => .pure ()) fun _ => ?_
  exact .bind (composed_getReg _) fun _ => .bind (composed_setPc _) fun _ =>
    .bind (deferred _ _) fun _ => .bind (composed_stepWith ticks executes) fun _ =>
      .bind composed_commitDeferredLoad fun _ => composed_settle _

/-- A transfer of control is composed of the instructions that it nests. -/
theorem composed_transfer (target : UInt32) :
    Composed part (transfer execute (stepWith execute) target) := by
  have entered (next : UInt32) : Composed part (enterDelaySlot next) :=
    .calm (fun _ => rfl) (fun _ => ⟨rfl, rfl⟩) fun _ _ _ => ⟨rfl, _, rfl⟩
  have looked (slot : Instruction) : Composed part (hazardOf slot target) := by
    unfold hazardOf
    split
    · exact .bind (composed_read _ _) fun _ => .pure _
    · exact .pure _
  refine .bind composed_commitDeferredLoad fun _ => .bind composed_getPc fun _ =>
    .bind (composed_read _ _) fun _ => .bind ticks fun _ => .bind (entered _) fun _ =>
      .bind (looked _) fun found => ?_
  split
  · exact composed_arrive _ _
  · exact composed_transferHolding ticks executes _ _ _
  · exact .bind (executes _) fun _ => composed_arrive _ _

/-- An instruction is composed of those that it nests. -/
theorem composed_execute (instruction : Instruction) :
    Composed part (executeWith execute instruction) := by
  have transferred := composed_transfer ticks executes
  by_cases plain : instruction.isPlain = true
  · exact composed_executeWith execute plain
  · cases instruction <;>
      simp only [Instruction.isPlain, Instruction.isTransfer, Bool.not_true,
        Bool.not_false, not_true_eq_false] at plain
    case jump field =>
      exact .bind (composed_jumpTarget _) fun _ => transferred _
    case jumpLink field =>
      exact .bind (composed_link _) fun _ =>
        .bind (composed_jumpTarget _) fun _ => transferred _
    case jumpRegister source => exact .bind (composed_getReg _) fun _ => transferred _
    case jumpLinkRegister target source =>
      exact .bind (composed_getReg _) fun _ =>
        .bind (composed_link _) fun _ => transferred _
    case branch test first second offset =>
      refine .bind (composed_getReg _) fun _ => .bind (composed_getReg _) fun _ =>
        .ite (fun _ => ?_) fun _ => .pure ()
      exact .bind (composed_branchTarget _) fun _ => transferred _
    case branchSign nonNegative links source offset =>
      have branched (taken : Bool) :
          Composed part
            (if taken then
              branchTarget offset >>= transfer execute (stepWith execute)
            else
              pure ()) :=
        .ite (fun _ => .bind (composed_branchTarget _) fun _ => transferred _) fun _ =>
          .pure ()
      refine .bind (composed_getReg _) fun _ => ?_
      split
      · exact .bind (composed_link _) fun _ => branched _
      · exact branched _
    case trap code =>
      rw [executeWith]
      split
      · exact composed_serveTrap (composed_stepWith ticks executes) _
      · exact .pure ()

end

/-- The end of an instruction is elementary. -/
theorem composed_tick : Composed IsElementary tick :=
  .part .tick

/-- However deeply they nest, instructions come down to fetches and faults. -/
theorem composed_executeNested (depth : Nat) (instruction : Instruction) :
    Composed IsElementary (executeNested depth instruction) := by
  induction depth generalizing instruction with
  | zero => exact .part (.fault .nestingTooDeep)
  | succ depth inductionHypothesis =>
      exact composed_execute composed_tick inductionHypothesis instruction

/-- A step of the machine is composed of elementary actions. -/
theorem composed_step : Composed IsElementary step :=
  composed_stepWith composed_tick (composed_executeNested nestingLimit)

/-- The bus after an action on it is that after the action alone. -/
theorem bus_stateAfter_onBus
    {α : Type}
    (action : BusAction α)
    (machine : Machine) :
    (stateAfter (onBus action) machine).bus = stateAfter action machine.bus := by
  unfold stateAfter
  rw [run_onBus]
  cases action.run machine.bus <;> rfl

/-- Running on the bus of a machine is running on the bus, one part after the other. -/
theorem onBus_bind
    {α β : Type}
    (action : BusAction α)
    (next : α → BusAction β) :
    onBus (action >>= next) = onBus action >>= fun value => onBus (next value) := by
  funext machine
  change (onBus (action >>= next)).run machine = (onBus action >>= _).run machine
  rw [run_onBus, EStateM.run_bind, EStateM.run_bind, run_onBus]
  cases action.run machine.bus with
  | ok value between =>
      simp only [run_onBus, Machine.withBus_bus]
      cases (next value).run between <;> rfl
  | error fault failed => rfl

/-- An action on the bus carries out the same commands on the bus of a machine. -/
theorem performs_onBus
    {α : Type}
    {action : BusAction α}
    {bus : Bus}
    {commands : List BusCommand}
    (performs : Performs id action bus commands)
    {machine : Machine}
    (same : machine.bus = bus) :
    Performs Machine.bus (onBus action) machine commands := by
  induction performs generalizing machine with
  | quiet quiet =>
      exact .quiet fun machine => (bus_stateAfter_onBus _ machine).trans (quiet machine.bus)
  | command obeys =>
      exact .command fun machine => (bus_stateAfter_onBus _ machine).trans (obeys machine.bus)
  | @arrange α action bus keeps =>
      subst same
      have after := bus_stateAfter_onBus action machine
      have arranged :
          Performs Machine.bus (onBus action) machine
            [.arrange (stateAfter (onBus action) machine).bus.memory
              (stateAfter (onBus action) machine).bus.interrupts
              (stateAfter (onBus action) machine).bus.dma] := by
        refine .arrange fun machine => ?_
        rw [bus_stateAfter_onBus]
        exact keeps machine.bus
      rw [after] at arranged
      exact arranged
  | @bind α β action next bus between value commands others first ran rest firstPerforms
      restPerforms =>
      subst same
      have ranToo : (onBus action).run machine = .ok value (machine.withBus between) := by
        rw [run_onBus, ran]
      rw [onBus_bind]
      exact .bind (firstPerforms rfl) ranToo (restPerforms (machine.withBus_bus between))
  | @fails α β action next bus failed fault commands first ran performs =>
      subst same
      have failedToo : (onBus action).run machine = .error fault (machine.withBus failed) := by
        rw [run_onBus, ran]
      rw [onBus_bind]
      exact .fails (performs rfl) failedToo

/-- What is made up of bus commands stays so on the bus of a machine. -/
theorem isMadeUp_onBus
    {α : Type}
    {action : BusAction α}
    (madeUp : IsMadeUp id action) :
    IsMadeUp Machine.bus (onBus action) := by
  intro machine
  obtain ⟨commands, performs⟩ := madeUp machine.bus
  exact ⟨commands, performs_onBus performs rfl⟩

/-- Skipping idle time is made up of bus commands: the deadline is one of them. -/
theorem isMadeUp_skipIdleTime : IsMadeUp Machine.bus skipIdleTime := by
  refine .bind (.of_same fun _ => rfl) fun skips => ?_
  split
  · exact fun machine => ⟨[.skipToDeadline], .command fun _ => rfl⟩
  · exact .of_same fun _ => rfl

/-- What an elementary action does to the bus is made up of bus commands. -/
theorem IsElementary.isMadeUp
    {action : Action Unit}
    (elementary : IsElementary action) :
    IsMadeUp Machine.bus action := by
  cases elementary with
  | tick => exact fun machine => ⟨[.advance 1], .command fun _ => rfl⟩
  | fault fault => exact .of_same fun _ => rfl

/-- What comes down to fetches and faults is made up of commands to the bus. -/
theorem Composed.isMadeUp
    {α : Type}
    {action : Action α}
    (composed : Composed IsElementary action) :
    IsMadeUp Machine.bus action := by
  induction composed with
  | pure value => exact .of_same fun _ => rfl
  | bind first second firstMadeUp secondMadeUp => exact .bind firstMadeUp secondMadeUp
  | calm changes same unheard =>
      refine .of_same fun machine => ?_
      rw [stateAfter, changes]
      exact (same machine).1
  | onBus flat madeUp deaf => exact isMadeUp_onBus madeUp
  | skipIdleTime => exact isMadeUp_skipIdleTime
  | part isPart => exact isPart.isMadeUp

theorem isDeaf_skipIdleTime : IsDeaf skipIdleTime := by
  have skipped :
      IsDeaf
        (modifyBus fun bus => { bus with counters := bus.counters.skipToDeadline }) :=
    isDeaf_modifyBus
      (Bus.isDeaf_modify (fun _ _ => rfl) (fun _ => rfl) fun bus =>
        ⟨rfl, bus.counters.vsyncRate_skipToDeadline⟩)
  have looked : IsUnheard (fun machine => machine.cpu.skipsIdleLoops) id :=
    fun _ _ _ => ⟨rfl, _, rfl⟩
  refine .bind (looked.isDeaf_of_sameBus (fun _ => rfl) fun _ => rfl) fun skips => ?_
  split
  · exact skipped
  · exact .pure ()

/-- An elementary action does not depend on the recording. -/
theorem IsElementary.isDeaf
    {action : Action Unit}
    (elementary : IsElementary action) :
    IsDeaf action := by
  cases elementary with
  | tick =>
      exact
        isDeaf_modifyBus
          (Bus.isDeaf_modify (fun _ _ => rfl) (fun _ => rfl) fun _ => ⟨rfl, rfl⟩)
  | fault fault => exact isDeaf_throw fault

/-- What comes down to fetches and faults does not depend on what has been recorded. -/
theorem Composed.isDeaf
    {α : Type}
    {action : Action α}
    (composed : Composed IsElementary action) :
    IsDeaf action := by
  induction composed with
  | pure value => exact .pure value
  | bind first second firstDeaf secondDeaf => exact .bind firstDeaf secondDeaf
  | calm changes same unheard =>
      exact unheard.isDeaf_of_sameBus changes fun machine => (same machine).1
  | onBus flat madeUp deaf => exact isDeaf_onBus deaf
  | skipIdleTime => exact isDeaf_skipIdleTime
  | part isPart => exact isPart.isDeaf

end Action

end PsxPlayer
