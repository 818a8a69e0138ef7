import PsxPlayer.Proofs.Firmware.Standing

namespace PsxPlayer

/-!
# Invariants of a run

A property of where the machine stands may depend on what has happened before.  If
each single thing that may happen keeps it, it holds wherever something happens in a
run, however deeply that is nested, and at the end of the run.
-/

open PsxPlayer.Action

/--
What keeps a property of the moments so far and of where the machine stands.  Where a
run comes back to an address that it has had before, the property has to allow for
what has happened since.
-/
structure IsInvariant (Holds : List Course.Moment → Standing → Prop) : Prop where
  fetched
    {told : List Course.Moment}
    {standing : Standing}
    (holds : Holds told standing) :
    Holds told { standing with pc := standing.pc + 4 }
  entered
    {told : List Course.Moment}
    {execution : Execution}
    {target : UInt32}
    (transfers : execution.target? = some target)
    (holds : Holds told execution.machine.standing) :
    Holds (told ++ [.executed execution]) execution.machine.standing
  transferred
    {told later : List Course.Moment}
    {execution : Execution}
    {target : UInt32}
    {standing : Standing}
    (transfers : execution.target? = some target)
    (before : Holds told execution.machine.standing)
    (holds : Holds (told ++ [.executed execution] ++ later) standing) :
    Holds (told ++ [.executed execution] ++ later) { standing with pc := target }
  left
    {told : List Course.Moment}
    {execution : Execution}
    {standing : Standing}
    (untaken : execution.target? = none)
    (noService : execution.guestService? = none)
    (holds : Holds told execution.machine.standing)
    (leaves : execution.Leaves standing) :
    Holds (told ++ [.executed execution]) standing
  arrived
    {told : List Course.Moment}
    {machine : Machine}
    (holds : Holds told machine.standing) :
    Holds (told ++ [.arrived machine]) machine.standing
  checked
    {told : List Course.Moment}
    {machine : Machine}
    (holds : Holds told machine.standing) :
    Holds (told ++ [.checked machine]) machine.checked.standing
  called
    {told : List Course.Moment}
    {machine : Machine}
    (function : UInt32)
    (holds : Holds told machine.standing) :
    Holds (told ++ [.called function machine]) { machine.standing with pc := function }
  returned
    {told later : List Course.Moment}
    {machine : Machine}
    {function : UInt32}
    {standing : Standing}
    (before : Holds told machine.standing)
    (holds : Holds (told ++ [.called function machine] ++ later) standing) :
    Holds (told ++ [.called function machine] ++ later)
      { standing with pc := machine.cpu.registers.pc }
  delivering
    {told : List Course.Moment}
    {execution : Execution}
    (serves : execution.guestService? = some .delivery)
    (holds : Holds told execution.machine.standing) :
    Holds (told ++ [.executed execution]) execution.machine.atCaller.standing
  interrupting
    {told : List Course.Moment}
    {execution : Execution}
    (serves : execution.guestService? = some .interrupt)
    (holds : Holds told execution.machine.standing) :
    Holds (told ++ [.executed execution]) execution.machine.contextKept.standing
  goneOn
    {told later : List Course.Moment}
    {execution : Execution}
    {delivered : Machine}
    (serves : execution.guestService? = some .interrupt)
    (before : Holds told execution.machine.standing)
    (holds : Holds (told ++ [.executed execution] ++ later) delivered.standing) :
    Holds (told ++ [.executed execution] ++ later ++ [.delivered delivered])
      (if delivered.firmware.hook ≠ 0 then
          delivered.restored delivered.firmware.hook 1
        else
          delivered.resumed
            (execution.machine.cpu.system.get SystemRegisters.returnAddress)).standing

/-- Something has begun in the moments so far and has not ended since. -/
def Lasts (Begins Ends : Course.Moment → Prop) (told : List Course.Moment) : Prop :=
  told.foldl (fun lasting moment => Begins moment ∨ lasting ∧ ¬Ends moment) False

namespace Lasts

variable {Begins Ends : Course.Moment → Prop}

/-- What lasts after one moment more has begun in it, or lasted and not ended in it. -/
theorem append_iff (told : List Course.Moment) (moment : Course.Moment) :
    Lasts Begins Ends (told ++ [moment]) ↔
      Begins moment ∨ Lasts Begins Ends told ∧ ¬Ends moment := by
  rw [Lasts, List.foldl_append]
  rfl

/-- What has begun lasts until it ends. -/
theorem of_begun
    {before within : List Course.Moment}
    {moment : Course.Moment}
    (begins : Begins moment)
    (goesOn : ∀ later ∈ within, ¬Ends later) :
    Lasts Begins Ends (before ++ moment :: within) := by
  have stays (lasting : Prop) (isLasting : lasting) :
      within.foldl (fun lasting later => Begins later ∨ lasting ∧ ¬Ends later) lasting := by
    induction within generalizing lasting with
    | nil => exact isLasting
    | cons later rest inductionHypothesis =>
        rw [List.forall_mem_cons] at goesOn
        exact inductionHypothesis goesOn.2 _ (.inr ⟨isLasting, goesOn.1⟩)
  rw [Lasts, List.foldl_append, List.foldl_cons]
  exact stays _ (.inl begins)

/-- What does not begin now has lasted, and does not end. -/
theorem of_append
    {told : List Course.Moment}
    {moment : Course.Moment}
    (noBegin : ¬Begins moment)
    (lasts : Lasts Begins Ends (told ++ [moment])) :
    Lasts Begins Ends told ∧ ¬Ends moment :=
  ((append_iff told moment).1 lasts).resolve_left noBegin

end Lasts

/-- A property holds as each of some moments begins. -/
def HoldsThroughout
    (Holds : List Course.Moment → Standing → Prop) :
    List Course.Moment → List Course.Moment → Prop
  | _, [] => True
  | told, moment :: rest =>
      Holds told moment.machine.standing ∧ HoldsThroughout Holds (told ++ [moment]) rest

/--
A property holds wherever something happens in a course, and where it ends, be it with
a fault that the guest may cause.
-/
structure Course.Keeps
    (Holds : List Course.Moment → Standing → Prop)
    (told : List Course.Moment)
    (course : Course) :
    Prop where
  throughout : HoldsThroughout Holds told course.moments
  atEnd :
    ∀ last,
      course.outcome = .ok () last →
      Holds (told ++ course.moments) last.standing
  atFault :
    ∀ fault failed,
      course.outcome = .error fault failed →
      fault ≠ .nestingTooDeep →
      Holds (told ++ course.moments) failed.standing

namespace HoldsThroughout

variable {Holds : List Course.Moment → Standing → Prop}

/-- What holds throughout two parts one after the other holds throughout both. -/
theorem append
    {told first second : List Course.Moment}
    (before : HoldsThroughout Holds told first)
    (after : HoldsThroughout Holds (told ++ first) second) :
    HoldsThroughout Holds told (first ++ second) := by
  induction first generalizing told with
  | nil => simpa using after
  | cons moment rest inductionHypothesis =>
      refine ⟨before.1, inductionHypothesis before.2 ?_⟩
      simpa using after

/-- A property that holds throughout holds at each moment. -/
theorem at_moment
    {told before after : List Course.Moment}
    {moment : Course.Moment}
    (holds : HoldsThroughout Holds told (before ++ moment :: after)) :
    Holds (told ++ before) moment.machine.standing := by
  induction before generalizing told with
  | nil => simpa using holds.1
  | cons first rest inductionHypothesis => simpa using inductionHypothesis holds.2

end HoldsThroughout

namespace Machine

/-- A jump changes where the processor stands and nothing else. -/
@[simp]
theorem standing_atTarget (machine : Machine) (target : UInt32) :
    (machine.atTarget target).standing = { machine.standing with pc := target } :=
  rfl

/-- Committing a load changes nothing of the standing. -/
@[simp]
theorem standing_committed (machine : Machine) :
    machine.committed.standing = machine.standing := by
  simp only [standing, committed, Cpu.pc_committed, Cpu.system_committed]

/-- A delay slot is fetched as any instruction is. -/
@[simp]
theorem standing_inSlot (machine : Machine) :
    machine.inSlot.standing =
      { machine.standing with pc := machine.cpu.registers.pc + 4 } := by
  simp only [standing, inSlot, committed, Cpu.pc_committed, Cpu.system_committed]

/-- Holding a load back changes nothing of the standing. -/
@[simp]
theorem standing_overlaid
    (machine : Machine)
    (register : Reg)
    (value : UInt32)
    (deferred? : Option (Reg × UInt32)) :
    (machine.overlaid register value deferred?).standing = machine.standing := by
  simp only [standing, overlaid, Cpu.overlaid, Registers.pc_set]

/-- Back from a handler the processor stands where it called. -/
@[simp]
theorem standing_returned (caller outcome : Machine) :
    (caller.returned outcome).standing =
      { outcome.standing with pc := caller.cpu.registers.pc } := by
  simp only [standing, returned, withRegisters, Registers.pc_set]

/-- Where no interrupt is taken, the check on arrival shows the line only. -/
theorem checked_of_ignored
    (machine : Machine)
    (ignored : (machine.cpu.system.setLine true).takesInterrupts = false) :
    ∃ raised,
      machine.checked = machine.withSystem (machine.cpu.system.setLine raised) := by
  unfold checked
  split
  · rw [if_neg (by rw [ignored]; exact Bool.false_ne_true)]
    exact ⟨true, rfl⟩
  · exact ⟨false, rfl⟩

end Machine

/-- Setting the return address changes nothing of the standing. -/
@[simp]
theorem Execution.standing_linked (execution : Execution) :
    execution.linked.standing = execution.machine.standing := by
  exact congrArg Prod.fst
    (execution.machine.control_withRegisters (execution.instruction.pc_linked _))

namespace Action

/-- What stays put stays where it stands. -/
theorem StaysPut.standing_eq
    {action : Action Unit}
    {machine after : Machine}
    (stays : StaysPut action)
    (ran : action.run machine = .ok () after) :
    after.standing = machine.standing := by
  have same := stays machine
  rw [ran] at same
  exact congrArg Prod.fst same

/-- An action that stays put stays put when it fails. -/
theorem StaysPut.standing_eq_of_error
    {action : Action Unit}
    {machine failed : Machine}
    {fault : Fault}
    (stays : StaysPut action)
    (ran : action.run machine = .error fault failed) :
    failed.standing = machine.standing := by
  have same := stays machine
  rw [ran] at same
  exact congrArg Prod.fst same.2

/-- The check on arrival may move the clock besides. -/
theorem run_checkInterrupts (idle : Bool) (machine : Machine) :
    ∃ bus,
      bus.memory = machine.bus.memory ∧
        (checkInterrupts idle).run machine = .ok () (machine.checked.withBus bus) := by
  have skipped (line : Machine) (sameMemory : line.bus.memory = machine.bus.memory) :
      ∃ bus,
        bus.memory = machine.bus.memory ∧
          (if idle then skipIdleTime else pure ()).run line =
            .ok () (line.withBus bus) := by
    cases idle with
    | false => exact ⟨line.bus, sameMemory, rfl⟩
    | true =>
        cases skips : line.cpu.skipsIdleLoops with
        | false =>
            refine ⟨line.bus, sameMemory, ?_⟩
            simp [skipIdleTime, skips]
        | true =>
            refine
              ⟨{ line.bus with counters := line.bus.counters.skipToDeadline }, sameMemory,
                ?_⟩
            simp [skipIdleTime, skips]
  unfold checkInterrupts Machine.checked
  rw [EStateM.run_bind, run_ofBus]
  simp only
  split
  · rw [EStateM.run_bind, run_modifySystem]
    simp only
    rw [EStateM.run_bind, run_ofCpu]
    simp only [Machine.withSystem_system]
    by_cases takes : (machine.cpu.system.setLine true).takesInterrupts = true
    · simp only [takes, ↓reduceIte]
      exact ⟨machine.bus, rfl, rfl⟩
    · simp only [takes, Bool.false_eq_true, ↓reduceIte]
      exact skipped _ rfl
  · rw [EStateM.run_bind, run_modifySystem]
    exact skipped _ rfl

end Action

namespace Course

variable {Holds : List Course.Moment → Standing → Prop} {told : List Course.Moment}

/-- A course without a moment keeps what holds. -/
theorem keeps_still
    {machine : Machine}
    (holds : Holds told machine.standing) :
    (still machine).Keeps Holds told where
  throughout := trivial
  atEnd := by
    rintro last ⟨⟩
    simpa [still] using holds
  atFault := by
    rintro fault failed ⟨⟩

/-- A course of one action keeps what holds behind it, failed or not. -/
theorem keeps_ofAction
    {action : Action Unit}
    {machine : Machine}
    (holds : ∀ after, action.run machine = .ok () after → Holds told after.standing)
    (faultHolds :
      ∀ fault failed,
        action.run machine = .error fault failed → Holds told failed.standing) :
    (ofAction action machine).Keeps Holds told where
  throughout := trivial
  atEnd := by
    intro last ran
    simpa [ofAction] using holds last ran
  atFault := by
    intro fault failed ran _
    simpa [ofAction] using faultHolds fault failed ran

/-- A course of one action that stays put keeps what holds. -/
theorem keeps_ofAction_of_staysPut
    {action : Action Unit}
    {machine : Machine}
    (stays : StaysPut action)
    (holds : Holds told machine.standing) :
    (ofAction action machine).Keeps Holds told :=
  keeps_ofAction
    (fun _ ran => by
      rw [stays.standing_eq ran]
      exact holds)
    fun _ _ ran => by
      rw [stays.standing_eq_of_error ran]
      exact holds

/-- A moment that keeps what holds may come first. -/
theorem keeps_since
    {moment : Course.Moment}
    {course : Course}
    (holds : Holds told moment.machine.standing)
    (after : course.Keeps Holds (told ++ [moment])) :
    (since moment course).Keeps Holds told where
  throughout := ⟨holds, after.throughout⟩
  atEnd := by
    intro last ran
    simpa [since] using after.atEnd last ran
  atFault := by
    intro fault failed ran notTooDeep
    simpa [since] using after.atFault fault failed ran notTooDeep

/-- Courses one after the other keep what each of them keeps. -/
theorem keeps_andThen
    {course : Course}
    {next : Machine → Course}
    (first : course.Keeps Holds told)
    (second :
      ∀ after,
        Holds (told ++ course.moments) after.standing →
        (next after).Keeps Holds (told ++ course.moments)) :
    (course.andThen next).Keeps Holds told := by
  unfold andThen
  cases ran : course.outcome with
  | error fault failed =>
      constructor
      · exact first.throughout
      · rintro last ⟨⟩
      · rintro sameFault sameFailed ⟨⟩ notTooDeep
        exact first.atFault fault failed ran notTooDeep
  | ok value after =>
      have rest := second after (first.atEnd after ran)
      constructor
      · exact first.throughout.append rest.throughout
      · intro last reached
        simpa using rest.atEnd last reached
      · intro fault failed reached notTooDeep
        simpa using rest.atFault fault failed reached notTooDeep

section

variable (invariant : IsInvariant Holds)

include invariant

/-- Settling after a transfer keeps what holds. -/
theorem keeps_settled
    {machine : Machine}
    (idle : Bool)
    (holds : Holds told machine.standing) :
    (settled idle machine).Keeps Holds told := by
  refine keeps_since holds
    (keeps_andThen
      (keeps_ofAction_of_staysPut staysPut_serveCounters (invariant.arrived holds))
      fun served servedHolds => ?_)
  obtain ⟨bus, -, ran⟩ := run_checkInterrupts idle served
  refine keeps_since servedHolds (keeps_ofAction ?_ ?_)
  · intro after ended
    rw [ran] at ended
    cases ended
    exact invariant.checked servedHolds
  · intro fault failed ended
    rw [ran] at ended
    cases ended

/-- Arriving at the target of a transfer keeps what holds. -/
theorem keeps_arriving
    {execution : Execution}
    {target : UInt32}
    {later : List Course.Moment}
    {machine : Machine}
    (transfers : execution.target? = some target)
    (before : Holds told execution.machine.standing)
    (idle : Bool)
    (holds : Holds (told ++ [.executed execution] ++ later) machine.standing) :
    (arriving target idle machine).Keeps Holds
      (told ++ [.executed execution] ++ later) := by
  unfold arriving
  split
  · exact keeps_still holds
  · exact keeps_settled invariant idle (invariant.transferred transfers before holds)

section

variable {nested : Execution → Course}
  (nestedKeeps :
    ∀ {told execution},
      Holds told execution.machine.standing → (nested execution).Keeps Holds told)

include nestedKeeps

/-- A step keeps what the execution in it keeps. -/
theorem keeps_stepped
    {machine : Machine}
    (holds : Holds told machine.standing) :
    (nested machine.execution).Keeps Holds told :=
  nestedKeeps (invariant.fetched holds)

/-- A transfer that holds a load back keeps what holds. -/
theorem keeps_holding
    {execution : Execution}
    {target : UInt32}
    (transfers : execution.target? = some target)
    (before : Holds told execution.machine.standing)
    (slotHolds :
      Holds (told ++ [.executed execution]) execution.delaySlot.machine.standing)
    (register : Reg) :
    (holding nested execution register target).Keeps Holds
      (told ++ [.executed execution]) := by
  refine keeps_andThen (nestedKeeps slotHolds) fun slotted slottedHolds => ?_
  split
  · exact keeps_still slottedHolds
  · refine keeps_andThen (keeps_stepped invariant nestedKeeps ?_) fun last lastHolds => ?_
    · rw [Machine.heldBack, Machine.standing_overlaid]
      exact invariant.transferred transfers before slottedHolds
    · refine keeps_settled invariant false ?_
      rw [Machine.standing_committed]
      exact lastHolds

/-- A transfer with the instruction in its slot keeps what holds. -/
theorem keeps_transferring
    {execution : Execution}
    {target : UInt32}
    (transfers : execution.target? = some target)
    (before : Holds told execution.machine.standing) :
    (transferring nested execution target).Keeps Holds (told ++ [.executed execution]) := by
  have slotHolds :
      Holds (told ++ [.executed execution]) execution.linked.inSlot.standing := by
    rw [Machine.standing_inSlot, Execution.standing_linked]
    have samePc : execution.linked.cpu.registers.pc = execution.machine.cpu.registers.pc :=
      execution.instruction.pc_linked _
    rw [samePc]
    exact invariant.fetched (invariant.entered transfers before)
  have slotFirst :
      ((nested execution.delaySlot).andThen
          (arriving target (execution.linked.loopsTo target))).Keeps Holds
        (told ++ [.executed execution]) :=
    keeps_andThen (nestedKeeps slotHolds) fun slotted slottedHolds =>
      keeps_arriving invariant transfers before _ slottedHolds
  unfold transferring
  cases execution.linked.hazard? target with
  | none => exact slotFirst
  | some use =>
      rcases use with ⟨register, use⟩
      cases use with
      | none => exact slotFirst
      | writes => exact slotFirst
      | reads =>
          exact keeps_holding invariant nestedKeeps transfers before slotHolds register
      | readsAndWrites =>
          -- The slot is dropped: nothing happens between the transfer and its arrival.
          rw [← List.append_nil (told ++ [_])] at slotHolds ⊢
          exact keeps_arriving invariant transfers before _ slotHolds

/-- Steps up to a target keep what holds. -/
theorem keeps_stepping
    (target : UInt32)
    (limit : Nat)
    {machine : Machine}
    (holds : Holds told machine.standing) :
    (stepping nested target limit machine).Keeps Holds told := by
  induction limit generalizing told machine with
  | zero => exact keeps_still holds
  | succ limit inductionHypothesis =>
      unfold stepping
      split
      · exact keeps_still holds
      · exact keeps_andThen (keeps_stepped invariant nestedKeeps holds) fun after =>
          inductionHypothesis

/-- A handler keeps what holds. -/
theorem keeps_calling
    (function : UInt32)
    {machine : Machine}
    (holds : Holds told machine.standing) :
    (calling nested function machine).Keeps Holds told := by
  refine keeps_since holds
    (keeps_andThen
      (keeps_stepping invariant nestedKeeps _ _ (invariant.called function holds))
      fun outcome outcomeHolds => keeps_still ?_)
  rw [Machine.standing_returned]
  exact invariant.returned holds outcomeHolds

/-- Delivering to one event keeps what holds. -/
theorem keeps_deliveringTo
    (slot : Nat)
    (event : Event)
    {machine : Machine}
    (holds : Holds told machine.standing) :
    (deliveringTo nested slot event machine).Keeps Holds told := by
  unfold deliveringTo
  split
  · exact keeps_calling invariant nestedKeeps event.handler holds
  · next uncalled =>
      exact keeps_ofAction_of_staysPut (staysPut_deliverTo uncalled _ slot) holds

/-- Delivering to events one after the other keeps what holds. -/
theorem keeps_deliveringAmong
    (eventClass specification : UInt32)
    (slots : List Nat)
    {machine : Machine}
    (holds : Holds told machine.standing) :
    (deliveringAmong nested eventClass specification slots machine).Keeps Holds told := by
  induction slots generalizing told machine with
  | nil => exact keeps_still holds
  | cons slot rest inductionHypothesis =>
      refine keeps_andThen ?_ fun after => inductionHypothesis
      split
      · split
        · exact keeps_deliveringTo invariant nestedKeeps slot _ holds
        · exact keeps_still holds
      · exact keeps_still holds

/-- Delivering the pending lines keeps what holds. -/
theorem keeps_deliveringPending
    (pending : Lines)
    (counters : List Nat)
    {machine : Machine}
    (holds : Holds told machine.standing) :
    (deliveringPending nested pending counters machine).Keeps Holds told := by
  induction counters generalizing told machine with
  | nil => exact keeps_still holds
  | cons counter rest inductionHypothesis =>
      refine keeps_andThen ?_ fun after => inductionHypothesis
      split
      · exact keeps_deliveringAmong invariant nestedKeeps _ _ _ holds
      · exact keeps_still holds

/-- The interrupt routine keeps what holds. -/
theorem keeps_servingInterrupt
    {execution : Execution}
    (serves : execution.guestService? = some .interrupt)
    (before : Holds told execution.machine.standing) :
    (servingInterrupt nested execution.machine).Keeps Holds
      (told ++ [.executed execution]) := by
  refine keeps_andThen
    (keeps_deliveringPending invariant nestedKeeps _ _
      (invariant.interrupting serves before))
    fun delivered deliveredHolds => ?_
  refine keeps_since deliveredHolds (keeps_ofAction ?_ ?_)
  · intro after ran
    rw [run_goOn] at ran
    cases ran
    exact invariant.goneOn serves before deliveredHolds
  · intro fault failed ran
    rw [run_goOn] at ran
    cases ran

/-- Whatever is executed keeps what holds. -/
theorem keeps_executing
    {execution : Execution}
    (holds : Holds told execution.machine.standing) :
    (executing nested execution).Keeps Holds told := by
  refine keeps_since holds ?_
  cases transfers : execution.target? with
  | some target => exact keeps_transferring invariant nestedKeeps transfers holds
  | none =>
      cases serves : execution.guestService? with
      | some service =>
          cases service with
          | interrupt => exact keeps_servingInterrupt invariant nestedKeeps serves holds
          | delivery =>
              exact keeps_deliveringAmong invariant nestedKeeps _ _ _
                (invariant.delivering serves holds)
      | none =>
          have behind := leavesBehind_executeAlone transfers serves
          refine keeps_ofAction ?_ ?_
          · intro after ran
            rw [ran] at behind
            exact invariant.left transfers serves holds behind.1
          · intro fault failed ran
            rw [ran] at behind
            exact invariant.left transfers serves holds behind.2.1

end

/-- An invariant holds in an execution and in all that it nests. -/
theorem keeps_execution
    (depth : Nat)
    {outermost : Execution}
    (holds : Holds told outermost.machine.standing) :
    (execution depth outermost).Keeps Holds told := by
  induction depth generalizing told outermost with
  | zero =>
      constructor
      · exact ⟨holds, trivial⟩
      · rintro last ⟨⟩
      · rintro fault failed ⟨⟩ notTooDeep
        exact absurd rfl notTooDeep
  | succ depth inductionHypothesis =>
      exact keeps_executing invariant inductionHypothesis holds

/-- An invariant holds in a run. -/
theorem keeps_steps
    (depth count : Nat)
    {machine : Machine}
    (holds : Holds told machine.standing) :
    (steps depth count machine).Keeps Holds told := by
  induction count generalizing told machine with
  | zero => exact keeps_still holds
  | succ count inductionHypothesis =>
      exact keeps_andThen (keeps_execution invariant depth (invariant.fetched holds))
        fun after => inductionHypothesis

/-- An invariant holds whenever something happens in a run. -/
theorem holds_at_moment
    {depth count : Nat}
    {machine : Machine}
    {before after : List Course.Moment}
    {moment : Course.Moment}
    (start : Holds [] machine.standing)
    (happened : (steps depth count machine).moments = before ++ moment :: after) :
    Holds before moment.machine.standing := by
  have kept := (keeps_steps invariant depth count start).throughout
  rw [happened] at kept
  exact kept.at_moment

/-- An invariant holds after a run. -/
theorem holds_at_end
    {depth count : Nat}
    {machine last : Machine}
    (start : Holds [] machine.standing)
    (ended : (steps depth count machine).outcome = .ok () last) :
    Holds (steps depth count machine).moments last.standing :=
  (keeps_steps invariant depth count start).atEnd last ended

/-- An invariant holds where a run ends with a fault. -/
theorem holds_at_fault
    {depth count : Nat}
    {machine failed : Machine}
    {fault : Fault}
    (start : Holds [] machine.standing)
    (ended : (steps depth count machine).outcome = .error fault failed)
    (notTooDeep : fault ≠ .nestingTooDeep) :
    Holds (steps depth count machine).moments failed.standing :=
  (keeps_steps invariant depth count start).atFault fault failed ended notTooDeep

end

end Course

end PsxPlayer
