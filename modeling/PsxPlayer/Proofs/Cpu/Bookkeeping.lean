import PsxPlayer.Proofs.Cpu.Invariant

namespace PsxPlayer

/-!
# What a step leaves of its marks

A step that ends without a fault clears the marks for the delay slot and for the load
that is held back, or leaves them as they were.  A fault leaves the marks of the
instruction in which it strikes, so that one in a delay slot stays marked as in the slot.
-/

open PsxPlayer.Action

namespace Marks

/-- Each mark is cleared or as it was before. -/
structure IsPartOf (after before : Marks) : Prop where
  inDelaySlot : after.inDelaySlot = false ∨ after.inDelaySlot = before.inDelaySlot
  deferredLoad? : after.deferredLoad? = none ∨ after.deferredLoad? = before.deferredLoad?

namespace IsPartOf

@[simp]
theorem refl (marks : Marks) : marks.IsPartOf marks :=
  ⟨.inr rfl, .inr rfl⟩

/-- A part of a part is a part. -/
theorem trans
    {first second third : Marks}
    (after : third.IsPartOf second)
    (before : second.IsPartOf first) :
    third.IsPartOf first := by
  refine ⟨?_, ?_⟩
  · rcases after.inDelaySlot with cleared | same
    · exact .inl cleared
    · rw [same]
      exact before.inDelaySlot
  · rcases after.deferredLoad? with cleared | same
    · exact .inl cleared
    · rw [same]
      exact before.deferredLoad?

/-- No marks are part of any. -/
theorem of_clear (marks : Marks) : clear.IsPartOf marks :=
  ⟨.inl rfl, .inl rfl⟩

/-- Only no marks are part of none. -/
theorem eq_clear
    {marks : Marks}
    (part : marks.IsPartOf clear) :
    marks = clear := by
  have unmarked : marks.inDelaySlot = false := part.inDelaySlot.elim id id
  have nothingHeld : marks.deferredLoad? = none := part.deferredLoad?.elim id id
  rcases marks with ⟨inDelaySlot, deferredLoad?⟩
  cases unmarked
  cases nothingHeld
  rfl

end IsPartOf

end Marks

/-- A fault leaves the marks as they are when the last thing happens. -/
def Course.FailsWithLastMarks (course : Course) : Prop :=
  ∀ fault failed,
    course.outcome = .error fault failed →
    ∃ before moment,
      course.moments = before ++ [moment] ∧ failed.marks = moment.machine.marks

/-- A course tidies up its marks, down to some given ones, unless there is a fault. -/
structure Course.TidiesUp (marks : Marks) (course : Course) : Prop where
  atEnd : ∀ last, course.outcome = .ok () last → last.marks.IsPartOf marks
  atFault : course.FailsWithLastMarks

namespace Machine

/-- Outside the slot only the load that is held back is marked. -/
theorem marks_slotLeft (machine : Machine) :
    machine.slotLeft.marks = ⟨false, machine.cpu.deferredLoad?⟩ :=
  rfl

/-- In the slot the slot alone is marked. -/
theorem marks_inSlot (machine : Machine) : machine.inSlot.marks = ⟨true, none⟩ := by
  simp only [marks, inSlot, committed, Cpu.deferredLoad?_committed]

/-- Once a load is committed only the slot may be marked. -/
theorem marks_committed (machine : Machine) :
    machine.committed.marks = ⟨machine.cpu.inDelaySlot, none⟩ := by
  have sameSlot : machine.committed.cpu.inDelaySlot = machine.cpu.inDelaySlot := by
    simp only [committed, Cpu.committed]
    split <;> rfl
  simp only [marks, sameSlot]
  simp only [committed, Cpu.deferredLoad?_committed]

/-- The check for interrupts on arrival marks nothing. -/
theorem marks_checked (machine : Machine) : machine.checked.marks = machine.marks := by
  unfold checked
  split
  · split
    · rfl
    · rfl
  · rfl

end Machine

namespace Action

variable {action : Action Unit} {machine : Machine}

/-- An action that stays put leaves the marks. -/
theorem StaysPut.marks_eq
    {after : Machine}
    (stays : StaysPut action)
    (ran : action.run machine = .ok () after) :
    after.marks = machine.marks := by
  have same := stays machine
  rw [ran] at same
  exact congrArg Prod.snd same

/-- An action that stays put leaves the marks when it fails. -/
theorem StaysPut.marks_eq_of_error
    {failed : Machine}
    {fault : Fault}
    (stays : StaysPut action)
    (ran : action.run machine = .error fault failed) :
    failed.marks = machine.marks := by
  have same := stays machine
  rw [ran] at same
  exact congrArg Prod.snd same.2

/-- Marking an event as ready does not fail. -/
theorem run_deliverTo_uncalled
    {event : Event}
    (uncalled : ¬(event.mode = Event.callbackMode ∧ event.handler ≠ 0))
    (slot : Nat)
    (machine : Machine) :
    ∃ after,
      (deliverTo (pure ()) slot event).run machine = .ok () after ∧
        after.marks = machine.marks := by
  unfold deliverTo
  split
  · next callback =>
      split
      · next handled => exact absurd ⟨callback, handled⟩ uncalled
      · exact ⟨machine, rfl, rfl⟩
  · split
    · exact ⟨_, rfl, rfl⟩
    · exact ⟨machine, rfl, rfl⟩

end Action

namespace Course

variable {marks : Marks}

/-- A course that leaves fewer marks behind leaves no more than others allow. -/
theorem TidiesUp.weaken
    {course : Course}
    {other : Marks}
    (tidies : course.TidiesUp marks)
    (part : marks.IsPartOf other) :
    course.TidiesUp other :=
  ⟨fun last ended => (tidies.atEnd last ended).trans part, tidies.atFault⟩

/-- A course without a moment leaves the marks that were there. -/
theorem tidiesUp_still
    {machine : Machine}
    (part : machine.marks.IsPartOf marks) :
    (still machine).TidiesUp marks where
  atEnd := by
    rintro last ⟨⟩
    exact part
  atFault := by
    rintro fault failed ⟨⟩

/-- A moment before a course leaves no marks of its own. -/
theorem tidiesUp_since
    {course : Course}
    (moment : Course.Moment)
    (tidies : course.TidiesUp marks) :
    (since moment course).TidiesUp marks where
  atEnd := tidies.atEnd
  atFault := by
    intro fault failed ended
    obtain ⟨before, last, told, same⟩ := tidies.atFault fault failed ended
    exact ⟨moment :: before, last, congrArg (moment :: ·) told, same⟩

/-- Of two courses one after the other the second decides which marks are left. -/
theorem tidiesUp_andThen
    {course : Course}
    {next : Machine → Course}
    {between : Marks}
    (first : course.TidiesUp between)
    (second : ∀ after, after.marks.IsPartOf between → (next after).TidiesUp marks) :
    (course.andThen next).TidiesUp marks := by
  unfold andThen
  cases ran : course.outcome with
  | error fault failed =>
      constructor
      · rintro last ⟨⟩
      · rintro sameFault sameFailed ⟨⟩
        exact first.atFault fault failed ran
  | ok value after =>
      have rest := second after (first.atEnd after ran)
      constructor
      · exact rest.atEnd
      · intro fault failed ended
        obtain ⟨before, last, told, same⟩ := rest.atFault fault failed ended
        refine ⟨course.moments ++ before, last, ?_, same⟩
        rw [List.append_assoc, ← told]

/-- An action that ends without a fault. -/
theorem tidiesUp_ofAction
    {action : Action Unit}
    {machine after : Machine}
    (ran : action.run machine = .ok () after)
    (part : after.marks.IsPartOf marks) :
    (ofAction action machine).TidiesUp marks where
  atEnd := by
    intro last ended
    rw [ofAction, ran] at ended
    cases ended
    exact part
  atFault := by
    intro fault failed ended
    rw [ofAction, ran] at ended
    cases ended

/-- An action that is told before it may fail. -/
theorem tidiesUp_since_ofAction
    {action : Action Unit}
    {machine : Machine}
    {moment : Course.Moment}
    (begins : moment.machine = machine)
    (ends : ∀ last, action.run machine = .ok () last → last.marks = machine.marks)
    (fails :
      ∀ fault failed,
        action.run machine = .error fault failed → failed.marks = machine.marks) :
    (since moment (ofAction action machine)).TidiesUp machine.marks where
  atEnd := by
    intro last ended
    rw [ends last ended]
    exact .refl _
  atFault := by
    intro fault failed ended
    refine ⟨[], moment, rfl, ?_⟩
    rw [begins]
    exact fails fault failed ended

/-- A moment before two courses is a moment before the first. -/
theorem since_andThen
    (moment : Course.Moment)
    (course : Course)
    (next : Machine → Course) :
    since moment (course.andThen next) = (since moment course).andThen next := by
  unfold andThen since
  cases course.outcome with
  | ok value after => rfl
  | error fault failed => rfl

/-- The arrival at a target leaves the marks alone. -/
theorem tidiesUp_settled (idle : Bool) (machine : Machine) :
    (settled idle machine).TidiesUp machine.marks := by
  rw [settled, since_andThen]
  refine tidiesUp_andThen (tidiesUp_since_ofAction rfl ?_ ?_) fun served part => ?_
  · intro last ran
    exact staysPut_serveCounters.marks_eq ran
  · intro fault failed ran
    exact staysPut_serveCounters.marks_eq_of_error ran
  · obtain ⟨bus, -, ran⟩ := run_checkInterrupts idle served
    refine tidiesUp_since _ (tidiesUp_ofAction ran ?_)
    have same : (served.checked.withBus bus).marks = served.marks := served.marks_checked
    rw [same]
    exact part

/-- After a transfer has arrived, no delay slot is executed any more. -/
theorem tidiesUp_arriving
    {machine : Machine}
    (nothingHeld : machine.cpu.deferredLoad? = none)
    (target : UInt32)
    (idle : Bool) :
    (arriving target idle machine).TidiesUp .clear := by
  have left : machine.slotLeft.marks = .clear := by
    rw [Machine.marks_slotLeft, nothingHeld]
    rfl
  unfold arriving
  split
  · refine tidiesUp_still ?_
    rw [left]
    exact .refl _
  · have settles := tidiesUp_settled idle (machine.atTarget target)
    have sameMarks : (machine.atTarget target).marks = .clear := left
    rw [sameMarks] at settles
    exact settles

section

variable {nested : Execution → Course}
  (nestedTidies :
    ∀ execution : Execution, (nested execution).TidiesUp execution.machine.marks)

include nestedTidies

/-- A load that is held back is visible again when the transfer has arrived. -/
theorem tidiesUp_holding
    (execution : Execution)
    (register : Reg)
    (target : UInt32) :
    (holding nested execution register target).TidiesUp .clear := by
  refine tidiesUp_andThen (nestedTidies execution.delaySlot) fun slotted part => ?_
  have slotMarks : execution.delaySlot.machine.marks = ⟨true, none⟩ :=
    Machine.marks_inSlot _
  rw [slotMarks] at part
  have nothingHeld : slotted.cpu.deferredLoad? = none := part.deferredLoad?.elim id id
  split
  · refine tidiesUp_still ?_
    rw [Machine.marks_slotLeft, nothingHeld]
    exact .refl _
  · refine tidiesUp_andThen (nestedTidies _) fun last lastPart => ?_
    have unmarked : last.cpu.inDelaySlot = false := lastPart.inDelaySlot.elim id id
    have settles := tidiesUp_settled false last.committed
    rw [Machine.marks_committed, unmarked] at settles
    exact settles

/-- A transfer leaves no marks, however it ends. -/
theorem tidiesUp_transferring (execution : Execution) (target : UInt32) :
    (transferring nested execution target).TidiesUp .clear := by
  have slotMarks : execution.delaySlot.machine.marks = ⟨true, none⟩ :=
    Machine.marks_inSlot _
  have slotFirst :
      ((nested execution.delaySlot).andThen
          (arriving target (execution.linked.loopsTo target))).TidiesUp .clear := by
    refine tidiesUp_andThen (nestedTidies _) fun slotted part => ?_
    rw [slotMarks] at part
    exact tidiesUp_arriving (part.deferredLoad?.elim id id) target _
  unfold transferring
  cases execution.linked.hazard? target with
  | none => exact slotFirst
  | some use =>
      rcases use with ⟨register, use⟩
      cases use with
      | none => exact slotFirst
      | writes => exact slotFirst
      | reads => exact tidiesUp_holding nestedTidies execution register target
      | readsAndWrites =>
          exact tidiesUp_arriving (congrArg Marks.deferredLoad? slotMarks) target _

/-- Steps up to a target leave the marks that were there, or fewer. -/
theorem tidiesUp_stepping
    (target : UInt32)
    (limit : Nat)
    {machine : Machine}
    (part : machine.marks.IsPartOf marks) :
    (stepping nested target limit machine).TidiesUp marks := by
  induction limit generalizing machine with
  | zero => exact tidiesUp_still part
  | succ limit inductionHypothesis =>
      unfold stepping
      split
      · exact tidiesUp_still part
      · exact tidiesUp_andThen (nestedTidies _) fun after afterPart =>
          inductionHypothesis (afterPart.trans part)

/-- A handler leaves the marks that were there, or fewer. -/
theorem tidiesUp_calling
    (function : UInt32)
    {machine : Machine}
    (part : machine.marks.IsPartOf marks) :
    (calling nested function machine).TidiesUp marks :=
  tidiesUp_since _
    (tidiesUp_andThen (tidiesUp_stepping nestedTidies _ _ part) fun _ outcomePart =>
      tidiesUp_still outcomePart)

/-- Deliveries leave the marks that were there, or fewer. -/
theorem tidiesUp_deliveringAmong
    (eventClass specification : UInt32)
    (slots : List Nat)
    {machine : Machine}
    (part : machine.marks.IsPartOf marks) :
    (deliveringAmong nested eventClass specification slots machine).TidiesUp marks := by
  induction slots generalizing machine with
  | nil => exact tidiesUp_still part
  | cons slot rest inductionHypothesis =>
      refine tidiesUp_andThen ?_ fun after => inductionHypothesis
      split
      · next event found =>
          split
          · unfold deliveringTo
            split
            · exact tidiesUp_calling nestedTidies event.handler part
            · next uncalled =>
                obtain ⟨after, ran, same⟩ := run_deliverTo_uncalled uncalled slot machine
                refine tidiesUp_ofAction ran ?_
                rw [same]
                exact part
          · exact tidiesUp_still part
      · exact tidiesUp_still part

/-- Delivering what is pending leaves the marks that were there, or fewer. -/
theorem tidiesUp_deliveringPending
    (pending : Lines)
    (counters : List Nat)
    {machine : Machine}
    (part : machine.marks.IsPartOf marks) :
    (deliveringPending nested pending counters machine).TidiesUp marks := by
  induction counters generalizing machine with
  | nil => exact tidiesUp_still part
  | cons counter rest inductionHypothesis =>
      refine tidiesUp_andThen ?_ fun after => inductionHypothesis
      split
      · exact tidiesUp_deliveringAmong nestedTidies _ _ _ part
      · exact tidiesUp_still part

/-- An execution leaves the marks that were there, or fewer. -/
theorem tidiesUp_executing (execution : Execution) :
    (executing nested execution).TidiesUp execution.machine.marks := by
  unfold executing
  cases transfers : execution.target? with
  | some target =>
      exact tidiesUp_since _
        ((tidiesUp_transferring nestedTidies execution target).weaken (.of_clear _))
  | none =>
      cases serves : execution.guestService? with
      | some service =>
          cases service with
          | interrupt =>
              refine tidiesUp_since _
                (tidiesUp_andThen
                  (tidiesUp_deliveringPending nestedTidies _ _ (.refl _))
                  fun delivered part => ?_)
              refine tidiesUp_since _ (tidiesUp_ofAction (run_goOn _ _) ?_)
              split
              · exact part
              · exact part
          | delivery =>
              exact tidiesUp_since _
                (tidiesUp_deliveringAmong nestedTidies _ _ _ (.refl _))
      | none =>
          have behind := leavesBehind_executeAlone transfers serves
          refine tidiesUp_since_ofAction rfl ?_ ?_
          · intro last ran
            rw [ran] at behind
            exact behind.2
          · intro fault failed ran
            rw [ran] at behind
            exact behind.2.2

end

/-- An execution tidies up its marks, however deeply it nests. -/
theorem tidiesUp_execution (depth : Nat) (outermost : Execution) :
    (execution depth outermost).TidiesUp outermost.machine.marks := by
  induction depth generalizing outermost with
  | zero =>
      -- Where the nesting is too deep, the fault comes before anything is done.
      constructor
      · rintro last ⟨⟩
      · rintro fault failed ⟨⟩
        exact ⟨[], .executed outermost, rfl, rfl⟩
  | succ depth inductionHypothesis => exact tidiesUp_executing inductionHypothesis outermost

/-- A run tidies up its marks. -/
theorem tidiesUp_steps
    (depth count : Nat)
    {machine : Machine}
    (part : machine.marks.IsPartOf marks) :
    (steps depth count machine).TidiesUp marks := by
  induction count generalizing machine with
  | zero => exact tidiesUp_still part
  | succ count inductionHypothesis =>
      exact tidiesUp_andThen (tidiesUp_execution depth machine.execution)
        fun after afterPart =>
        inductionHypothesis (afterPart.trans part)

/--
A run that ends without a fault leaves the marks clear if they were clear before.  A run
that ends with a fault leaves them as they are when the last thing happens, so that they
are clear only if that is not in a delay slot and no load is held back from it.
-/
theorem steps_marks_eq_clear (depth count : Nat) (machine : Machine) :
    (steps nestingLimit count machine).outcome = (Action.steps count).run machine ∧
      (∀ last,
        (steps depth count machine).outcome = .ok () last →
          machine.marks = .clear →
          last.marks = .clear) ∧
      ∀ fault failed,
        (steps depth count machine).outcome = .error fault failed →
          ∃ before moment,
            (steps depth count machine).moments = before ++ [moment] ∧
              failed.marks = moment.machine.marks ∧
              (failed.marks = .clear ↔
                moment.machine.cpu.inDelaySlot = false ∧
                  moment.machine.cpu.deferredLoad? = none) := by
  have tidies := tidiesUp_steps depth count (Marks.IsPartOf.refl machine.marks)
  refine ⟨outcome_steps count machine, ?_, ?_⟩
  · intro last ended start
    have part := tidies.atEnd last ended
    rw [start] at part
    exact part.eq_clear
  · intro fault failed ended
    obtain ⟨before, moment, told, same⟩ := tidies.atFault fault failed ended
    refine ⟨before, moment, told, same, ?_⟩
    rw [same]
    exact Marks.mk.injEq _ _ _ _ ▸ Iff.rfl

end Course

/-- A jump with a store to the sound register that starts voices in its delay slot. -/
def keyOnInSlot : List (UInt32 × UInt32) :=
  [(0x80010000, 0x08004000), (0x80010004, 0xA5090000)]

/-- A machine about to start a voice in a delay slot. -/
def startingVoice : Machine :=
  (Machine.guest keyOnInSlot 0x80010000).withRegisters
    { (Registers.initial.set 8 0x1F801D88).set 9 1 with pc := 0x80010000 }

/-- The same machine with its sound worker stopped. -/
def startingVoiceStopped : Machine :=
  startingVoice.withBus
    { startingVoice.bus with
      link := ⟨startingVoice.bus.link.worker.serve .shutdown, .closed⟩ }

theorem run_finish_startingVoice :
    finish.run startingVoice = .ok () startingVoiceStopped := by
  rfl

namespace Course

/-- The store fails, and the machine stays in the delay slot. -/
theorem startingVoice_staysInSlot :
    startingVoice.marks = .clear ∧
      finish.run startingVoice = .ok () startingVoiceStopped ∧
      ∃ failed,
        (Action.steps 1).run startingVoiceStopped = .error .workerGone failed ∧
          failed.marks = ⟨true, none⟩ := by
  let jump : Execution := ⟨.jump 0x4000, startingVoiceStopped.fetched⟩
  have jumps : startingVoiceStopped.execution = jump :=
    (show startingVoiceStopped.Holds keyOnInSlot from rfl).execution_eq 0x80010000
      0x08004000 (by decide) rfl (by decide) (by decide) (by decide)
  have slot : jump.delaySlot = ⟨.store .half 9 8 0, startingVoiceStopped.fetched.inSlot⟩ :=
    (show jump.machine.Holds keyOnInSlot from rfl).delaySlot_eq 0x80010004 0xA5090000
      (by decide) rfl (by decide) (by decide) (by decide)
  obtain ⟨failed, ran, marked⟩ :
      ∃ failed,
        (executeAlone (.store .half 9 8 0)).run startingVoiceStopped.fetched.inSlot =
            .error .workerGone failed ∧
          failed.marks = ⟨true, none⟩ :=
    ⟨_, rfl, rfl⟩
  have limit : nestingLimit = 0xFFFFE + 2 := by decide
  have transfers : jump.target? = some 0x80010000 := by decide
  have failing :
      execution nestingLimit startingVoiceStopped.execution =
        ⟨[.executed jump, .executed jump.delaySlot], .error .workerGone failed⟩ := by
    rw [limit, jumps]
    exact
      execution_of_failingSlot _ transfers (by rw [slot]; rfl) (by rw [slot]; rfl)
        (by rw [slot]; rfl) (by rw [slot]; exact ran)
  refine ⟨rfl, run_finish_startingVoice, failed, ?_, marked⟩
  rw [← outcome_steps, steps, andThen_of_error (congrArg Course.outcome failing)]

end Course

end PsxPlayer
