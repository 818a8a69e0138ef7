import PsxPlayer.Proofs.Counter.Invariant

namespace PsxPlayer

/-!
# Which counters an update fires

An update compares the time since a counter was armed with its deadline, whatever the
deadline is.  So it fires the active counters that are due and no others, with one
exception: the deadline of an inactive counter is the last value that the time can have,
and an update that meets just this value fires the counter all the same.
-/

/-- The pacer produces whatever it is asked for now. -/
def SamplePacer.Works
    {ρ : Type} [SamplePacer ρ]
    (pacer : ρ) :
    Prop :=
  ∀ periods, ∃ after, (synthesize periods).run pacer = .ok () after

theorem Lines.ofCounter_min (index : Nat) : ofCounter (min index 3) = ofCounter index := by
  by_cases small : index ≤ 3
  · rw [Nat.min_eq_left small]
  · obtain ⟨index, rfl⟩ := Nat.exists_eq_add_of_le' (Nat.le_of_not_le small)
    rw [Nat.min_eq_right (Nat.le_add_left _ _)]
    rfl

namespace InterruptController

/-- A request raises no line apart from its own. -/
theorem contains_raised_request_of_apart
    {lines part : Lines}
    (controller : InterruptController)
    (apart : lines.bits &&& part.bits = 0) :
    (controller.request lines).raised.contains part = controller.raised.contains part := by
  have split :
      (controller.status ||| lines.bits) &&& part.bits =
        controller.status &&& part.bits ||| lines.bits &&& part.bits :=
    UInt16.toBitVec_inj.mp BitVec.and_or_distrib_right
  simp only [Lines.contains, raised, request]
  rw [split, apart, UInt16.or_zero]

theorem contains_raised_request_ofCounter
    (controller : InterruptController)
    {index other : Nat}
    (differs : min other 3 ≠ min index 3) :
    (controller.request (.ofCounter other)).raised.contains (.ofCounter index) =
      controller.raised.contains (.ofCounter index) := by
  have apart :
      ∀ first < 4, ∀ second < 4,
        first ≠ second → (Lines.ofCounter first).bits &&& (Lines.ofCounter second).bits = 0 := by
    decide
  apply contains_raised_request_of_apart
  rw [← Lines.ofCounter_min other, ← Lines.ofCounter_min index]
  exact apart _ (by omega) _ (by omega) differs

end InterruptController

namespace Counter

variable {index : Nat} {counter : Counter}

/-- Counter `index` after it has fired; the frame pacer is only armed anew. -/
def fired
    (counter : Counter)
    (index : Nat)
    (now : UInt32) :
    Counter :=
  if index < 3 then counter.restart index now else counter.rearm index now

/-- The time since an inactive counter was armed reaches its deadline at its last value. -/
theorem isDue_iff (now : UInt32) :
    counter.isDue now = true ↔
      counter.deadline ≠ never ∧ counter.deadline ≤ counter.elapsed now ∨
        counter.deadline = never ∧ counter.elapsed now = never := by
  simp only [isDue, ge_iff_le, decide_eq_true_eq]
  by_cases inactive : counter.deadline = never
  · have last : never ≤ counter.elapsed now ↔ counter.elapsed now = never := by
      have limit := (counter.elapsed now).toNat_lt
      rw [UInt32.le_iff_toNat_le, ← UInt32.toNat_inj]
      simp only [never, UInt32.reduceToNat]
      omega
    simp [inactive, last]
  · simp [inactive]

/-- Only a write makes a counter active again. -/
theorem IsProgrammed.deadline_fired
    (programmed : counter.IsProgrammed index)
    (inactive : counter.deadline = never)
    (now : UInt32) :
    (counter.fired index now).deadline = never := by
  unfold fired
  rcases programmed.of_inactive inactive with disabled | ⟨hardware, oneShot⟩
  · split
    · have rearmed : ({ counter with count := 0 }.rearm index now).deadline = never :=
        (deadline_rearm_eq_never_iff now).mpr disabled
      unfold Counter.restart
      simp only
      split
      · exact rearmed
      · rfl
    · exact (deadline_rearm_eq_never_iff now).mpr disabled
  · have once : ({ counter with count := 0 }.rearm index now).has irqRepeat = false := oneShot
    rw [if_pos hardware, Counter.restart]
    simp [once]

end Counter

namespace CounterBank

/-! ## One counter of a bank at work -/

/-- What shows of one counter: its state, the clock and whether its line is raised. -/
structure CounterView where
  counter : Counter
  now : UInt32
  isRaised : Bool

/-- What shows of counter `index`. -/
def viewOf
    (index : Nat)
    (state : CounterBank × InterruptController) :
    CounterView where
  counter := state.1.get index
  now := state.1.cycle
  isRaised := state.2.raised.contains (.ofCounter index)

namespace CounterView

/-- The view of a counter that fires. -/
def fire
    (view : CounterView)
    (index : Nat) :
    CounterView :=
  { view with counter := view.counter.fired index view.now, isRaised := true }

/-- Whether the counter in view is due. -/
def isDue (view : CounterView) : Bool :=
  view.counter.isDue view.now

end CounterView

section

variable {index : Nat} {state : CounterBank × InterruptController}
variable {bank : CounterBank} {interrupts : InterruptController}

theorem viewOf_fireIfDue_self
    (programmed : state.1.IsProgrammed)
    (hardware : index < 3) :
    viewOf index (fireIfDue state index) =
      if (viewOf index state).isDue then (viewOf index state).fire index
      else viewOf index state := by
  rcases state with ⟨bank, interrupts⟩
  have line := (programmed index).line
  have sameCycle (counter : Counter) : (bank.set index counter).cycle = bank.cycle :=
    cycle_of_beyond (beyond_set _ _ _)
  by_cases due : (bank.get index).isDue bank.cycle = true
  · rw [if_pos (show (viewOf index (bank, interrupts)).isDue = true from due), fireIfDue]
    simp only [if_pos due, viewOf, CounterView.fire, Counter.fired, if_pos hardware, line,
      get_set, ↓reduceIte, sameCycle, InterruptController.contains_raised_request]
  · rw [if_neg (show ¬(viewOf index (bank, interrupts)).isDue = true from due), fireIfDue]
    simp only [if_neg due]

/-- Firing another counter does not show. -/
theorem viewOf_fireIfDue_of_ne
    (programmed : state.1.IsProgrammed)
    {other : Nat}
    (differs : min other 3 ≠ min index 3) :
    viewOf index (fireIfDue state other) = viewOf index state := by
  rcases state with ⟨bank, interrupts⟩
  have line := (programmed other).line
  have sameCycle (counter : Counter) : (bank.set other counter).cycle = bank.cycle :=
    cycle_of_beyond (beyond_set _ _ _)
  simp only [fireIfDue, viewOf]
  split
  · rw [line, get_set, if_neg differs, sameCycle,
      InterruptController.contains_raised_request_ofCounter _ differs]
  · rfl

/-- Firing counters in turn shows of each of them when its own turn comes. -/
theorem viewOf_foldl_fireIfDue
    (index : Nat)
    {indices : List Nat}
    (programmed : state.1.IsProgrammed)
    (hardware : ∀ other ∈ indices, other < 3)
    (distinct : indices.Nodup) :
    viewOf index (indices.foldl fireIfDue state) =
      if index ∈ indices ∧ (viewOf index state).isDue = true then
        (viewOf index state).fire index
      else
        viewOf index state := by
  induction indices generalizing state with
  | nil => simp
  | cons first rest inductionHypothesis =>
      obtain ⟨fresh, restDistinct⟩ := List.nodup_cons.mp distinct
      have firstHardware := hardware first (.head _)
      have served :=
        inductionHypothesis (programmed.fireIfDue firstHardware)
          (fun other member => hardware other (.tail _ member)) restDistinct
      rw [List.foldl_cons, served]
      by_cases same : index = first
      · subst same
        rw [if_neg (fun both => fresh both.1), viewOf_fireIfDue_self programmed firstHardware]
        simp
      · have differs : min first 3 ≠ min index 3 := by omega
        rw [viewOf_fireIfDue_of_ne programmed differs]
        simp [same]

theorem viewOf_fireCounters (programmed : bank.IsProgrammed) :
    viewOf index (bank.fireCounters interrupts) =
      if index < 3 ∧ (viewOf index (bank, interrupts)).isDue = true then
        (viewOf index (bank, interrupts)).fire index
      else
        viewOf index (bank, interrupts) := by
  have hardware : ∀ other ∈ [0, 1, 2], other < 3 := by decide
  have start : (bank, interrupts).1.IsProgrammed := programmed
  have served := viewOf_foldl_fireIfDue index start hardware (by decide)
  have member : index ∈ [0, 1, 2] ↔ index < 3 := List.mem_range (n := 3)
  have scheduled (state : CounterBank × InterruptController) :
      viewOf index (state.1.schedule, state.2) = viewOf index state := by
    have sameCounters : state.1.schedule.counters = state.1.counters := rfl
    simp only [viewOf, get_of_counters sameCounters]
    rfl
  simp only [member] at served
  unfold fireCounters
  generalize [0, 1, 2].foldl fireIfDue (bank, interrupts) = state at served ⊢
  exact (scheduled state).trans served

/-- An update whose frame pacer is due shows it fired before the hardware counters are. -/
theorem viewOf_framed :
    viewOf index (bank.framed, interrupts.request .vblank) =
      if index < 3 then viewOf index (bank, interrupts)
      else (viewOf index (bank, interrupts)).fire index := by
  split
  · next hardware =>
      have differs : min 3 3 ≠ min index 3 := by omega
      have raised := interrupts.contains_raised_request_ofCounter differs
      simp only [viewOf, get_framed _ hardware, cycle_framed]
      exact congrArg (CounterView.mk _ _) raised
  · next beyond =>
      obtain ⟨index, rfl⟩ := Nat.exists_eq_add_of_le' (Nat.le_of_not_lt beyond)
      have raised := interrupts.contains_raised_request .vblank
      simp only [viewOf, CounterView.fire, Counter.fired, if_neg beyond, cycle_framed]
      exact congrArg (CounterView.mk _ _) raised

variable {ρ : Type} [SamplePacer ρ] {pacer after : ρ}

/-- An update at which the pacer does not fail fires the counters that are due. -/
theorem viewOf_update
    (index : Nat)
    (programmed : bank.IsProgrammed)
    (succeeds : (bank.update interrupts pacer).pacer = .ok () after) :
    let served := bank.update interrupts pacer
    let view := viewOf index (bank, interrupts)
    viewOf index (served.bank, served.interrupts) =
      if (bank.get index).isDue bank.cycle then view.fire index else view := by
  by_cases due : bank.frame.isDue bank.cycle = true
  · rw [bank.update_of_due interrupts due] at succeeds ⊢
    generalize ((bank.rearm 3).runAudio pacer).2 = answer at succeeds ⊢
    cases answer with
    | error fault after => cases succeeds
    | ok value after =>
        simp only
        rw [viewOf_fireCounters programmed.framed, viewOf_framed]
        by_cases hardware : index < 3
        · simp only [hardware, ↓reduceIte, true_and]
          rfl
        · rw [if_neg (fun both => hardware both.1), if_neg hardware,
            bank.get_of_not_hardware hardware, if_pos due]
  · rw [bank.update_of_not_due interrupts due]
    simp only
    rw [viewOf_fireCounters programmed]
    by_cases hardware : index < 3
    · simp only [hardware, true_and]
      rfl
    · rw [if_neg (fun both => hardware both.1), bank.get_of_not_hardware hardware, if_neg due]

/-- Only an update whose frame pacer is due asks for audio. -/
theorem frame_isDue_of_error
    {fault : Fault}
    (fails : (bank.update interrupts pacer).pacer = .error fault after) :
    bank.frame.isDue bank.cycle = true := by
  by_cases due : bank.frame.isDue bank.cycle = true
  · exact due
  · rw [bank.update_of_not_due interrupts due] at fails
    cases fails

/-- An update at which the pacer fails fires the frame pacer alone. -/
theorem viewOf_update_of_error
    (index : Nat)
    {fault : Fault}
    (fails : (bank.update interrupts pacer).pacer = .error fault after) :
    let served := bank.update interrupts pacer
    let view := viewOf index (bank, interrupts)
    viewOf index (served.bank, served.interrupts) =
      if index < 3 then view else view.fire index := by
  rw [update_of_error fails]
  exact viewOf_framed

end

/-! ## Updates of a run -/

/-- Whether a command writes a register of counter `index`; a reset writes all registers. -/
def Command.Programs (index : Nat) : Command → Prop
  | .reset => True
  | .writeCount other _ | .writeMode other _ | .writeTarget other _ =>
      min other 3 = min index 3
  | _ => False

variable {ρ : Type} [SamplePacer ρ]

theorem update_of_works
    (bank : CounterBank)
    (interrupts : InterruptController)
    {pacer : ρ}
    (works : SamplePacer.Works pacer) :
    ∃ after, (bank.update interrupts pacer).pacer = .ok () after := by
  by_cases due : bank.frame.isDue bank.cycle = true
  · have answered : ∃ after, ((bank.rearm 3).runAudio pacer).2 = .ok () after := by
      unfold runAudio
      split
      · exact ⟨pacer, rfl⟩
      · exact works _
    obtain ⟨after, produced⟩ := answered
    rw [bank.update_of_due interrupts due, produced]
    exact ⟨after, rfl⟩
  · rw [bank.update_of_not_due interrupts due]
    exact ⟨pacer, rfl⟩

/-- An update whose pacer works raises the line of a counter just if the counter is due. -/
theorem raised_update_iff
    {bank : CounterBank}
    (programmed : bank.IsProgrammed)
    (interrupts : InterruptController)
    {pacer : ρ}
    (works : SamplePacer.Works pacer)
    (index : Nat) :
    let counter := bank.get index
    let served := bank.update interrupts pacer
    (served.interrupts.raised.contains (.ofCounter index) = true ↔
        interrupts.raised.contains (.ofCounter index) = true ∨
          counter.isDue bank.cycle = true) ∧
      (¬counter.isDue bank.cycle = true → served.bank.get index = counter) := by
  obtain ⟨after, succeeds⟩ := bank.update_of_works interrupts works
  have shown := viewOf_update index programmed succeeds
  by_cases due : (bank.get index).isDue bank.cycle = true
  · have raised :
        (bank.update interrupts pacer).interrupts.raised.contains (.ofCounter index) = true :=
      congrArg CounterView.isRaised (shown.trans (if_pos due))
    exact ⟨⟨fun _ => .inr due, fun _ => raised⟩, fun notDue => absurd due notDue⟩
  · have same := shown.trans (if_neg due)
    have sameLine :
        (bank.update interrupts pacer).interrupts.raised.contains (.ofCounter index) =
          interrupts.raised.contains (.ofCounter index) :=
      congrArg CounterView.isRaised same
    refine ⟨?_, fun _ => congrArg CounterView.counter same⟩
    rw [sameLine]
    simp [due]

namespace Course

/-- Whether an update fires counter `index`; only the frame pacer is fired by one that fails. -/
def Fires
    (course : Course ρ)
    (index : Nat) :
    Prop :=
  (course.bank.get index).isDue course.bank.cycle = true ∧
    (index < 3 → ¬course.UpdateFails)

variable {course : Course ρ} {index : Nat} {command : Command}

theorem get_obey_update
    (index : Nat)
    (programmed : course.bank.IsProgrammed) :
    let counter := course.bank.get index
    (course.Fires index ∧
        (course.obey .update).bank.get index = counter.fired index course.bank.cycle) ∨
      ¬course.Fires index ∧ (course.obey .update).bank.get index = counter := by
  rw [course.obey_update.1]
  cases answered : (course.bank.update course.interrupts course.pacer).pacer with
  | ok value after =>
      have succeeds : ¬course.UpdateFails := by
        rintro ⟨fault, last, failed⟩
        rw [answered] at failed
        cases failed
      have shown := viewOf_update index programmed answered
      by_cases due : (course.bank.get index).isDue course.bank.cycle = true
      · exact .inl ⟨⟨due, fun _ => succeeds⟩,
          congrArg CounterView.counter (shown.trans (if_pos due))⟩
      · exact .inr ⟨fun fires => due fires.1,
          congrArg CounterView.counter (shown.trans (if_neg due))⟩
  | error fault after =>
      have fails : course.UpdateFails := ⟨fault, after, answered⟩
      have shown := viewOf_update_of_error index answered
      by_cases hardware : index < 3
      · exact .inr ⟨fun fires => fires.2 hardware fails,
          congrArg CounterView.counter (shown.trans (if_pos hardware))⟩
      · have due : (course.bank.get index).isDue course.bank.cycle = true := by
          rw [get_of_not_hardware _ hardware]
          exact frame_isDue_of_error answered
        exact .inl ⟨⟨due, fun isHardware => absurd isHardware hardware⟩,
          congrArg CounterView.counter (shown.trans (if_neg hardware))⟩

/-- What a command that does not program a counter may do to it: fire it, or nothing. -/
theorem get_obey
    (programmed : course.bank.IsProgrammed)
    (spares : ¬command.Programs index) :
    let counter := course.bank.get index
    (command = .update ∧ course.Fires index ∧
        (course.obey command).bank.get index = counter.fired index course.bank.cycle) ∨
      ¬(command = .update ∧ course.Fires index) ∧
        (course.obey command).bank.get index = counter := by
  cases command with
  | reset => exact absurd trivial spares
  | writeCount other value | writeMode other value | writeTarget other value =>
      refine .inr ⟨nofun, ?_⟩
      exact (get_rewrite _ _ _ _).trans (if_neg spares)
  | advance cycles => exact .inr ⟨nofun, get_of_counters rfl index⟩
  | schedule => exact .inr ⟨nofun, get_of_counters rfl index⟩
  | runAudio =>
      refine .inr ⟨nofun, ?_⟩
      rw [course.obey_runAudio.1]
      exact get_claimPeriods _ _
  | skipToDeadline =>
      refine .inr ⟨nofun, ?_⟩
      change course.bank.skipToDeadline.get index = _
      unfold CounterBank.skipToDeadline
      split
      · rfl
      · exact get_of_counters rfl index
  | update =>
      rcases get_obey_update index programmed with ⟨fires, fired⟩ | ⟨idle, same⟩
      · exact .inl ⟨rfl, fires, fired⟩
      · exact .inr ⟨fun fires => idle fires.2, same⟩

/-- A counter that is inactive stays so until it is written. -/
theorem deadline_obeyAll_of_inactive
    {commands : List Command}
    (programmed : course.bank.IsProgrammed)
    (spares : ∀ command ∈ commands, ¬command.Programs index)
    (inactive : (course.bank.get index).deadline = never) :
    ((course.obeyAll commands).bank.get index).deadline = never := by
  induction commands generalizing course with
  | nil => exact inactive
  | cons command rest inductionHypothesis =>
      have restSpares : ∀ command ∈ rest, ¬command.Programs index :=
        fun other member => spares other (.tail _ member)
      refine inductionHypothesis (isProgrammed_obey programmed command) restSpares ?_
      rcases get_obey programmed (spares command (.head _)) with ⟨-, -, fired⟩ | ⟨-, same⟩
      · rw [fired]
        exact (programmed index).deadline_fired inactive _
      · rw [same]
        exact inactive

/--
In every state that a run reaches, an update whose pacer works raises the line of a
counter if the counter is active and its deadline has passed; it leaves alone the
counters that it does not fire.  A counter that is inactive stays so until it is
written, but it too is fired, by an update that comes 2 ^ 32 - 1 cycles after the
counter was armed.
-/
theorem update_fires_iff
    (vsyncRate : Nat)
    (interrupts controller : InterruptController)
    (pacer : ρ)
    (commands later : List Command)
    (index : Fin 4) :
    let course := (start vsyncRate interrupts pacer).obeyAll commands
    let counter := course.bank.get index
    let line := Lines.ofCounter index
    (SamplePacer.Works course.pacer →
        let served := course.bank.update controller course.pacer
        let fires :=
          counter.deadline ≠ never ∧ counter.deadline ≤ counter.elapsed course.bank.cycle ∨
            counter.deadline = never ∧ counter.elapsed course.bank.cycle = 0xFFFFFFFF
        (∃ after, served.pacer = .ok () after) ∧
          (served.interrupts.raised.contains line = true ↔
            controller.raised.contains line = true ∨ fires) ∧
          (¬fires → served.bank.get index = counter)) ∧
      (counter.deadline = never →
        (∀ command ∈ later, ¬command.Programs index) →
        let after := course.obeyAll later
        let found := after.bank.get index
        found.deadline = never ∧
          (SamplePacer.Works after.pacer →
            let served := after.bank.update controller after.pacer
            (served.interrupts.raised.contains line = true ↔
              controller.raised.contains line = true ∨
                found.elapsed after.bank.cycle = 0xFFFFFFFF))) := by
  have programmed := isProgrammed_start vsyncRate interrupts pacer commands
  generalize (start vsyncRate interrupts pacer).obeyAll commands = course at programmed ⊢
  refine ⟨?_, ?_⟩
  · intro works
    have raised := raised_update_iff programmed controller works index
    simp only [Counter.isDue_iff] at raised
    exact ⟨course.bank.update_of_works controller works, raised⟩
  · intro inactive spares after found
    have laterProgrammed : after.bank.IsProgrammed := isProgrammed_obeyAll programmed later
    have stays : found.deadline = never :=
      deadline_obeyAll_of_inactive programmed spares inactive
    refine ⟨stays, fun works => ?_⟩
    have raised := (raised_update_iff laterProgrammed controller works index).1
    rw [Counter.isDue_iff] at raised
    change _ ↔ _ ∨ found.elapsed after.bank.cycle = never
    simpa [show (after.bank.get index).deadline = never from stays] using raised

/-- A run in which counter 1 was to fire once and has done so. -/
def firedOnce : List Command :=
  [.writeTarget 1 20, .writeMode 1 Counter.irqOnTarget, .advance 10, .update]

/-- A counter that has fired for the last time does not fire a hundred cycles later. -/
theorem update_fires_iff_afterLastFiring :
    let course := (start 60 .initial (⟨0⟩ : Faltering)).obeyAll firedOnce
    let after := course.obeyAll [.advance 100]
    course.interrupts.raised.contains .timer1 = true ∧
      ¬(after.bank.update .initial after.pacer).interrupts.raised.contains .timer1 = true := by
  have works : SamplePacer.Works (⟨0⟩ : Faltering) := fun _ => ⟨⟨0⟩, rfl⟩
  have spares : ∀ command ∈ ([.advance 100] : List Command), ¬command.Programs 1 := by
    simp [Command.Programs]
  obtain ⟨-, inactive⟩ :=
    update_fires_iff 60 .initial .initial (⟨0⟩ : Faltering) firedOnce [.advance 100] 1
  have raised := (inactive (by decide) spares).2 works
  exact ⟨by decide, fun again => absurd (raised.mp again) (by decide)⟩

/-- Counter 0 has never been armed, and an update fires it. -/
theorem update_fires_neverArmed :
    let course := (start 60 .initial (⟨0⟩ : Faltering)).obeyAll [.advance 0xFFFFFFFF]
    (course.bank.get 0).deadline = never ∧
      (course.bank.update .initial course.pacer).interrupts.raised.contains .timer0 = true := by
  decide

end Course

end CounterBank

end PsxPlayer
