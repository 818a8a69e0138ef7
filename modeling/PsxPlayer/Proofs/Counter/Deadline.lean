import Mathlib.Algebra.Group.Nat.Defs
import PsxPlayer.Counter

namespace PsxPlayer

/-!
# Deadlines of the counters

The bank keeps a single distance for its four counters: that from the clock at which
the distance was recorded to the nearest deadline.  The counters are armed one by one
and the clock wraps, but as long as it has not come round since then, the recorded
distance tells of every deadline that has passed, and a jump of the clock ends at the
first of them.
-/

namespace Counter

/-- Whether the counter will fire at its deadline. -/
def isArmed (counter : Counter) : Bool :=
  counter.deadline != never

/-- Cycles left until the deadline, none once it has passed. -/
def remaining
    (counter : Counter)
    (now : UInt32) :
    Nat :=
  counter.deadline.toNat - (counter.elapsed now).toNat

/-- Time that passes is added to the time since the counter was armed. -/
theorem toNat_elapsed_add
    (counter : Counter)
    (now : UInt32)
    (moved : Nat) :
    (counter.elapsed (now + UInt32.ofNat moved)).toNat =
      ((counter.elapsed now).toNat + moved) % 2 ^ 32 := by
  have start := counter.startCycle.toNat_lt
  simp only [elapsed, UInt32.toNat_sub, UInt32.toNat_add, UInt32.toNat_ofNat']
  omega

/-- As long as the clock has not come round, a deadline passes no earlier than it should. -/
theorem remaining_le_of_isDue
    {counter : Counter}
    {now : UInt32}
    {moved : Nat}
    (short : moved < 2 ^ 32)
    (due : counter.isDue (now + UInt32.ofNat moved) = true) :
    counter.remaining now ≤ moved := by
  have total := counter.toNat_elapsed_add now moved
  have before := (counter.elapsed now).toNat_lt
  simp only [isDue, ge_iff_le, decide_eq_true_eq, UInt32.le_iff_toNat_le, total] at due
  unfold remaining
  omega

/-- Within what is left of a deadline, the time since the counter was armed does not wrap. -/
theorem toNat_elapsed_add_of_lt
    {counter : Counter}
    {now : UInt32}
    {moved : Nat}
    (left : 0 < counter.remaining now)
    (early : moved ≤ counter.remaining now) :
    (counter.elapsed (now + UInt32.ofNat moved)).toNat =
      (counter.elapsed now).toNat + moved := by
  have bound := counter.deadline.toNat_lt
  rw [toNat_elapsed_add, Nat.mod_eq_of_lt]
  unfold remaining at left early
  omega

end Counter

namespace CounterBank

/-- The counters that will fire, in order. -/
def armed (bank : CounterBank) : List Counter :=
  bank.counters.filter Counter.isArmed

theorem mem_armed
    {bank : CounterBank}
    {counter : Counter} :
    counter ∈ bank.armed ↔ counter ∈ bank.counters ∧ counter.deadline ≠ never := by
  simp [armed, Counter.isArmed]

/-- The distance recorded for a counter whose deadline has not passed. -/
theorem toNat_deadline_sub_elapsed
    {counter : Counter}
    {now : UInt32}
    (ahead : ¬counter.deadline < counter.elapsed now) :
    (counter.deadline - counter.elapsed now).toNat = counter.remaining now := by
  rw [UInt32.not_lt] at ahead
  exact UInt32.toNat_sub_of_le _ _ ahead

/-- The nearest distance found so far only shrinks. -/
theorem nearest_le
    (now found : UInt32)
    (counters : List Counter) :
    nearest now found counters ≤ found := by
  induction counters generalizing found with
  | nil => exact UInt32.le_refl found
  | cons counter rest inductionHypothesis =>
      simp only [nearest]
      split
      · exact inductionHypothesis found
      · split
        · exact UInt32.zero_le
        · exact UInt32.le_trans (inductionHypothesis _) (Std.min_le_left)

/-- The nearest deadline is no farther than that of any counter. -/
theorem nearest_le_remaining
    (now found : UInt32)
    {counters : List Counter}
    {counter : Counter}
    (member : counter ∈ counters)
    (armed : counter.deadline ≠ never) :
    (nearest now found counters).toNat ≤ counter.remaining now := by
  induction counters generalizing found with
  | nil => cases member
  | cons first rest inductionHypothesis =>
      rcases List.mem_cons.mp member with isFirst | inRest
      · subst isFirst
        simp only [nearest, armed, ↓reduceIte]
        split
        · exact Nat.zero_le _
        · next ahead =>
            rw [← toNat_deadline_sub_elapsed ahead]
            exact UInt32.le_iff_toNat_le.mp
              (UInt32.le_trans (nearest_le _ _ rest) Std.min_le_right)
      · simp only [nearest]
        split
        · exact inductionHypothesis found inRest
        · split
          · exact Nat.zero_le _
          · exact inductionHypothesis _ inRest

/-- The nearest distance is the bound or that of some counter. -/
theorem nearest_attained
    (now found : UInt32)
    (counters : List Counter) :
    nearest now found counters = found ∨
      ∃ counter,
        counter ∈ counters ∧
          counter.deadline ≠ never ∧
          (nearest now found counters).toNat = counter.remaining now := by
  induction counters generalizing found with
  | nil => exact .inl rfl
  | cons first rest inductionHypothesis =>
      simp only [nearest]
      split
      · rcases inductionHypothesis found with bound | ⟨counter, member, armed, reached⟩
        · exact .inl bound
        · exact .inr ⟨counter, .tail _ member, armed, reached⟩
      · next armed =>
          split
          · next passed =>
              refine .inr ⟨first, .head _, armed, ?_⟩
              rw [UInt32.lt_iff_toNat_lt] at passed
              exact (Nat.sub_eq_zero_of_le (Nat.le_of_lt passed)).symm
          · next ahead =>
              rcases inductionHypothesis (min found (first.deadline - first.elapsed now))
                with smallest | ⟨counter, member, armed, reached⟩
              · rw [smallest]
                rcases Std.MinEqOr.min_eq_or found (first.deadline - first.elapsed now)
                  with bound | own
                · exact .inl bound
                · refine .inr ⟨first, .head _, armed, ?_⟩
                  rw [own, toNat_deadline_sub_elapsed ahead]
              · exact .inr ⟨counter, .tail _ member, armed, reached⟩

/-- The recorded distance is that of the bank at its own clock. -/
structure IsRecorded (bank : CounterBank) : Prop where
  nearest : bank.nextDeadline = nearest bank.cycle 0x7FFFFFFF bank.counters
  base : bank.deadlineBase = bank.cycle

theorem isRecorded_schedule (bank : CounterBank) : bank.schedule.IsRecorded :=
  ⟨rfl, rfl⟩

namespace IsRecorded

variable {bank : CounterBank}

theorem nextDeadline_lt (recorded : bank.IsRecorded) :
    bank.nextDeadline.toNat < 2 ^ 31 := by
  have bound := nearest_le bank.cycle 0x7FFFFFFF bank.counters
  rw [← recorded.nearest, UInt32.le_iff_toNat_le] at bound
  exact Nat.lt_of_le_of_lt bound (by decide)

theorem nextDeadline_le
    (recorded : bank.IsRecorded)
    {counter : Counter}
    (member : counter ∈ bank.armed) :
    bank.nextDeadline.toNat ≤ counter.remaining bank.cycle := by
  obtain ⟨inBank, armed⟩ := mem_armed.mp member
  rw [recorded.nearest]
  exact nearest_le_remaining _ _ inBank armed

/-- A recorded distance below the bound is that of an armed counter. -/
theorem nextDeadline_attained (recorded : bank.IsRecorded) :
    bank.nextDeadline = 0x7FFFFFFF ∨
      ∃ counter,
        counter ∈ bank.armed ∧
          bank.nextDeadline.toNat = counter.remaining bank.cycle := by
  rw [recorded.nearest]
  rcases nearest_attained bank.cycle 0x7FFFFFFF bank.counters
    with bound | ⟨counter, member, armed, reached⟩
  · exact .inl bound
  · exact .inr ⟨counter, mem_armed.mpr ⟨member, armed⟩, reached⟩

end IsRecorded

/-- The frame pacer's deadline is the one that arming it gives. -/
def IsPaced (bank : CounterBank) : Prop :=
  (bank.frame.rearm 3 0).deadline = bank.frame.deadline

/-- Arming a counter twice gives the same deadline. -/
theorem deadline_rearm_rearm
    (counter : Counter)
    (index : Nat)
    (now : UInt32) :
    ((counter.rearm (index + 3) now).rearm 3 0).deadline =
      (counter.rearm (index + 3) now).deadline :=
  rfl

/-- Writing a counter and arming it keeps the frame pacer paced. -/
theorem IsPaced.rewrite
    {bank : CounterBank}
    (paced : bank.IsPaced)
    (index : Nat)
    (counter : Counter) :
    ((bank.set index counter).rearm index).schedule.IsPaced := by
  match index with
  | 0 => exact paced
  | 1 => exact paced
  | 2 => exact paced
  | index + 3 => exact deadline_rearm_rearm counter index bank.cycle

theorem isPaced_initial (vsyncRate : Nat) : (initial vsyncRate).IsPaced :=
  rfl

/-- A frame pacer that never fires is left as it is among the armed counters. -/
theorem IsPaced.armed_rearm
    {bank : CounterBank}
    (paced : bank.IsPaced)
    (idle : bank.frame.deadline = never) :
    (bank.rearm 3).armed = bank.armed := by
  have rearmed : (bank.frame.rearm 3 bank.cycle).deadline = never := Eq.trans paced idle
  have split (frame : Counter) (off : frame.deadline = never) :
      [bank.counter0, bank.counter1, bank.counter2, frame].filter Counter.isArmed =
        [bank.counter0, bank.counter1, bank.counter2].filter Counter.isArmed := by
    have none : [frame].filter Counter.isArmed = [] := by simp [Counter.isArmed, off]
    rw [show [bank.counter0, bank.counter1, bank.counter2, frame] =
        [bank.counter0, bank.counter1, bank.counter2] ++ [frame] from rfl,
      List.filter_append, none, List.append_nil]
  exact (split _ rearmed).trans (split _ idle).symm

/-- Firing a hardware counter leaves the frame pacer alone. -/
theorem frame_fireIfDue
    (state : CounterBank × InterruptController)
    {index : Nat}
    (hardware : index < 3) :
    (fireIfDue state index).1.frame = state.1.frame := by
  have kept (counter : Counter) : (state.1.set index counter).frame = state.1.frame := by
    match index, hardware with
    | 0, _ => rfl
    | 1, _ => rfl
    | 2, _ => rfl
  unfold fireIfDue
  simp only
  split
  · exact kept _
  · rfl

theorem IsPaced.fireCounters
    {bank : CounterBank}
    (paced : bank.IsPaced)
    (interrupts : InterruptController) :
    (bank.fireCounters interrupts).1.IsPaced := by
  have fired :
      ([0, 1, 2].foldl fireIfDue (bank, interrupts)).1.frame = bank.frame := by
    simp only [List.foldl_cons, List.foldl_nil]
    rw [frame_fireIfDue _ (by decide), frame_fireIfDue _ (by decide),
      frame_fireIfDue _ (by decide)]
  unfold CounterBank.fireCounters
  generalize [0, 1, 2].foldl fireIfDue (bank, interrupts) = after at fired ⊢
  change (after.1.frame.rearm 3 0).deadline = after.1.frame.deadline
  rw [fired]
  exact paced

/-- What the bank is asked to do. -/
inductive Command where
  | reset
  | writeCount (index : Nat) (value : UInt32)
  | writeMode (index : Nat) (value : UInt32)
  | writeTarget (index : Nat) (value : UInt32)
  | advance (cycles : UInt32)
  | schedule
  | runAudio
  | skipToDeadline
  | update

/--
A run of the bank with its interrupts and its pacer.  It remembers the bank at the
time when the nearest deadline was last recorded.
-/
structure Course (ρ : Type) where
  bank : CounterBank
  interrupts : InterruptController
  pacer : ρ
  recorded : CounterBank
  /-- Cycles by which the clock has been advanced since then. -/
  advanced : Nat
  /-- Whether the pacer has failed in an update since then. -/
  hasFailed : Bool

namespace Course

variable {ρ : Type}

/-- The run after a change of the bank that records the nearest deadline. -/
def record
    (course : Course ρ)
    (bank : CounterBank) :
    Course ρ :=
  { course with
    bank := bank
    recorded := bank
    advanced := 0
    hasFailed := false }

/-- The run at power-on. -/
def start
    (vsyncRate : Nat)
    (interrupts : InterruptController)
    (pacer : ρ) :
    Course ρ where
  bank := initial vsyncRate
  interrupts := interrupts
  pacer := pacer
  recorded := initial vsyncRate
  advanced := 0
  hasFailed := false

section

variable [SamplePacer ρ]

/-- Carry out a command.  An update whose pacer fails records no deadline. -/
def obey (course : Course ρ) : Command → Course ρ
  | .reset => course.record course.bank.reset
  | .writeCount index value => course.record (course.bank.writeCount index value)
  | .writeMode index value => course.record (course.bank.writeMode index value)
  | .writeTarget index value => course.record (course.bank.writeTarget index value)
  | .advance cycles =>
      { course with
        bank := course.bank.advance cycles
        advanced := course.advanced + cycles.toNat }
  | .schedule => course.record course.bank.schedule
  | .runAudio =>
      match course.bank.runAudio course.pacer with
      | (bank, .ok () pacer) => { course with bank := bank, pacer := pacer }
      | (bank, .error _ pacer) => { course with bank := bank, pacer := pacer }
  | .skipToDeadline => { course with bank := course.bank.skipToDeadline }
  | .update =>
      match course.bank.update course.interrupts course.pacer with
      | ⟨bank, interrupts, .ok () pacer⟩ =>
          { course with interrupts := interrupts, pacer := pacer }.record bank
      | ⟨bank, interrupts, .error _ pacer⟩ =>
          { course with
            bank := bank
            interrupts := interrupts
            pacer := pacer
            hasFailed := true }

/-- Carry out commands one after the other. -/
def obeyAll
    (course : Course ρ)
    (commands : List Command) :
    Course ρ :=
  commands.foldl obey course

end

/-- The bank has moved on by `moved` cycles since the nearest deadline was recorded. -/
structure MovedOn
    (recorded bank : CounterBank)
    (moved : Nat) : Prop where
  clock : bank.cycle = recorded.cycle + UInt32.ofNat moved
  sameDistance : bank.nextDeadline = recorded.nextDeadline
  sameBase : bank.deadlineBase = recorded.deadlineBase
  /-- Only a bank that has reached the recorded deadline arms counters anew. -/
  armed : bank.armed = recorded.armed ∨ recorded.nextDeadline.toNat ≤ moved

namespace MovedOn

variable {recorded bank : CounterBank} {moved : Nat}

theorem refl (bank : CounterBank) : MovedOn bank bank 0 where
  clock := (UInt32.add_zero _).symm
  sameDistance := rfl
  sameBase := rfl
  armed := .inl rfl

/-- A later bank with the same counters and the same record has moved on further. -/
theorem later
    (movedOn : MovedOn recorded bank moved)
    {after : CounterBank}
    {more : Nat}
    (clock : after.cycle = bank.cycle + UInt32.ofNat more)
    (sameDistance : after.nextDeadline = bank.nextDeadline)
    (sameBase : after.deadlineBase = bank.deadlineBase)
    (sameArmed : after.armed = bank.armed) :
    MovedOn recorded after (moved + more) where
  clock := by rw [clock, movedOn.clock, UInt32.ofNat_add, UInt32.add_assoc]
  sameDistance := sameDistance.trans movedOn.sameDistance
  sameBase := sameBase.trans movedOn.sameBase
  armed := by
    rw [sameArmed]
    exact movedOn.armed.imp_right fun reached => Nat.le_add_right_of_le reached

/-- Before the recorded deadline the same counters are armed as when it was recorded. -/
theorem armed_eq
    (movedOn : MovedOn recorded bank moved)
    (early : moved < recorded.nextDeadline.toNat) :
    bank.armed = recorded.armed :=
  movedOn.armed.resolve_right (Nat.not_le_of_lt early)

/-- The clock at the recorded deadline. -/
theorem jump
    (movedOn : MovedOn recorded bank moved)
    (isRecorded : recorded.IsRecorded)
    (early : moved < recorded.nextDeadline.toNat) :
    MovedOn recorded { bank with cycle := bank.deadlineBase + bank.nextDeadline }
      recorded.nextDeadline.toNat where
  clock := by
    rw [movedOn.sameBase, movedOn.sameDistance, isRecorded.base, UInt32.ofNat_toNat]
  sameDistance := movedOn.sameDistance
  sameBase := movedOn.sameBase
  armed := .inl (movedOn.armed_eq early)

variable (movedOn : MovedOn recorded bank moved) (short : moved < 2 ^ 32)
  (isRecorded : recorded.IsRecorded)

include movedOn short isRecorded

/-- The recorded deadline has been reached if the clock has moved that far. -/
theorem deadlineReached_iff :
    bank.deadlineReached = true ↔ recorded.nextDeadline.toNat ≤ moved := by
  have passed : (bank.cycle - bank.deadlineBase).toNat = moved := by
    rw [movedOn.clock, movedOn.sameBase, isRecorded.base]
    have base := recorded.cycle.toNat_lt
    simp only [UInt32.toNat_sub, UInt32.toNat_add, UInt32.toNat_ofNat']
    omega
  simp only [deadlineReached, ge_iff_le, decide_eq_true_eq, UInt32.le_iff_toNat_le, passed,
    movedOn.sameDistance]

/-- A counter that is due tells that the recorded deadline has been reached. -/
theorem deadlineReached_of_isDue
    {counter : Counter}
    (member : counter ∈ bank.armed)
    (due : counter.isDue bank.cycle = true) :
    bank.deadlineReached = true := by
  rw [movedOn.deadlineReached_iff short isRecorded]
  rcases movedOn.armed with same | reached
  · rw [same] at member
    rw [movedOn.clock] at due
    exact Nat.le_trans (isRecorded.nextDeadline_le member)
      (Counter.remaining_le_of_isDue short due)
  · exact reached

variable (early : moved < recorded.nextDeadline.toNat)

include early

/-- A jump before the recorded deadline ends there. -/
theorem skipToDeadline_eq :
    bank.skipToDeadline = { bank with cycle := bank.deadlineBase + bank.nextDeadline } := by
  rw [CounterBank.skipToDeadline, if_neg]
  rw [movedOn.deadlineReached_iff short isRecorded]
  exact Nat.not_le_of_lt early

/-- A jump ends no later than any deadline, and at one of them unless all are far away. -/
theorem skipToDeadline_exact :
    (∀ counter,
        counter ∈ bank.skipToDeadline.armed →
        counter.elapsed bank.skipToDeadline.cycle ≤ counter.deadline) ∧
      ((∃ counter,
          counter ∈ bank.skipToDeadline.armed ∧
            counter.elapsed bank.skipToDeadline.cycle = counter.deadline) ∨
        ∀ counter,
          counter ∈ recorded.armed →
          0x7FFFFFFF ≤ counter.remaining recorded.cycle) := by
  have jumped := movedOn.jump isRecorded early
  have same := movedOn.armed_eq early
  rw [movedOn.skipToDeadline_eq short isRecorded early]
  change (∀ counter, counter ∈ bank.armed → _) ∧ ((∃ counter, counter ∈ bank.armed ∧ _) ∨ _)
  have elapsed {counter : Counter} (member : counter ∈ recorded.armed) :
      (counter.elapsed (bank.deadlineBase + bank.nextDeadline)).toNat =
        (counter.elapsed recorded.cycle).toNat + recorded.nextDeadline.toNat := by
    have near := isRecorded.nextDeadline_le member
    rw [show bank.deadlineBase + bank.nextDeadline = _ from jumped.clock]
    exact Counter.toNat_elapsed_add_of_lt (by omega) near
  rw [same]
  refine ⟨?_, ?_⟩
  · intro counter member
    have near := isRecorded.nextDeadline_le member
    rw [UInt32.le_iff_toNat_le, elapsed member]
    unfold Counter.remaining at near
    omega
  · rcases isRecorded.nextDeadline_attained with bound | ⟨counter, member, nearest⟩
    · refine .inr fun counter member => ?_
      have near := isRecorded.nextDeadline_le member
      rw [bound] at near
      exact near
    · refine .inl ⟨counter, member, UInt32.toNat_inj.mp ?_⟩
      rw [elapsed member]
      unfold Counter.remaining at nearest
      omega

end MovedOn

/-- What every run keeps up. -/
structure Tracks (course : Course ρ) : Prop where
  isRecorded : course.recorded.IsRecorded
  isPaced : course.bank.IsPaced
  sameDistance : course.bank.nextDeadline = course.recorded.nextDeadline
  sameBase : course.bank.deadlineBase = course.recorded.deadlineBase
  armed : course.hasFailed = false → course.bank.armed = course.recorded.armed
  movedOn :
    course.advanced < 2 ^ 31 →
    ∃ moved,
      MovedOn course.recorded course.bank moved ∧
        moved ≤ course.advanced + course.recorded.nextDeadline.toNat

namespace Tracks

variable {course : Course ρ}

/-- A bank that has just recorded its nearest deadline is tracked. -/
theorem of_record
    {bank : CounterBank}
    (isRecorded : bank.IsRecorded)
    (isPaced : bank.IsPaced) :
    (course.record bank).Tracks where
  isRecorded := isRecorded
  isPaced := isPaced
  sameDistance := rfl
  sameBase := rfl
  armed _ := rfl
  movedOn _ := ⟨0, .refl bank, Nat.zero_le _⟩

theorem start
    (vsyncRate : Nat)
    (interrupts : InterruptController)
    (pacer : ρ) :
    (start vsyncRate interrupts pacer).Tracks where
  isRecorded := isRecorded_schedule _
  isPaced := isPaced_initial vsyncRate
  sameDistance := rfl
  sameBase := rfl
  armed _ := rfl
  movedOn _ := ⟨0, .refl _, Nat.zero_le _⟩

variable (tracks : course.Tracks)

include tracks

/-- As long as few cycles have been advanced, the clock has not come round. -/
theorem movedOn_short (few : course.advanced < 2 ^ 31) :
    ∃ moved,
      MovedOn course.recorded course.bank moved ∧
        moved ≤ course.advanced + course.recorded.nextDeadline.toNat ∧ moved < 2 ^ 32 := by
  obtain ⟨moved, movedOn, bound⟩ := tracks.movedOn few
  have distance := tracks.isRecorded.nextDeadline_lt
  exact ⟨moved, movedOn, bound, by omega⟩

/-- As long as no update has failed, the clock may even have come round. -/
theorem movedOn_round (steady : course.hasFailed = false) :
    ∃ moved, MovedOn course.recorded course.bank moved ∧ moved < 2 ^ 32 := by
  refine ⟨(course.bank.cycle - course.recorded.cycle).toNat,
    ⟨?_, tracks.sameDistance, tracks.sameBase, .inl (tracks.armed steady)⟩,
    UInt32.toNat_lt _⟩
  rw [UInt32.ofNat_toNat, UInt32.add_comm, UInt32.sub_add_cancel]

/-- A change of the bank that leaves the clock and the record alone. -/
theorem of_same
    {after : Course ρ}
    (sameRecorded : after.recorded = course.recorded)
    (sameAdvanced : after.advanced = course.advanced)
    (isPaced : after.bank.IsPaced)
    (steady :
      after.hasFailed = false →
      course.hasFailed = false ∧ after.bank.armed = course.bank.armed)
    (sameCycle : after.bank.cycle = course.bank.cycle)
    (sameDistance : after.bank.nextDeadline = course.bank.nextDeadline)
    (sameBase : after.bank.deadlineBase = course.bank.deadlineBase)
    (armed :
      course.advanced < 2 ^ 31 →
      after.bank.armed = course.bank.armed ∨ course.bank.deadlineReached = true) :
    after.Tracks where
  isRecorded := sameRecorded ▸ tracks.isRecorded
  isPaced := isPaced
  sameDistance := by rw [sameDistance, sameRecorded, tracks.sameDistance]
  sameBase := by rw [sameBase, sameRecorded, tracks.sameBase]
  armed unfailed := by
    obtain ⟨before, same⟩ := steady unfailed
    rw [same, sameRecorded, tracks.armed before]
  movedOn few := by
    rw [sameAdvanced] at few
    obtain ⟨moved, movedOn, bound, short⟩ := tracks.movedOn_short few
    rw [sameRecorded, sameAdvanced]
    refine ⟨moved, ⟨sameCycle.trans movedOn.clock, sameDistance.trans movedOn.sameDistance,
      sameBase.trans movedOn.sameBase, ?_⟩, bound⟩
    rcases armed few with same | reached
    · rw [same]
      exact movedOn.armed
    · exact .inr ((movedOn.deadlineReached_iff short tracks.isRecorded).mp reached)

/-- Advancing the clock. -/
theorem advance (cycles : UInt32) :
    { course with
      bank := course.bank.advance cycles
      advanced := course.advanced + cycles.toNat }.Tracks where
  isRecorded := tracks.isRecorded
  isPaced := tracks.isPaced
  sameDistance := tracks.sameDistance
  sameBase := tracks.sameBase
  armed := tracks.armed
  movedOn few := by
    obtain ⟨moved, movedOn, bound⟩ :=
      tracks.movedOn (Nat.lt_of_le_of_lt (Nat.le_add_right _ _) few)
    refine ⟨moved + cycles.toNat, movedOn.later ?_ rfl rfl rfl, ?_⟩
    · rw [UInt32.ofNat_toNat]
      rfl
    · simp only
      omega

/-- Jumping to the recorded deadline, which changes nothing once it has been reached. -/
theorem skipToDeadline :
    { course with bank := course.bank.skipToDeadline }.Tracks := by
  by_cases reached : course.bank.deadlineReached = true
  · rw [CounterBank.skipToDeadline, if_pos reached]
    exact tracks
  · rw [CounterBank.skipToDeadline, if_neg reached]
    refine ⟨tracks.isRecorded, tracks.isPaced, tracks.sameDistance, tracks.sameBase,
      tracks.armed, fun few => ?_⟩
    obtain ⟨moved, movedOn, bound, short⟩ := tracks.movedOn_short few
    rw [movedOn.deadlineReached_iff short tracks.isRecorded, Nat.not_le] at reached
    exact ⟨_, (movedOn.jump tracks.isRecorded reached), Nat.le_add_left _ _⟩

/-- A failed update has rearmed the frame pacer, which was due. -/
theorem rearm_frame
    (due : course.bank.frame.isDue course.bank.cycle = true) :
    { course with bank := course.bank.rearm 3, hasFailed := true }.Tracks := by
  refine tracks.of_same rfl rfl rfl nofun rfl rfl rfl fun few => ?_
  by_cases idle : course.bank.frame.deadline = never
  · exact .inl (tracks.isPaced.armed_rearm idle)
  · obtain ⟨moved, movedOn, bound, short⟩ := tracks.movedOn_short few
    have member : course.bank.frame ∈ course.bank.armed :=
      mem_armed.mpr ⟨by simp [counters], idle⟩
    exact .inr (movedOn.deadlineReached_of_isDue short tracks.isRecorded member due)

section

variable [SamplePacer ρ]

/-- The audio position has no part in the deadlines. -/
theorem runAudio (pacer : ρ) :
    { course with
      bank := (course.bank.runAudio course.pacer).1
      pacer := pacer }.Tracks := by
  unfold CounterBank.runAudio
  split
  · exact tracks.of_same rfl rfl tracks.isPaced (⟨·, rfl⟩) rfl rfl rfl fun _ => .inl rfl
  · exact tracks.of_same rfl rfl tracks.isPaced (⟨·, rfl⟩) rfl rfl rfl fun _ => .inl rfl

/-- Serving what is due records the nearest deadline, unless the pacer fails. -/
theorem update : (course.obey .update).Tracks := by
  simp only [obey, CounterBank.update]
  by_cases due : course.bank.frame.isDue course.bank.cycle = true
  · have asked := (tracks.rearm_frame due).runAudio
    rw [if_pos due]
    generalize (course.bank.rearm 3).runAudio course.pacer = answer at asked ⊢
    rcases answer with ⟨bank, result⟩
    cases result with
    | ok value pacer =>
        exact .of_record (isRecorded_schedule _) ((asked pacer).isPaced.fireCounters _)
    | error fault pacer =>
        exact (asked pacer).of_same rfl rfl (asked pacer).isPaced nofun rfl rfl rfl
          fun _ => .inl rfl
  · rw [if_neg due]
    exact .of_record (isRecorded_schedule _) (tracks.isPaced.fireCounters course.interrupts)

/-- A command keeps the run tracked. -/
theorem obey (command : Command) : (course.obey command).Tracks := by
  cases command with
  | reset => exact .of_record (isRecorded_schedule _) (isPaced_initial _)
  | writeCount index value =>
      exact .of_record (isRecorded_schedule _) (tracks.isPaced.rewrite index _)
  | writeMode index value =>
      exact .of_record (isRecorded_schedule _) (tracks.isPaced.rewrite index _)
  | writeTarget index value =>
      exact .of_record (isRecorded_schedule _) (tracks.isPaced.rewrite index _)
  | advance cycles => exact tracks.advance cycles
  | schedule => exact .of_record (isRecorded_schedule _) tracks.isPaced
  | runAudio =>
      have asked := tracks.runAudio
      simp only [Course.obey]
      generalize course.bank.runAudio course.pacer = answer at asked ⊢
      rcases answer with ⟨bank, result⟩
      cases result with
      | ok value pacer => exact asked pacer
      | error fault pacer => exact asked pacer
  | skipToDeadline => exact tracks.skipToDeadline
  | update => exact tracks.update

end

end Tracks

variable [SamplePacer ρ]

theorem Tracks.obeyAll
    {course : Course ρ}
    (tracks : course.Tracks)
    (commands : List Command) :
    (course.obeyAll commands).Tracks := by
  induction commands generalizing course with
  | nil => exact tracks
  | cons command rest inductionHypothesis => exact inductionHypothesis (tracks.obey command)

/--
Whatever has been asked of the bank, as long as fewer than 2 ^ 31 cycles have been
advanced since the nearest deadline was recorded, an armed counter that is due is
noticed.  A jump that moves the clock passes no deadline, and it ends at one of them
unless all were far away when the nearest was recorded; for that it is enough that no
update has failed since then.
-/
theorem deadlineReached_and_skipToDeadline_exact
    (vsyncRate : Nat)
    (interrupts : InterruptController)
    (pacer : ρ)
    (commands : List Command) :
    let course := (start vsyncRate interrupts pacer).obeyAll commands
    let jumped := course.bank.skipToDeadline
    (course.advanced < 2 ^ 31 →
        ∀ counter,
          counter ∈ course.bank.counters →
          counter.deadline ≠ never →
          counter.deadline ≤ counter.elapsed course.bank.cycle →
          course.bank.deadlineReached = true) ∧
      (course.advanced < 2 ^ 31 ∨ course.hasFailed = false →
        jumped.cycle ≠ course.bank.cycle →
        (∀ counter,
            counter ∈ jumped.counters →
            counter.deadline ≠ never →
            counter.elapsed jumped.cycle ≤ counter.deadline) ∧
          ((∃ counter,
              counter ∈ jumped.counters ∧
                counter.deadline ≠ never ∧
                counter.elapsed jumped.cycle = counter.deadline) ∨
            ∀ counter,
              counter ∈ course.recorded.counters →
              counter.deadline ≠ never →
              0x7FFFFFFF ≤ counter.remaining course.recorded.cycle)) := by
  have tracks := (Tracks.start vsyncRate interrupts pacer).obeyAll commands
  generalize (start vsyncRate interrupts pacer).obeyAll commands = course at tracks ⊢
  refine ⟨?_, ?_⟩
  · intro few counter member armed due
    obtain ⟨moved, movedOn, -, short⟩ := tracks.movedOn_short few
    exact movedOn.deadlineReached_of_isDue short tracks.isRecorded
      (mem_armed.mpr ⟨member, armed⟩) (by simpa [Counter.isDue] using due)
  · intro quiet moves
    obtain ⟨moved, movedOn, short⟩ :
        ∃ moved, MovedOn course.recorded course.bank moved ∧ moved < 2 ^ 32 := by
      rcases quiet with few | steady
      · obtain ⟨moved, movedOn, -, short⟩ := tracks.movedOn_short few
        exact ⟨moved, movedOn, short⟩
      · exact tracks.movedOn_round steady
    have early : moved < course.recorded.nextDeadline.toNat := by
      rw [← Nat.not_le, ← movedOn.deadlineReached_iff short tracks.isRecorded]
      intro reached
      exact moves (by rw [CounterBank.skipToDeadline, if_pos reached])
    simpa only [mem_armed, and_imp, and_assoc] using
      movedOn.skipToDeadline_exact short tracks.isRecorded early

end Course

end CounterBank

end PsxPlayer
