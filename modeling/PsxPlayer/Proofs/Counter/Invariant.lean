import PsxPlayer.Proofs.Counter.Pacer

namespace PsxPlayer

/-!
# What every run keeps of the counters

Counters are written, armed and fired in any order, but some of what they hold never
changes: count and target fit the registers, every counter stays on its interrupt line,
the rate is one that a mode selects, and the deadline is the one that arming the counter
gives, unless it was to fire once and has done so.
-/

/-- The interrupt line of counter `index`; from 3 on it is that of the frame pacer. -/
def Lines.ofCounter : Nat → Lines
  | 0 => .timer0
  | 1 => .timer1
  | 2 => .timer2
  | _ => .vblank

namespace Counter

/-- The values of the count register. -/
def countRange : Nat := 65536

/-- The most hardware cycles per count that counter `index` can be set to. -/
def slowestRate (index : Nat) : Nat :=
  if index < 3 then clockRate / linesPerFrame else clockRate

/-- Whether the mode lets counter `index` fire. -/
def isEnabled
    (counter : Counter)
    (index : Nat) :
    Bool :=
  !(index == 2 && counter.has syncEnable) &&
    (counter.has irqOnTarget || counter.has irqOnMax)

/-- A register keeps the low half of a word. -/
theorem toNat_and_0xFFFF (word : UInt32) :
    (word &&& 0xFFFF).toNat = word.toNat % countRange := by
  rw [UInt32.toNat_and]
  exact Nat.and_two_pow_sub_one_eq_mod _ 16

theorem toNat_and_0xFFFF_lt (word : UInt32) : (word &&& 0xFFFF).toNat < countRange := by
  rw [toNat_and_0xFFFF]
  exact Nat.mod_lt _ (by decide)

theorem toNat_zero_lt : (0 : UInt32).toNat < countRange := by
  decide

/-- What the registers of counter `index` hold. -/
structure Fits
    (index : Nat)
    (counter : Counter) :
    Prop where
  count_lt : counter.count.toNat < countRange
  target_lt : counter.target.toNat < countRange
  line : counter.line = .ofCounter index
  rate_pos : index < 3 → 0 < counter.rate
  rate_le : counter.rate ≤ slowestRate index

/-- Counter `index` as any run leaves it. -/
structure IsProgrammed
    (index : Nat)
    (counter : Counter) :
    Prop extends Fits index counter where
  /-- Only a hardware counter ever fires for the last time. -/
  deadline :
    counter.deadline = (counter.rearm index 0).deadline ∨
      index < 3 ∧ counter.deadline = never ∧ counter.has irqRepeat = false

variable {index : Nat} {counter : Counter}

/-- A counter that is armed anew fires when its span has passed, or never. -/
theorem deadline_rearm
    (counter : Counter)
    (index : Nat)
    (now : UInt32) :
    (counter.rearm index now).deadline =
      if counter.isEnabled index then counter.spanCycles else never :=
  rfl

/-- A span is never as long as the mark for counters that do not fire. -/
theorem spanCycles_ne_never (counter : Counter) : counter.spanCycles ≠ never := by
  intro same
  have limit :
      min (counter.span.toNat * counter.rate / cycleScale) (never.toNat - 1) < never.toNat :=
    Nat.lt_of_le_of_lt (Nat.min_le_right _ _) (by decide)
  have value := congrArg UInt32.toNat same
  rw [spanCycles, UInt32.toNat_ofNat', Nat.mod_eq_of_lt (Nat.lt_trans limit (by decide))] at value
  exact Nat.ne_of_lt limit value

/-- Arming a counter makes it inactive only if its mode does. -/
theorem deadline_rearm_eq_never_iff (now : UInt32) :
    (counter.rearm index now).deadline = never ↔ counter.isEnabled index = false := by
  rw [deadline_rearm]
  split
  · next enabled => simp [enabled, spanCycles_ne_never]
  · next disabled => simpa using disabled

/-- Arming a counter leaves what its registers hold. -/
theorem Fits.rearm
    (fits : counter.Fits index)
    (now : UInt32) :
    (counter.rearm index now).IsProgrammed index :=
  ⟨⟨fits.count_lt, fits.target_lt, fits.line, fits.rate_pos, fits.rate_le⟩, .inl rfl⟩

namespace IsProgrammed

/-- What holds of a counter holds of it at every index that stands for it. -/
theorem of_same
    {other : Nat}
    (programmed : counter.IsProgrammed index)
    (same : min index 3 = min other 3) :
    counter.IsProgrammed other := by
  by_cases hardware : index < 3
  · obtain rfl : index = other := by omega
    exact programmed
  · obtain ⟨index, rfl⟩ := Nat.exists_eq_add_of_le' (Nat.le_of_not_lt hardware)
    obtain ⟨other, rfl⟩ := Nat.exists_eq_add_of_le' (show 3 ≤ other by omega)
    obtain ⟨⟨count_lt, target_lt, line, -, rate_le⟩, deadline⟩ := programmed
    refine ⟨⟨count_lt, target_lt, line, by omega, ?_⟩, .inl ?_⟩
    · rw [slowestRate, if_neg (by omega)] at rate_le ⊢
      exact rate_le
    · rcases deadline with armed | ⟨isHardware, -⟩
      · exact armed
      · omega

/-- A counter that starts over is still programmed. -/
theorem restart
    (programmed : counter.IsProgrammed index)
    (hardware : index < 3)
    (now : UInt32) :
    (counter.restart index now).IsProgrammed index := by
  have fits : ({ counter with count := 0 } : Counter).Fits index :=
    ⟨toNat_zero_lt, programmed.target_lt, programmed.line, programmed.rate_pos,
      programmed.rate_le⟩
  have armed := fits.rearm now
  unfold Counter.restart
  simp only
  split
  · exact armed
  · next oneShot =>
      rw [Bool.not_eq_true] at oneShot
      exact ⟨⟨armed.count_lt, armed.target_lt, armed.line, armed.rate_pos, armed.rate_le⟩,
        .inr ⟨hardware, rfl, oneShot⟩⟩

/-- An inactive counter whose mode would let it fire has fired for the last time. -/
theorem of_inactive
    (programmed : counter.IsProgrammed index)
    (inactive : counter.deadline = never) :
    counter.isEnabled index = false ∨ index < 3 ∧ counter.has irqRepeat = false := by
  rcases programmed.deadline with armed | ⟨hardware, -, oneShot⟩
  · exact .inl ((deadline_rearm_eq_never_iff 0).mp (armed.symm.trans inactive))
  · exact .inr ⟨hardware, oneShot⟩

/-- The deadline of an active counter is the one that arming it gives. -/
theorem deadline_of_active
    (programmed : counter.IsProgrammed index)
    (active : counter.deadline ≠ never) :
    counter.deadline = counter.spanCycles := by
  rcases programmed.deadline with armed | ⟨-, inactive, -⟩
  · rw [armed, deadline_rearm]
    split
    · rfl
    · next disabled =>
        rw [deadline_rearm, if_neg disabled] at armed
        exact absurd armed active
  · exact absurd inactive active

end IsProgrammed

end Counter

namespace CounterBank

variable {bank : CounterBank}

/-- The bank as any run leaves it. -/
def IsProgrammed (bank : CounterBank) : Prop :=
  ∀ index, (bank.get index).IsProgrammed index

/-! ## Single counters of a bank -/

/-- What leaves the counters leaves each of them. -/
theorem get_of_counters
    {after : CounterBank}
    (same : after.counters = bank.counters)
    (index : Nat) :
    after.get index = bank.get index := by
  simp only [counters, List.cons.injEq] at same
  obtain ⟨same0, same1, same2, sameFrame, -⟩ := same
  rcases index with _ | _ | _ | index
  · exact same0
  · exact same1
  · exact same2
  · exact sameFrame

/-- From 3 on an index stands for the frame pacer. -/
theorem get_of_not_hardware
    (bank : CounterBank)
    {index : Nat}
    (beyond : ¬index < 3) :
    bank.get index = bank.frame := by
  obtain ⟨index, rfl⟩ := Nat.exists_eq_add_of_le' (Nat.le_of_not_lt beyond)
  rfl

/-- A counter that has been set is the new one, and the others are as they were. -/
theorem get_set
    (bank : CounterBank)
    (index other : Nat)
    (counter : Counter) :
    (bank.set index counter).get other =
      if min index 3 = min other 3 then counter else bank.get other := by
  rcases index with _ | _ | _ | index <;> rcases other with _ | _ | _ | other <;>
    simp [set, get]

/-- Counter `index` replaced and armed, as all writes to its registers do it. -/
theorem get_rewrite
    (bank : CounterBank)
    (index other : Nat)
    (counter : Counter) :
    ((bank.set index counter).rearm index).schedule.get other =
      if min index 3 = min other 3 then counter.rearm index bank.cycle
      else bank.get other := by
  have sameCycle : (bank.set index counter).cycle = bank.cycle :=
    cycle_of_beyond (beyond_set _ _ _)
  have sameCounters (bank : CounterBank) : bank.schedule.counters = bank.counters := rfl
  rw [get_of_counters (sameCounters _), rearm, get_set, get_set, get_set, if_pos rfl, sameCycle]
  split
  · rfl
  · rfl

/-! ## The invariant -/

namespace IsProgrammed

/-- A programmed counter may take a place among programmed ones. -/
theorem set
    (programmed : bank.IsProgrammed)
    {index : Nat}
    {counter : Counter}
    (written : counter.IsProgrammed index) :
    (bank.set index counter).IsProgrammed := by
  intro other
  rw [get_set]
  split
  · next same => exact written.of_same same
  · exact programmed other

/-- What leaves the counters leaves them programmed. -/
theorem of_counters
    {after : CounterBank}
    (programmed : bank.IsProgrammed)
    (same : after.counters = bank.counters) :
    after.IsProgrammed := by
  intro index
  rw [get_of_counters same]
  exact programmed index

/-- Writing a register that fits and arming the counter leaves a programmed bank. -/
theorem rewrite
    (programmed : bank.IsProgrammed)
    {index : Nat}
    {counter : Counter}
    (fits : counter.Fits index) :
    ((bank.set index counter).rearm index).schedule.IsProgrammed := by
  intro other
  rw [get_rewrite]
  split
  · next same => exact (fits.rearm _).of_same same
  · exact programmed other

/-- Arming a counter leaves a programmed bank. -/
theorem rearm
    (programmed : bank.IsProgrammed)
    (index : Nat) :
    (bank.rearm index).IsProgrammed :=
  programmed.set ((programmed index).toFits.rearm _)

/-- Every rate that a mode selects is one of those that counters keep to. -/
theorem rateOf
    (programmed : bank.IsProgrammed)
    (index : Nat)
    (mode : UInt32) :
    0 < bank.rateOf index mode ∧ bank.rateOf index mode ≤ Counter.slowestRate index := by
  have frame : bank.frame.rate ≤ clockRate := (programmed 3).rate_le
  have line : bank.frame.rate / linesPerFrame ≤ clockRate / linesPerFrame :=
    Nat.div_le_div_right frame
  have pixel : bank.frame.rate / pixelsPerLine / linesPerFrame ≤ clockRate / linesPerFrame :=
    Nat.div_le_div_right (Nat.le_trans (Nat.div_le_self _ _) frame)
  have eighth : 8 ≤ clockRate / linesPerFrame := by decide
  have whole : clockRate / linesPerFrame ≤ clockRate := Nat.div_le_self _ _
  unfold CounterBank.rateOf Counter.slowestRate
  split
  · rw [if_pos (by omega)]
    omega
  · split
    · rw [if_pos (by omega)]
      omega
    · split
      · rw [if_pos (by omega)]
        omega
      · split
        · omega
        · omega

/-- Writing a count leaves a programmed bank. -/
theorem writeCount
    (programmed : bank.IsProgrammed)
    (index : Nat)
    (value : UInt32) :
    (bank.writeCount index value).IsProgrammed := by
  have held := programmed index
  exact programmed.rewrite
    ⟨Counter.toNat_and_0xFFFF_lt value, held.target_lt, held.line, held.rate_pos,
      held.rate_le⟩

/-- Writing a mode leaves a programmed bank. -/
theorem writeMode
    (programmed : bank.IsProgrammed)
    (index : Nat)
    (value : UInt32) :
    (bank.writeMode index value).IsProgrammed := by
  have held := programmed index
  obtain ⟨rate_pos, rate_le⟩ := programmed.rateOf index value
  exact programmed.rewrite
    ⟨Counter.toNat_zero_lt, held.target_lt, held.line, fun _ => rate_pos, rate_le⟩

/-- Writing a target leaves a programmed bank. -/
theorem writeTarget
    (programmed : bank.IsProgrammed)
    (index : Nat)
    (value : UInt32) :
    (bank.writeTarget index value).IsProgrammed := by
  have held := programmed index
  exact programmed.rewrite
    ⟨held.count_lt, Counter.toNat_and_0xFFFF_lt value, held.line, held.rate_pos,
      held.rate_le⟩

/-- A counter that fires leaves a programmed bank. -/
theorem fireIfDue
    {state : CounterBank × InterruptController}
    (programmed : state.1.IsProgrammed)
    {index : Nat}
    (hardware : index < 3) :
    (fireIfDue state index).1.IsProgrammed := by
  unfold CounterBank.fireIfDue
  simp only
  split
  · exact programmed.set ((programmed index).restart hardware _)
  · exact programmed

/-- Hardware counters that fire one after the other leave a programmed bank. -/
theorem foldl_fireIfDue
    {indices : List Nat}
    {state : CounterBank × InterruptController}
    (programmed : state.1.IsProgrammed)
    (hardware : ∀ index ∈ indices, index < 3) :
    (indices.foldl CounterBank.fireIfDue state).1.IsProgrammed := by
  induction indices generalizing state with
  | nil => exact programmed
  | cons index rest inductionHypothesis =>
      have first := programmed.fireIfDue (hardware index (.head _))
      exact inductionHypothesis first (fun other member => hardware other (.tail _ member))

/-- Firing whatever is due leaves a programmed bank. -/
theorem fireCounters
    (programmed : bank.IsProgrammed)
    (interrupts : InterruptController) :
    (bank.fireCounters interrupts).1.IsProgrammed := by
  have start : (bank, interrupts).1.IsProgrammed := programmed
  have hardware : ∀ index ∈ [0, 1, 2], index < 3 := by decide
  have fired := start.foldl_fireIfDue hardware
  unfold CounterBank.fireCounters
  generalize [0, 1, 2].foldl CounterBank.fireIfDue (bank, interrupts) = state at fired ⊢
  exact fired.of_counters rfl

/-- The frame pacer leaves a programmed bank. -/
theorem framed (programmed : bank.IsProgrammed) : bank.framed.IsProgrammed :=
  (programmed.rearm 3).of_counters rfl

/-- Serving the counters leaves a programmed bank. -/
theorem update
    {ρ : Type} [SamplePacer ρ]
    (programmed : bank.IsProgrammed)
    (interrupts : InterruptController)
    (pacer : ρ) :
    (bank.update interrupts pacer).bank.IsProgrammed := by
  by_cases due : bank.frame.isDue bank.cycle = true
  · rw [bank.update_of_due interrupts due]
    generalize ((bank.rearm 3).runAudio pacer).2 = answer
    cases answer with
    | ok value after => exact programmed.framed.fireCounters _
    | error fault after => exact programmed.framed
  · rw [bank.update_of_not_due interrupts due]
    exact programmed.fireCounters _

end IsProgrammed

/-- Power-on programs every counter. -/
theorem isProgrammed_initial (vsyncRate : Nat) : (initial vsyncRate).IsProgrammed := by
  have idle {index : Nat} {line : Lines} (hardware : index < 3) (own : line = .ofCounter index) :
      (Counter.idle line).IsProgrammed index := by
    have inactive : (Counter.idle line).isEnabled index = false := by
      simp [Counter.isEnabled, Counter.has, Counter.idle]
    refine
      ⟨⟨Counter.toNat_zero_lt, Counter.toNat_zero_lt, own, fun _ => Nat.one_pos, ?_⟩,
        .inl ?_⟩
    · rw [Counter.slowestRate, if_pos hardware]
      exact Nat.succ_le_of_lt (by decide)
    · exact ((Counter.deadline_rearm_eq_never_iff 0).mpr inactive).symm
  intro index
  match index with
  | 0 => exact idle (by decide) rfl
  | 1 => exact idle (by decide) rfl
  | 2 => exact idle (by decide) rfl
  | index + 3 =>
      have one : (1 : UInt32).toNat < Counter.countRange := by decide
      exact
        Counter.Fits.rearm
          ⟨Counter.toNat_zero_lt, one, rfl, by omega, Nat.div_le_self _ _⟩ 0

namespace Course

variable {ρ : Type} [SamplePacer ρ]

/-- No command leaves a counter unprogrammed. -/
theorem isProgrammed_obey
    {course : Course ρ}
    (programmed : course.bank.IsProgrammed)
    (command : Command) :
    (course.obey command).bank.IsProgrammed := by
  cases command with
  | reset => exact isProgrammed_initial _
  | writeCount index value => exact programmed.writeCount index value
  | writeMode index value => exact programmed.writeMode index value
  | writeTarget index value => exact programmed.writeTarget index value
  | advance cycles => exact programmed.of_counters rfl
  | schedule => exact programmed.of_counters rfl
  | runAudio =>
      rw [course.obey_runAudio.1]
      exact programmed.of_counters rfl
  | skipToDeadline =>
      change course.bank.skipToDeadline.IsProgrammed
      unfold CounterBank.skipToDeadline
      split
      · exact programmed
      · exact programmed.of_counters rfl
  | update =>
      rw [course.obey_update.1]
      exact programmed.update _ _

/-- After any commands every counter is programmed. -/
theorem isProgrammed_obeyAll
    {course : Course ρ}
    (programmed : course.bank.IsProgrammed)
    (commands : List Command) :
    (course.obeyAll commands).bank.IsProgrammed := by
  induction commands generalizing course with
  | nil => exact programmed
  | cons command rest inductionHypothesis =>
      exact inductionHypothesis (isProgrammed_obey programmed command)

/-- Whatever has been asked of the bank since power-on, it is as any run leaves it. -/
theorem isProgrammed_start
    (vsyncRate : Nat)
    (interrupts : InterruptController)
    (pacer : ρ)
    (commands : List Command) :
    ((start vsyncRate interrupts pacer).obeyAll commands).bank.IsProgrammed :=
  isProgrammed_obeyAll (isProgrammed_initial vsyncRate) commands

end Course

end CounterBank

end PsxPlayer
