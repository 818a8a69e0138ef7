import PsxPlayer.Proofs.Counter.Firing

namespace PsxPlayer

/-!
# The count that a counter shows

A counter keeps the count that it was armed with; what is read is this count and the
counts of the time since then.  Up to the deadline the two agree, so that the count
reaches its goal no earlier than the counter is due.  But they agree only as long as the
time since the counter was armed is known: a write of the target arms the counter anew
and loses it, and so does the clock when it comes round, unless the counts of one round
are a whole number of turns of the register.
-/

namespace Counter

variable {index : Nat} {counter : Counter}

/-- Counts of the time since the counter was armed. -/
def ticks
    (counter : Counter)
    (now : UInt32) :
    Nat :=
  cycleScale * (counter.elapsed now).toNat / max counter.rate 1

theorem toNat_countAt
    (counter : Counter)
    (now : UInt32) :
    (counter.countAt now).toNat = (counter.count.toNat + counter.ticks now) % countRange := by
  have wraps : countRange ∣ 2 ^ 32 := by decide
  change ((counter.count + UInt32.ofNat (counter.ticks now)) &&& 0xFFFF).toNat = _
  rw [toNat_and_0xFFFF, UInt32.toNat_add, UInt32.toNat_ofNat', Nat.mod_mod_of_dvd _ wraps,
    Nat.add_mod, Nat.mod_mod_of_dvd _ wraps, ← Nat.add_mod]

/-- A counter that has just been armed shows the count that it keeps. -/
theorem countAt_rearm
    (fits : counter.Fits index)
    (now : UInt32) :
    (counter.rearm index now).countAt now = counter.count := by
  have justArmed : (counter.rearm index now).ticks now = 0 := by
    simp [ticks, elapsed, rearm]
  apply UInt32.toNat_inj.mp
  rw [toNat_countAt, justArmed, Nat.add_zero]
  exact Nat.mod_eq_of_lt fits.count_lt

/-- A counter shows the count that it keeps just after whole turns of the register. -/
theorem count_eq_countAt_iff
    (fits : counter.Fits index)
    (now : UInt32) :
    counter.count = counter.countAt now ↔ countRange ∣ counter.ticks now := by
  have bound : counter.count.toNat < 65536 := fits.count_lt
  rw [← UInt32.toNat_inj, toNat_countAt, Nat.dvd_iff_mod_eq_zero]
  simp only [countRange]
  omega

/-! ## The deadline -/

/-- The count at which the counter fires. -/
def goal (counter : Counter) : Nat :=
  if counter.has irqOnTarget then counter.target.toNat else 0xFFFF

/-- Counts from the one that the counter keeps to its goal, the register wrapping. -/
def toGo (counter : Counter) : Nat :=
  (counter.goal + countRange - counter.count.toNat) % countRange

/-- Counts by which the count shown is ahead of the one that the counter keeps. -/
def gained
    (counter : Counter)
    (now : UInt32) :
    Nat :=
  ((counter.countAt now).toNat + countRange - counter.count.toNat) % countRange

theorem toGo_lt (counter : Counter) : counter.toGo < countRange :=
  Nat.mod_lt _ (by decide)

theorem toNat_span (fits : counter.Fits index) : counter.span.toNat = counter.toGo := by
  have count_lt : counter.count.toNat < 65536 := fits.count_lt
  have target_lt : counter.target.toNat < 65536 := fits.target_lt
  unfold span toGo goal
  split
  · rw [toNat_and_0xFFFF, UInt32.toNat_sub]
    simp only [countRange]
    omega
  · rw [UInt32.toNat_sub, toNat_and_0xFFFF]
    simp only [countRange, UInt32.reduceToNat]
    omega

/-- The deadline is not cut off: even at the slowest rate the counts to go fit the clock. -/
theorem toNat_spanCycles
    (fits : counter.Fits index)
    (hardware : index < 3) :
    counter.spanCycles.toNat = counter.toGo * counter.rate / cycleScale := by
  have rate_le : counter.rate ≤ 129270 := by
    have limit := fits.rate_le
    rwa [slowestRate, if_pos hardware] at limit
  have toGo_le : counter.toGo ≤ 65535 := Nat.le_of_lt_succ counter.toGo_lt
  have product : counter.toGo * counter.rate ≤ 65535 * 129270 :=
    Nat.mul_le_mul toGo_le rate_le
  rw [spanCycles, toNat_span fits, UInt32.toNat_ofNat']
  simp only [never, cycleScale, UInt32.reduceToNat]
  omega

/-- Fewer counts than one turn of the register all show. -/
theorem gained_eq
    (fits : counter.Fits index)
    {now : UInt32}
    (few : counter.ticks now < countRange) :
    counter.gained now = counter.ticks now := by
  have count_lt : counter.count.toNat < 65536 := fits.count_lt
  unfold gained
  rw [toNat_countAt]
  simp only [countRange] at *
  omega

/-- As long as less is gained than there is to go, the goal does not show. -/
theorem countAt_ne_goal
    {now : UInt32}
    (early : counter.gained now < counter.toGo) :
    (counter.countAt now).toNat ≠ counter.goal := by
  intro reached
  rw [gained, toGo, reached] at early
  exact Nat.lt_irrefl _ early

/--
Half the hardware cycles of the counts to go, doubled again, make up all the counts, or
one less if the cycles are odd in number.
-/
theorem counts_of_half
    {counts rate : Nat}
    (positive : 0 < rate) :
    2 * (counts * rate / 2) / rate = if 2 ∣ counts * rate then counts else counts - 1 := by
  split
  · next even =>
      rw [Nat.mul_div_cancel' even, Nat.mul_div_cancel _ positive]
  · next odd =>
      have nonzero : 0 < counts := by
        refine Nat.pos_of_ne_zero fun zero => odd ?_
        rw [zero, Nat.zero_mul]
        exact Nat.dvd_zero _
      obtain ⟨fewer, rfl⟩ := Nat.exists_eq_add_of_le' nonzero
      have halved : 2 * ((fewer + 1) * rate / 2) = fewer * rate + (rate - 1) := by
        rw [Nat.add_mul, Nat.one_mul] at odd ⊢
        omega
      rw [halved, Nat.add_sub_cancel, Nat.mul_comm, Nat.mul_add_div positive,
        Nat.div_eq_of_lt (by omega), Nat.add_zero]

section

variable (programmed : counter.IsProgrammed index) (hardware : index < 3)
  (active : counter.deadline ≠ never) {now : UInt32}

include programmed hardware active

theorem toNat_deadline :
    counter.deadline.toNat = counter.toGo * counter.rate / cycleScale := by
  rw [programmed.deadline_of_active active]
  exact toNat_spanCycles programmed.toFits hardware

/-- Before the deadline the count has not reached the goal. -/
theorem gained_lt_toGo (early : counter.elapsed now < counter.deadline) :
    counter.gained now < counter.toGo := by
  have positive : 0 < counter.rate := programmed.rate_pos hardware
  have fewer : counter.ticks now < counter.toGo := by
    rw [UInt32.lt_iff_toNat_lt, toNat_deadline programmed hardware active] at early
    rw [ticks, Nat.max_eq_left positive, Nat.div_lt_iff_lt_mul positive]
    simp only [cycleScale] at early ⊢
    omega
  rw [gained_eq programmed.toFits (Nat.lt_trans fewer counter.toGo_lt)]
  exact fewer

/-- At the deadline it has, unless half a count is lost to the interpreter's cycles. -/
theorem gained_eq_of_elapsed_eq (due : counter.elapsed now = counter.deadline) :
    counter.gained now =
      if 2 ∣ counter.toGo * counter.rate then counter.toGo else counter.toGo - 1 := by
  have positive : 0 < counter.rate := programmed.rate_pos hardware
  have gone :
      counter.ticks now =
        if 2 ∣ counter.toGo * counter.rate then counter.toGo else counter.toGo - 1 := by
    rw [ticks, due, toNat_deadline programmed hardware active, Nat.max_eq_left positive]
    exact counts_of_half positive
  have few : counter.ticks now < countRange := by
    have limit := counter.toGo_lt
    rw [gone]
    split
    · exact limit
    · exact Nat.lt_of_le_of_lt (Nat.sub_le _ _) limit
  rw [gained_eq programmed.toFits few, gone]

end

/-! ## The clock coming round -/

/--
The counts of one round of the clock make whole turns of the register just for the rates
that divide 2 ^ 17.
-/
theorem dvd_counts_of_round_iff
    {rate : Nat}
    (positive : 0 < rate)
    (bound : rate ≤ slowestRate 0) :
    countRange ∣ cycleScale * 2 ^ 32 / rate ↔ rate ∣ 2 ^ 17 := by
  have rate_le : rate ≤ 129270 := bound
  constructor
  · rintro ⟨turns, whole⟩
    have below : turns * rate * 65536 ≤ 2 ^ 17 * 65536 := by
      have part := Nat.div_mul_le_self (cycleScale * 2 ^ 32) rate
      rw [whole] at part
      calc turns * rate * 65536 = countRange * turns * rate := by
            rw [countRange, Nat.mul_comm, Nat.mul_assoc]
        _ ≤ cycleScale * 2 ^ 32 := part
        _ = 2 ^ 17 * 65536 := by decide
    have above : 2 ^ 17 * 65536 < turns * rate * 65536 + rate := by
      have part := Nat.lt_div_mul_add (a := cycleScale * 2 ^ 32) positive
      rw [whole] at part
      calc 2 ^ 17 * 65536 = cycleScale * 2 ^ 32 := by decide
        _ < countRange * turns * rate + rate := part
        _ = turns * rate * 65536 + rate := by
            rw [countRange, Nat.mul_comm (turns * rate), Nat.mul_assoc]
    -- What is left over is less than a rate, so at most one is missing from 2 ^ 17.
    have near : turns * rate = 2 ^ 17 ∨ turns * rate + 1 = 2 ^ 17 ∧ 65536 < rate := by
      omega
    rcases near with complete | ⟨oneShort, slow⟩
    · exact ⟨turns, by rw [Nat.mul_comm, complete]⟩
    -- A rate above 2 ^ 16 fits 2 ^ 17 - 1 at most once, and no counter runs that slowly.
    · rcases turns with _ | _ | turns
      · omega
      · omega
      · rw [Nat.add_mul, Nat.add_mul] at oneShort
        omega
  · rintro ⟨factor, whole⟩
    refine ⟨factor, Nat.div_eq_of_eq_mul_left positive ?_⟩
    rw [cycleScale, countRange, Nat.mul_assoc, Nat.mul_comm factor, ← whole]
    decide

/-- If they do, the rounds that the clock has made do not show. -/
theorem counts_mod_round
    {rate : Nat}
    (positive : 0 < rate)
    (divides : rate ∣ 2 ^ 17)
    (count age : Nat) :
    (count + cycleScale * (age % 2 ^ 32) / rate) % countRange =
      (count + cycleScale * age / rate) % countRange := by
  obtain ⟨factor, whole⟩ := divides
  have rounds : cycleScale * age =
      rate * (countRange * (factor * (age / 2 ^ 32))) + cycleScale * (age % 2 ^ 32) := by
    calc cycleScale * age
        = 2 ^ 17 * (countRange * (age / 2 ^ 32)) + cycleScale * (age % 2 ^ 32) := by
          simp only [cycleScale, countRange]
          omega
      _ = rate * (countRange * (factor * (age / 2 ^ 32))) + cycleScale * (age % 2 ^ 32) := by
          rw [whole, Nat.mul_assoc, Nat.mul_left_comm factor]
  rw [rounds, Nat.mul_add_div positive, ← Nat.add_assoc, Nat.add_right_comm,
    Nat.add_mul_mod_self_left]

end Counter

namespace CounterBank

variable {ρ : Type} [SamplePacer ρ]

theorem cycle_update
    (bank : CounterBank)
    (interrupts : InterruptController)
    (pacer : ρ) :
    (bank.update interrupts pacer).bank.cycle = bank.cycle := by
  by_cases due : bank.frame.isDue bank.cycle = true
  · rw [bank.update_of_due interrupts due]
    generalize ((bank.rearm 3).runAudio pacer).2 = answer
    cases answer with
    | ok value after =>
        exact (cycle_of_beyond (beyond_fireCounters _ _)).trans bank.cycle_framed
    | error fault after => exact bank.cycle_framed
  · rw [bank.update_of_not_due interrupts due]
    exact cycle_of_beyond (beyond_fireCounters _ _)

namespace Course

/-- Cycles by which a command moves the clock. -/
def passed (course : Course ρ) : Command → Nat
  | .advance cycles => cycles.toNat
  | .skipToDeadline => (course.bank.skipToDeadline.cycle - course.bank.cycle).toNat
  | _ => 0

/-- Cycles by which commands move the clock. -/
def passedOver : Course ρ → List Command → Nat
  | _, [] => 0
  | course, command :: rest => course.passed command + (course.obey command).passedOver rest

/-- No command writes a register of counter `index`, and no update fires the counter. -/
def Undisturbed (index : Nat) : Course ρ → List Command → Prop
  | _, [] => True
  | course, command :: rest =>
      ¬command.Programs index ∧
        ¬(command = .update ∧ course.Fires index) ∧
        Undisturbed index (course.obey command) rest

variable {course : Course ρ} {index : Nat} {command : Command}

theorem cycle_obey (spares : ¬command.Programs index) :
    (course.obey command).bank.cycle =
      course.bank.cycle + UInt32.ofNat (course.passed command) := by
  have still : course.bank.cycle = course.bank.cycle + UInt32.ofNat 0 :=
    (UInt32.add_zero _).symm
  cases command with
  | reset => exact absurd trivial spares
  | writeCount other value => exact (cycle_of_beyond (beyond_writeCount _ _ _)).trans still
  | writeMode other value => exact (cycle_of_beyond (beyond_writeMode _ _ _)).trans still
  | writeTarget other value => exact (cycle_of_beyond (beyond_writeTarget _ _ _)).trans still
  | advance cycles =>
      rw [passed, UInt32.ofNat_toNat]
      rfl
  | schedule => exact still
  | runAudio =>
      rw [course.obey_runAudio.1]
      exact still
  | skipToDeadline =>
      rw [passed, UInt32.ofNat_toNat, UInt32.add_comm, UInt32.sub_add_cancel]
      rfl
  | update =>
      rw [course.obey_update.1, cycle_update]
      exact still

/-- An undisturbed counter stays as it is while the clock moves on. -/
theorem get_obeyAll_of_undisturbed
    {commands : List Command}
    (programmed : course.bank.IsProgrammed)
    (undisturbed : course.Undisturbed index commands) :
    (course.obeyAll commands).bank.get index = course.bank.get index ∧
      (course.obeyAll commands).bank.cycle =
        course.bank.cycle + UInt32.ofNat (course.passedOver commands) := by
  induction commands generalizing course with
  | nil => exact ⟨rfl, (UInt32.add_zero _).symm⟩
  | cons command rest inductionHypothesis =>
      obtain ⟨spares, quiet, restUndisturbed⟩ := undisturbed
      obtain ⟨sameLater, clockLater⟩ :=
        inductionHypothesis (isProgrammed_obey programmed command) restUndisturbed
      have same : (course.obey command).bank.get index = course.bank.get index := by
        rcases get_obey programmed spares with ⟨isUpdate, fires, -⟩ | ⟨-, same⟩
        · exact absurd ⟨isUpdate, fires⟩ quiet
        · exact same
      refine ⟨sameLater.trans same, clockLater.trans ?_⟩
      rw [cycle_obey spares, passedOver, UInt32.ofNat_add, UInt32.add_assoc]

/-- What an undisturbed counter shows: the cycles that have passed count modulo 2 ^ 32. -/
theorem toNat_readCount_of_undisturbed
    {commands : List Command}
    (programmed : course.bank.IsProgrammed)
    (hardware : index < 3)
    (undisturbed : course.Undisturbed index commands) :
    let counter := course.bank.get index
    let age := (counter.elapsed course.bank.cycle).toNat + course.passedOver commands
    ((course.obeyAll commands).bank.readCount index).toNat =
      (counter.count.toNat + cycleScale * (age % 2 ^ 32) / counter.rate) %
        Counter.countRange := by
  intro counter age
  obtain ⟨same, clock⟩ := get_obeyAll_of_undisturbed programmed undisturbed
  have positive : 0 < counter.rate := (programmed index).rate_pos hardware
  have elapsed := counter.toNat_elapsed_add course.bank.cycle (course.passedOver commands)
  rw [readCount, same, clock, Counter.toNat_countAt, Counter.ticks, elapsed,
    Nat.max_eq_left positive]

/-- Commands that take the clock to where counter `index` was armed, a round later. -/
def completeRound
    (course : Course ρ)
    (index : Nat) :
    List Command :=
  [.advance (0xFFFFFFFF - (course.bank.get index).elapsed course.bank.cycle), .advance 1]

theorem undisturbed_completeRound (course : Course ρ) (index : Nat) :
    course.Undisturbed index (course.completeRound index) :=
  ⟨id, nofun, id, nofun, trivial⟩

theorem elapsed_add_passedOver_completeRound (course : Course ρ) (index : Nat) :
    ((course.bank.get index).elapsed course.bank.cycle).toNat +
      course.passedOver (course.completeRound index) = 2 ^ 32 := by
  generalize gone : (course.bank.get index).elapsed course.bank.cycle = elapsed
  have limit : elapsed ≤ 0xFFFFFFFF :=
    UInt32.le_iff_toNat_le.mpr (Nat.le_of_lt_succ elapsed.toNat_lt)
  have left : (0xFFFFFFFF - elapsed).toNat = 0xFFFFFFFF - elapsed.toNat :=
    UInt32.toNat_sub_of_le _ _ limit
  have passed :
      course.passedOver (course.completeRound index) = (0xFFFFFFFF - elapsed).toNat + 1 := by
    rw [← gone]
    rfl
  have bound := elapsed.toNat_lt
  omega

/-- A counter shows what it was armed with when the clock has just come round. -/
theorem toNat_readCount_completeRound
    (programmed : course.bank.IsProgrammed)
    (hardware : index < 3) :
    ((course.obeyAll (course.completeRound index)).bank.readCount index).toNat =
      (course.bank.get index).count.toNat % Counter.countRange := by
  have shown :=
    toNat_readCount_of_undisturbed programmed hardware (course.undisturbed_completeRound index)
  simp only at shown
  rw [elapsed_add_passedOver_completeRound, Nat.mod_self, Nat.mul_zero, Nat.zero_div,
    Nat.add_zero] at shown
  exact shown

/-! ## Main statements -/

theorem readCount_writeTarget_self
    {bank : CounterBank}
    (fits : (bank.get index).Fits index)
    (value : UInt32) :
    (bank.writeTarget index value).readCount index = (bank.get index).count := by
  have retargeted :
      ({ bank.get index with target := value &&& 0xFFFF } : Counter).Fits index :=
    ⟨fits.count_lt, Counter.toNat_and_0xFFFF_lt value, fits.line, fits.rate_pos,
      fits.rate_le⟩
  have written :
      (bank.writeTarget index value).get index =
        { bank.get index with target := value &&& 0xFFFF }.rearm index bank.cycle :=
    (get_rewrite _ _ _ _).trans (if_pos rfl)
  rw [readCount, written, cycle_of_beyond (beyond_writeTarget _ _ _)]
  exact Counter.countAt_rearm retargeted _

theorem readCount_writeTarget_of_ne
    (bank : CounterBank)
    {other : Nat}
    (differs : min index 3 ≠ min other 3)
    (value : UInt32) :
    (bank.writeTarget index value).readCount other = bank.readCount other := by
  have same : (bank.writeTarget index value).get other = bank.get other :=
    (get_rewrite _ _ _ _).trans (if_neg differs)
  rw [readCount, readCount, same, cycle_of_beyond (beyond_writeTarget _ _ _)]

/--
In every state that a run reaches, a write of a target leaves the counts of the other
counters as they were.  The counter's own count falls back to the one that the counter
was last armed with, so it stays just if the register has made whole turns since then.
-/
theorem readCount_writeTarget
    (vsyncRate : Nat)
    (interrupts : InterruptController)
    (pacer : ρ)
    (commands : List Command)
    (index other : Fin 4)
    (value : UInt32) :
    let bank := ((start vsyncRate interrupts pacer).obeyAll commands).bank
    let written := bank.writeTarget index value
    written.readCount other =
        (if other = index then (bank.get index).count else bank.readCount other) ∧
      (written.readCount index = bank.readCount index ↔
        Counter.countRange ∣ (bank.get index).ticks bank.cycle) := by
  intro bank written
  have programmed : bank.IsProgrammed := isProgrammed_start _ _ _ _
  have own := readCount_writeTarget_self (programmed index).toFits value
  refine ⟨?_, ?_⟩
  · split
    · next same => rw [same, own]
    · next differs =>
        refine readCount_writeTarget_of_ne bank ?_ value
        rw [Nat.min_eq_left (by omega), Nat.min_eq_left (by omega)]
        exact fun same => differs (Fin.ext same.symm)
  · rw [own]
    exact Counter.count_eq_countAt_iff (programmed index).toFits _

/-- Fifty cycles on, counter 0 shows 100; a write of its target brings it back to 0. -/
theorem writeTarget_losesCount :
    let bank := ((start 60 .initial (⟨0⟩ : Faltering)).obeyAll [.advance 50]).bank
    bank.readCount 0 = 100 ∧ (bank.writeTarget 0 1000).readCount 0 = 0 := by
  decide

/--
In every state that a run reaches, an active hardware counter shows less than its goal
up to the deadline.  At the deadline it has gained the counts to go, or one less if
their hardware cycles are odd in number.
-/
theorem countAt_reachesGoal
    (vsyncRate : Nat)
    (interrupts : InterruptController)
    (pacer : ρ)
    (commands : List Command)
    (index : Fin 3)
    (now : UInt32)
    (active :
      (((start vsyncRate interrupts pacer).obeyAll commands).bank.get index).deadline ≠
        never) :
    let counter := ((start vsyncRate interrupts pacer).obeyAll commands).bank.get index
    (counter.elapsed now < counter.deadline →
        counter.gained now < counter.toGo ∧ (counter.countAt now).toNat ≠ counter.goal) ∧
      (counter.elapsed now = counter.deadline →
        counter.gained now =
          if 2 ∣ counter.toGo * counter.rate then counter.toGo else counter.toGo - 1) := by
  intro counter
  have programmed : counter.IsProgrammed index :=
    isProgrammed_start vsyncRate interrupts pacer commands index
  refine ⟨?_, ?_⟩
  · intro early
    have fewer := Counter.gained_lt_toGo programmed index.isLt active early
    exact ⟨fewer, Counter.countAt_ne_goal fewer⟩
  · exact Counter.gained_eq_of_elapsed_eq programmed index.isLt active

/-- Counter 0 at the pixel clock, to fire after three counts. -/
def pixelCounts : List Command :=
  [.writeMode 0 (Counter.videoClock ||| Counter.irqOnTarget), .writeTarget 0 3]

/-- Three counts of five hardware cycles are due after seven cycles, when two show. -/
theorem countAt_reachesGoal_pixelClock :
    let counter := ((start 60 .initial (⟨0⟩ : Faltering)).obeyAll pixelCounts).bank.get 0
    counter.deadline = 7 ∧
      counter.gained 6 < 3 ∧ (counter.countAt 6).toNat ≠ 3 ∧ counter.gained 7 = 2 := by
  have reaches (now : UInt32) :=
    countAt_reachesGoal 60 .initial (⟨0⟩ : Faltering) pixelCounts 0 now (by decide)
  obtain ⟨fewer, hidden⟩ := (reaches 6).1 (by decide)
  refine ⟨by decide, Nat.lt_of_lt_of_eq fewer (by decide), ?_, ?_⟩
  · exact fun three => hidden (three.trans (by decide))
  · exact ((reaches 7).2 (by decide)).trans (by decide)

/--
In every state that a run reaches, a hardware counter that is then neither written nor
fired shows the counts of the cycles since it was armed, taken modulo 2 ^ 32.  It shows
those of all the cycles, however many, just if its rate divides 2 ^ 17: at other rates
the count jumps when the clock comes round.
-/
theorem readCount_withoutJump_iff
    (vsyncRate : Nat)
    (interrupts : InterruptController)
    (pacer : ρ)
    (commands : List Command)
    (index : Fin 3) :
    let course := (start vsyncRate interrupts pacer).obeyAll commands
    let counter := course.bank.get index
    let age (later : List Command) :=
      (counter.elapsed course.bank.cycle).toNat + course.passedOver later
    let shown (later : List Command) := ((course.obeyAll later).bank.readCount index).toNat
    (∀ later,
        course.Undisturbed index later →
        shown later =
          (counter.count.toNat + cycleScale * (age later % 2 ^ 32) / counter.rate) %
            Counter.countRange) ∧
      ((∀ later,
          course.Undisturbed index later →
          shown later =
            (counter.count.toNat + cycleScale * age later / counter.rate) %
              Counter.countRange) ↔
        counter.rate ∣ 2 ^ 17) := by
  have programmed := isProgrammed_start vsyncRate interrupts pacer commands
  generalize (start vsyncRate interrupts pacer).obeyAll commands = course at programmed ⊢
  intro course counter age shown
  have positive : 0 < counter.rate := (programmed index).rate_pos index.isLt
  have formula (later : List Command) (undisturbed : course.Undisturbed index later) :
      shown later =
        (counter.count.toNat + cycleScale * (age later % 2 ^ 32) / counter.rate) %
          Counter.countRange :=
    toNat_readCount_of_undisturbed programmed index.isLt undisturbed
  refine ⟨formula, ?_, ?_⟩
  · intro always
    -- Just when the clock comes round, the counter shows what it was armed with.
    have armed :
        shown (course.completeRound index) = counter.count.toNat % Counter.countRange :=
      toNat_readCount_completeRound programmed index.isLt
    have round : age (course.completeRound index) = 2 ^ 32 :=
      course.elapsed_add_passedOver_completeRound index
    have wraps := armed.symm.trans (always _ (course.undisturbed_completeRound index))
    have bound : counter.rate ≤ Counter.slowestRate 0 := by
      have limit := (programmed index).rate_le
      rwa [Counter.slowestRate, if_pos index.isLt] at limit
    rw [round] at wraps
    rw [← Counter.dvd_counts_of_round_iff positive bound, Nat.dvd_iff_mod_eq_zero]
    generalize cycleScale * 2 ^ 32 / counter.rate = counts at wraps ⊢
    simp only [Counter.countRange] at wraps ⊢
    omega
  · intro divides later undisturbed
    rw [formula later undisturbed]
    exact Counter.counts_mod_round positive divides _ _

/-- Counter 2 at an eighth of the system clock goes on past a round of the clock. -/
theorem readCount_withoutJump_slowClock :
    let course :=
      (start 60 .initial (⟨0⟩ : Faltering)).obeyAll [.writeMode 2 Counter.slowClock]
    let later : List Command := [.advance 0xFFFFFFFF, .advance 9]
    ((course.obeyAll later).bank.readCount 2).toNat =
      cycleScale * (2 ^ 32 + 8) / 8 % Counter.countRange := by
  obtain ⟨-, withoutJump⟩ :=
    readCount_withoutJump_iff 60 .initial (⟨0⟩ : Faltering) [.writeMode 2 Counter.slowClock] 2
  have shown :=
    withoutJump.mpr (by decide) [.advance 0xFFFFFFFF, .advance 9] ⟨id, nofun, id, nofun, trivial⟩
  exact shown.trans (by decide)

/-- At the pixel clock a round of the clock takes counter 0 from 26214 back to 0. -/
theorem pixelClock_jumps :
    let course :=
      (start 60 .initial (⟨0⟩ : Faltering)).obeyAll [.writeMode 0 Counter.videoClock]
    let counter := course.bank.get 0
    let later : List Command := [.advance 0xFFFFFFFF, .advance 1]
    course.Undisturbed 0 later ∧
      (counter.count.toNat + cycleScale * course.passedOver later / counter.rate) %
        Counter.countRange = 26214 ∧
      ((course.obeyAll later).bank.readCount 0).toNat = 0 := by
  exact ⟨⟨id, nofun, id, nofun, trivial⟩, by decide, by decide⟩

end Course

end CounterBank

end PsxPlayer
