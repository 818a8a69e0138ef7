import PsxPlayer.Proofs.Counter.Firing

namespace PsxPlayer

/-!
# The rates of the counters

A counter keeps its rate until its mode is written.  The video clocks are derived from
the rate of the frame pacer, which power-on sets to the length of a frame.  But the pacer
has a mode register like the others, and a write to it, whatever the value, sets its rate
to one: from then on the clocks selected for lines and pixels run at one hardware cycle
per count, until the bank is reset.
-/

namespace Counter

theorem rate_fired
    (counter : Counter)
    (index : Nat)
    (now : UInt32) :
    (counter.fired index now).rate = counter.rate := by
  unfold fired restart
  simp only
  split
  · split <;> rfl
  · rfl

end Counter

namespace CounterBank

/-- The rates of the frame pacer, of a counter set to lines and of one set to pixels. -/
structure RunsVideoAt
    (bank : CounterBank)
    (frame line pixel : Nat) :
    Prop where
  frame : bank.frame.rate = frame
  line :
    ∀ mode,
      mode &&& Counter.videoClock ≠ 0 →
      ((bank.writeMode 1 mode).get 1).rate = line
  pixel :
    ∀ mode,
      mode &&& Counter.videoClock ≠ 0 →
      ((bank.writeMode 0 mode).get 0).rate = pixel

/-- Indices that stand for the same counter find the same. -/
theorem get_of_same
    (bank : CounterBank)
    {index other : Nat}
    (same : min index 3 = min other 3) :
    bank.get index = bank.get other := by
  by_cases hardware : index < 3
  · obtain rfl : index = other := by omega
    rfl
  · rw [bank.get_of_not_hardware hardware, bank.get_of_not_hardware (by omega)]

/-- A counter that is replaced and armed has the rate that it is given. -/
theorem rate_rewrite
    (bank : CounterBank)
    (index other : Nat)
    (counter : Counter) :
    (((bank.set index counter).rearm index).schedule.get other).rate =
      if min index 3 = min other 3 then counter.rate else (bank.get other).rate := by
  rw [get_rewrite]
  split
  · rfl
  · rfl

/-- A write of the count or of the target keeps the rate. -/
theorem rate_rewrite_of_same
    (bank : CounterBank)
    {index : Nat}
    (other : Nat)
    {counter : Counter}
    (sameRate : counter.rate = (bank.get index).rate) :
    (((bank.set index counter).rearm index).schedule.get other).rate =
      (bank.get other).rate := by
  rw [rate_rewrite]
  split
  · next same => rw [sameRate, bank.get_of_same same]
  · rfl

/-- A write of the mode selects the rate. -/
theorem rate_writeMode
    (bank : CounterBank)
    (index other : Nat)
    (mode : UInt32) :
    ((bank.writeMode index mode).get other).rate =
      if min index 3 = min other 3 then bank.rateOf index mode
      else (bank.get other).rate :=
  bank.rate_rewrite _ _ _

/-- The video clocks are derived from the rate that the frame pacer has. -/
theorem runsVideoAt (bank : CounterBank) :
    bank.RunsVideoAt bank.frame.rate
      (max (bank.frame.rate / linesPerFrame) 1)
      (max (bank.frame.rate / pixelsPerLine / linesPerFrame) 1) where
  frame := rfl
  line mode isVideo := by
    rw [rate_writeMode, if_pos rfl, rateOf, if_neg (by simp), if_pos ⟨rfl, isVideo⟩]
  pixel mode isVideo := by
    rw [rate_writeMode, if_pos rfl, rateOf, if_pos ⟨rfl, isVideo⟩]

/-- No mode selects another rate than one for the frame pacer. -/
theorem rateOf_of_not_hardware
    (bank : CounterBank)
    {index : Nat}
    (beyond : ¬index < 3)
    (mode : UInt32) :
    bank.rateOf index mode = 1 := by
  unfold rateOf
  rw [if_neg (by omega), if_neg (by omega), if_neg (by omega)]

theorem vsyncRate_update
    {ρ : Type} [SamplePacer ρ]
    (bank : CounterBank)
    (interrupts : InterruptController)
    (pacer : ρ) :
    (bank.update interrupts pacer).bank.vsyncRate = bank.vsyncRate := by
  by_cases due : bank.frame.isDue bank.cycle = true
  · have framed : bank.framed.vsyncRate = bank.vsyncRate :=
      (vsyncRate_of_beyond (bank.beyond_rearm 3) : (bank.rearm 3).vsyncRate = _)
    rw [bank.update_of_due interrupts due]
    generalize ((bank.rearm 3).runAudio pacer).2 = answer
    cases answer with
    | ok value after => exact (vsyncRate_of_beyond (beyond_fireCounters _ _)).trans framed
    | error fault after => exact framed
  · rw [bank.update_of_not_due interrupts due]
    exact vsyncRate_of_beyond (beyond_fireCounters _ _)

namespace Command

/-- Whether a command may change the rate of counter `index`. -/
def SetsRate (index : Nat) : Command → Prop
  | .reset => True
  | .writeMode other _ => min other 3 = min index 3
  | _ => False

/-- Whether the mode of the frame pacer is then still that of the last reset. -/
def sparesFrame (spared : Bool) : Command → Bool
  | .reset => true
  | .writeMode index _ => spared && decide (index < 3)
  | _ => spared

end Command

/-- Whether the mode of the frame pacer is not written after the last reset. -/
def sparesFrame (commands : List Command) : Bool :=
  commands.foldl Command.sparesFrame true

namespace Course

variable {ρ : Type} [SamplePacer ρ] {course : Course ρ}

theorem vsyncRate_obey
    (course : Course ρ)
    (command : Command) :
    max (course.obey command).bank.vsyncRate 1 = max course.bank.vsyncRate 1 := by
  cases command with
  | reset => exact Nat.max_eq_left (Nat.le_max_right _ _)
  | writeCount index value =>
      exact congrArg (max · 1) (vsyncRate_of_beyond (beyond_writeCount _ _ _))
  | writeMode index value =>
      exact congrArg (max · 1) (vsyncRate_of_beyond (beyond_writeMode _ _ _))
  | writeTarget index value =>
      exact congrArg (max · 1) (vsyncRate_of_beyond (beyond_writeTarget _ _ _))
  | advance cycles => rfl
  | schedule => rfl
  | runAudio => rw [course.obey_runAudio.1]; rfl
  | skipToDeadline =>
      change max course.bank.skipToDeadline.vsyncRate 1 = _
      unfold CounterBank.skipToDeadline
      split <;> rfl
  | update => rw [course.obey_update.1, vsyncRate_update]

/-- What a command that selects no rate for a counter leaves of its rate. -/
theorem rate_obey_of_spared
    (programmed : course.bank.IsProgrammed)
    (index : Nat)
    (command : Command)
    (spares : ¬command.SetsRate index) :
    ((course.obey command).bank.get index).rate = (course.bank.get index).rate := by
  by_cases programs : command.Programs index
  · -- Only a count or a target is written.
    cases command with
    | reset => exact absurd trivial spares
    | writeMode other value => exact absurd programs spares
    | writeCount other value => exact rate_rewrite_of_same _ _ rfl
    | writeTarget other value => exact rate_rewrite_of_same _ _ rfl
    | _ => exact absurd programs id
  · rcases get_obey programmed programs with ⟨-, -, fired⟩ | ⟨-, same⟩
    · rw [fired]
      exact Counter.rate_fired _ _ _
    · rw [same]

/-- A counter keeps its rate until its mode is written or the bank is reset. -/
theorem rate_obeyAll_of_spared
    {index : Nat}
    {commands : List Command}
    (programmed : course.bank.IsProgrammed)
    (spares : ∀ command ∈ commands, ¬command.SetsRate index) :
    ((course.obeyAll commands).bank.get index).rate = (course.bank.get index).rate := by
  induction commands generalizing course with
  | nil => rfl
  | cons command rest inductionHypothesis =>
      have kept := rate_obey_of_spared programmed index command (spares command (.head _))
      refine (inductionHypothesis (isProgrammed_obey programmed command) ?_).trans kept
      exact fun other member => spares other (.tail _ member)

/-- The rate of the frame pacer while its mode is spared, and afterwards. -/
def frameRate (vsyncRate : Nat) (spared : Bool) : Nat :=
  if spared then clockRate / max vsyncRate 1 else 1

/-- The frame pacer runs at the rate of a frame, or at one once its mode has been written. -/
structure Paces
    (vsyncRate : Nat)
    (spared : Bool)
    (bank : CounterBank) :
    Prop where
  programmed : bank.IsProgrammed
  sameVsync : max bank.vsyncRate 1 = max vsyncRate 1
  rate : bank.frame.rate = frameRate vsyncRate spared

theorem Paces.obey
    {vsyncRate : Nat}
    {spared : Bool}
    (paces : Paces vsyncRate spared course.bank)
    (command : Command) :
    Paces vsyncRate (command.sparesFrame spared) (course.obey command).bank where
  programmed := isProgrammed_obey paces.programmed command
  sameVsync := (course.vsyncRate_obey command).trans paces.sameVsync
  rate := by
    cases command with
    | reset => exact congrArg (clockRate / ·) paces.sameVsync
    | writeMode index mode =>
        have written := course.bank.rate_writeMode index 3 mode
        refine written.trans ?_
        by_cases hardware : index < 3
        · have spares : Command.sparesFrame spared (.writeMode index mode) = spared := by
            simp [Command.sparesFrame, hardware]
          rw [if_neg (by omega), spares]
          exact paces.rate
        · have writes : Command.sparesFrame spared (.writeMode index mode) = false := by
            simp [Command.sparesFrame, hardware]
          rw [if_pos (by omega), writes]
          exact rateOf_of_not_hardware _ hardware mode
    | _ => exact (rate_obey_of_spared paces.programmed 3 _ id).trans paces.rate

theorem Paces.obeyAll
    {vsyncRate : Nat}
    {spared : Bool}
    (paces : Paces vsyncRate spared course.bank)
    (commands : List Command) :
    Paces vsyncRate (commands.foldl Command.sparesFrame spared)
      (course.obeyAll commands).bank := by
  induction commands generalizing course spared with
  | nil => exact paces
  | cons command rest inductionHypothesis => exact inductionHypothesis (paces.obey command)

/-- The frame pacer's rate tells whether its mode has been written since the last reset. -/
theorem paces_start
    (vsyncRate : Nat)
    (interrupts : InterruptController)
    (pacer : ρ)
    (commands : List Command) :
    Paces vsyncRate (sparesFrame commands)
      ((start vsyncRate interrupts pacer).obeyAll commands).bank :=
  Paces.obeyAll ⟨isProgrammed_initial vsyncRate, Nat.max_eq_left (Nat.le_max_right _ _), rfl⟩
    commands

/--
In every state that a run at 50 or 60 frames a second reaches, the frame pacer and the
video clocks have the rates that the frames give them just if the mode of the frame pacer
has not been written since the last reset; after such a write, of whatever value, all of
them are one.  A rate once selected stays until the counter's mode is written again.
-/
theorem runsVideoAt_iff_sparesFrame
    {vsyncRate : Nat}
    (standard : vsyncRate = 50 ∨ vsyncRate = 60)
    (interrupts : InterruptController)
    (pacer : ρ)
    (commands : List Command) :
    let course := (start vsyncRate interrupts pacer).obeyAll commands
    let rate := clockRate / vsyncRate
    (course.bank.RunsVideoAt rate (rate / linesPerFrame) (rate / pixelsPerLine / linesPerFrame) ↔
        sparesFrame commands = true) ∧
      (sparesFrame commands = false → course.bank.RunsVideoAt 1 1 1) ∧
      ∀ index later,
        (∀ command ∈ later, ¬command.SetsRate index) →
        ((course.obeyAll later).bank.get index).rate = (course.bank.get index).rate := by
  intro course rate
  have paces := paces_start vsyncRate interrupts pacer commands
  have runs := course.bank.runsVideoAt
  rw [paces.rate] at runs
  refine ⟨⟨?_, ?_⟩, ?_, ?_⟩
  · intro documented
    cases written : sparesFrame commands with
    | true => rfl
    | false =>
        have frame := documented.frame.symm.trans paces.rate
        rw [written] at frame
        rcases standard with rfl | rfl <;> exact absurd frame (by decide)
  · intro spared
    rw [spared] at runs
    rcases standard with rfl | rfl <;> exact runs
  · intro written
    have one : frameRate vsyncRate false = 1 := rfl
    rw [written, one] at runs
    exact runs
  · intro index later spares
    exact rate_obeyAll_of_spared paces.programmed spares

/-- Counter 1 set to lines, with time passing and the frame pacer's target written. -/
def linesSelected : List Command :=
  [.advance 300000, .update, .writeTarget 3 1, .writeMode 1 Counter.videoClock]

/-- At 50 frames a second the clock of the lines stays at its rate. -/
theorem runsVideoAt_iff_sparesFrame_lines :
    let course := (start 50 .initial (⟨0⟩ : Faltering)).obeyAll linesSelected
    let mode := Counter.videoClock ||| Counter.irqOnTarget
    mode &&& Counter.videoClock ≠ 0 ∧
      ((course.bank.writeMode 1 mode).get 1).rate = 2585 ∧
      ((course.obeyAll [.advance 9, .update]).bank.get 1).rate = (course.bank.get 1).rate := by
  obtain ⟨documented, -, stays⟩ :=
    runsVideoAt_iff_sparesFrame (.inl rfl) .initial (⟨0⟩ : Faltering) linesSelected
  have runs := documented.mpr (by decide)
  refine ⟨by decide, runs.line _ (by decide), stays 1 [.advance 9, .update] ?_⟩
  simp [Command.SetsRate]

/-- The frame pacer's own mode is written to it, and its rate and that of the lines is one. -/
theorem frameModeWrite_losesRates :
    let bank :=
      ((start 60 .initial (⟨0⟩ : Faltering)).obeyAll [.writeMode 3 0x58]).bank
    bank.frame.rate = 1 ∧
      ((bank.writeMode 1 Counter.videoClock).get 1).rate = 1 ∧
      ((bank.writeMode 0 Counter.videoClock).get 0).rate = 1 ∧
      clockRate / 60 = 564480 ∧
      clockRate / 60 / linesPerFrame = 2154 ∧
      clockRate / 60 / pixelsPerLine / linesPerFrame = 5 := by
  decide

end Course

end CounterBank

end PsxPlayer
