import PsxPlayer.Proofs.Bus
import PsxPlayer.Proofs.Sound.Worker

namespace PsxPlayer

/-!
# Audio keeps pace with the clock

The clock has 32 bits and wraps, and audio is asked for in whole sample periods, so
that a part of one is carried over from one time to the next.  As long as the time
since the end of the last whole period fits into 32 bits, the frames mixed are those
of the time that has really passed.
-/

/-- The difference of two clocks is the time between them as long as that fits. -/
theorem toNat_ofNat_sub_ofNat
    {early late : Nat}
    (past : early ≤ late)
    (short : late - early < 2 ^ 32) :
    (UInt32.ofNat late - UInt32.ofNat early).toNat = late - early := by
  simp only [UInt32.toNat_sub, UInt32.toNat_ofNat']
  omega

/-- A later clock is the earlier one moved on by the difference. -/
theorem ofNat_add_toNat_sub (early : Nat) (late : UInt32) :
    UInt32.ofNat (early + (late - UInt32.ofNat early).toNat) = late := by
  apply UInt32.toNat_inj.mp
  have bound := late.toNat_lt
  simp only [UInt32.toNat_sub, UInt32.toNat_ofNat']
  omega

namespace BusCommand

/-- What a command does to the sound, once the audio has been brought up to the clock. -/
def effect? : BusCommand → Option (BusAction Unit)
  | .writeSound address value =>
      match SoundRegister.ofAddress address with
      | .keyOn half =>
          some do
            Bus.keepSound address value
            Bus.requestEach .noteOn (half.voices value)
      | .keyOff half =>
          some do
            Bus.keepSound address value
            Bus.requestEach .noteOff (half.voices value)
      | .transferFifo => some (Bus.keepSound address value)
      | .voice index .loopAddress =>
          some do
            Bus.keepSound address value
            Bus.request (.overrideLoop index)
      | _ => none
  | .runTransfer => some (modify fun bus => bus.moveBlock.completeTransfer)
  | _ => none

/-- Every effect comes after the audio has been brought up to the clock. -/
theorem perform_of_effect
    {command : BusCommand}
    {effect : BusAction Unit}
    (has : command.effect? = some effect) :
    command.perform = (do Bus.runAudio; effect) := by
  cases command <;> simp only [effect?, reduceCtorEq] at has
  case writeSound address value =>
    simp only [perform, Bus.writeSoundRegister]
    generalize SoundRegister.ofAddress address = register at has ⊢
    split at has <;> cases has <;> rfl
  case runTransfer =>
    cases has
    rfl

/-- A write without an effect to be heard only keeps its value. -/
theorem perform_of_no_effect
    {address : UInt32}
    {value : UInt16}
    (none : (writeSound address value).effect? = none) :
    (writeSound address value).perform = Bus.keepSound address value := by
  simp only [effect?] at none
  simp only [perform, Bus.writeSoundRegister]
  generalize SoundRegister.ofAddress address = register at none ⊢
  cases register with
  | keyOn half => cases none
  | keyOff half => cases none
  | transferFifo => cases none
  | voice index field =>
      cases field with
      | loopAddress => cases none
      | _ => rfl
  | _ => rfl

/-- Whether a command asks for audio. -/
def asks (bus : Bus) : BusCommand → Bool
  | .updateCounters => bus.counters.frame.isDue bus.counters.cycle
  | .runAudio => true
  | command => command.effect?.isSome

/-- Whatever has an effect to be heard asks for audio first. -/
theorem asks_of_effect
    (bus : Bus)
    {command : BusCommand}
    {effect : BusAction Unit}
    (has : command.effect? = some effect) :
    command.asks bus := by
  cases command
  case writeSound address value => exact congrArg Option.isSome has
  case runTransfer => rfl
  all_goals nomatch has

end BusCommand

namespace CounterBank

/-- A live worker mixes the frames that are due. -/
theorem runAudio_of_serving
    (bank : CounterBank)
    {link : SoundLink Tape}
    (serving : link.phase = .serving) :
    ∃ asked mixed,
      bank.runAudio link = (asked, .ok () mixed) ∧
        asked.times = bank.claimPeriods.times ∧
        mixed.phase = .serving ∧
        mixed.frames = link.frames + bank.periodsDue := by
  obtain ⟨worker, phase⟩ := link
  cases serving
  by_cases none : bank.periodsDue = 0
  · refine ⟨bank, ⟨worker, .serving⟩, if_pos none, ?_, rfl, by rw [none, Nat.add_zero]⟩
    simp only [claimPeriods, times, none, Nat.zero_mul]
    exact congrArg (Prod.mk _) (UInt32.add_zero _).symm
  · refine
      ⟨bank.claimPeriods, ⟨worker.serve (.samples bank.periodsDue), .serving⟩, ?_, rfl,
        rfl, worker.serve_frames _⟩
    simp only [runAudio, if_neg none, SamplePacer.synthesize]
    rfl

end CounterBank

namespace Bus

/-- With a live worker the action goes through and leaves time and sound where they are. -/
def IsQuiet (action : BusAction Unit) : Prop :=
  ∀ bus : Bus,
    bus.link.phase = .serving →
    ∃ after, action.run bus = .ok () after ∧ after.timing = bus.timing

namespace IsQuiet

/-- What leaves the timing is quiet. -/
theorem modify
    {change : Bus → Bus}
    (same : ∀ bus, (change bus).timing = bus.timing) :
    IsQuiet (modify change) :=
  fun bus _ => ⟨change bus, rfl, same bus⟩

/-- Quiet actions one after the other are quiet. -/
theorem bind
    {first second : BusAction Unit}
    (firstQuiet : IsQuiet first)
    (secondQuiet : IsQuiet second) :
    IsQuiet (do first; second) := by
  intro bus serving
  obtain ⟨between, ran, sameTiming⟩ := firstQuiet bus serving
  have stillServing : between.link.phase = .serving :=
    (congrArg (·.1) sameTiming).trans serving
  obtain ⟨after, ranOn, unchanged⟩ := secondQuiet between stillServing
  refine ⟨after, ?_, unchanged.trans sameTiming⟩
  rw [EStateM.run_bind, ran]
  exact ranOn

theorem keepSound (address : UInt32) (value : UInt16) :
    IsQuiet (keepSound address value) :=
  modify fun _ => rfl

/-- A request that asks for no frames is quiet. -/
theorem request
    {asked : SoundRequest}
    (goesOn : asked ≠ .shutdown)
    (silent : asked.frames = 0) :
    IsQuiet (request asked) := by
  rintro ⟨memory, interrupts, counters, dma, ⟨worker, phase⟩⟩ serving
  cases serving
  refine ⟨⟨memory, interrupts, counters, dma, ⟨worker.serve asked, .serving⟩⟩, ?_, ?_⟩
  · simp only [Bus.request, EStateM.run, SoundLink.request, SoundLink.phaseAfter,
      if_neg goesOn]
  · simp only [timing, SoundLink.frames, worker.serve_frames asked, silent, Nat.add_zero]

/-- Quiet requests one after the other are quiet. -/
theorem requestEach
    {make : Nat → SoundRequest}
    (quiet : ∀ voice, IsQuiet (Bus.request (make voice)))
    (voices : List Nat) :
    IsQuiet (requestEach make voices) := by
  induction voices with
  | nil => exact fun bus _ => ⟨bus, rfl, rfl⟩
  | cons voice rest inductionHypothesis => exact (quiet voice).bind inductionHypothesis

/-- An effect takes no time and mixes no frame. -/
theorem effect
    {command : BusCommand}
    {effect : BusAction Unit}
    (has : command.effect? = some effect) :
    IsQuiet effect := by
  cases command <;> simp only [BusCommand.effect?, reduceCtorEq] at has
  case writeSound address value =>
    have kept := keepSound address value
    split at has <;> cases has
    · exact kept.bind (requestEach (fun _ => request (by simp) rfl) _)
    · exact kept.bind (requestEach (fun _ => request (by simp) rfl) _)
    · exact kept
    · exact kept.bind (request (by simp) rfl)
  case runTransfer =>
    cases has
    exact modify timing_moveBlock

end IsQuiet

/-- The timing after the frames that are due have been mixed. -/
def askedTiming (bus : Bus) : LinkPhase × (UInt32 × UInt32) × Nat :=
  (.serving, bus.counters.claimPeriods.times, bus.link.frames + bus.counters.periodsDue)

/-- A serving worker mixes what it is asked for. -/
theorem runAudio_of_serving
    {bus : Bus}
    (serving : bus.link.phase = .serving) :
    ∃ after, runAudio.run bus = .ok () after ∧ after.timing = bus.askedTiming := by
  obtain ⟨memory, interrupts, counters, dma, link⟩ := bus
  obtain ⟨asked, mixed, ran, sameTimes, stillServing, frames⟩ :=
    counters.runAudio_of_serving serving
  refine ⟨⟨memory, interrupts, asked, dma, mixed⟩, ?_, ?_⟩
  · simp only [runAudio, EStateM.run, ran]
  · simp only [timing, askedTiming, sameTimes, stillServing, frames]

/-- With a live worker the counters ask for audio when the frame pacer is due. -/
theorem updateCounters_of_serving
    {bus : Bus}
    (serving : bus.link.phase = .serving) :
    ∃ after,
      updateCounters.run bus = .ok () after ∧
        after.timing =
          if bus.counters.frame.isDue bus.counters.cycle then
            bus.askedTiming
          else
            bus.timing := by
  obtain ⟨memory, interrupts, counters, dma, link⟩ := bus
  by_cases due : counters.frame.isDue counters.cycle = true
  · obtain ⟨asked, mixed, ran, sameTimes, stillServing, frames⟩ :=
      (counters.rearm 3).runAudio_of_serving serving
    obtain ⟨sameDue, sameClaim⟩ :=
      CounterBank.due_of_times (CounterBank.times_of_beyond (counters.beyond_rearm 3))
    refine
      ⟨⟨memory, (asked.fireCounters (interrupts.request .vblank)).2,
        (asked.fireCounters (interrupts.request .vblank)).1, dma, mixed⟩, ?_, ?_⟩
    · simp only [updateCounters, EStateM.run, CounterBank.update, if_pos due, ran]
    · have unfired :=
        CounterBank.times_of_beyond (asked.beyond_fireCounters (interrupts.request .vblank))
      simp only [if_pos due, timing, askedTiming, unfired, sameTimes, sameClaim, stillServing,
        frames, sameDue]
  · refine
      ⟨⟨memory, (counters.fireCounters interrupts).2, (counters.fireCounters interrupts).1,
        dma, link⟩, ?_, ?_⟩
    · simp only [updateCounters, EStateM.run, CounterBank.update, if_neg due]
    · have unfired := CounterBank.times_of_beyond (counters.beyond_fireCounters interrupts)
      simp only [if_neg due, timing, unfired]

/-- A command with an effect first brings the audio up to the clock, and mixes no more. -/
theorem run_of_effect
    {bus : Bus}
    (serving : bus.link.phase = .serving)
    {command : BusCommand}
    {effect : BusAction Unit}
    (has : command.effect? = some effect) :
    ∃ synced after,
      runAudio.run bus = .ok () synced ∧
        effect.run synced = .ok () after ∧
        command.perform.run bus = .ok () after ∧
        synced.timing = bus.askedTiming ∧
        after.timing = bus.askedTiming := by
  obtain ⟨synced, ran, sameTiming⟩ := runAudio_of_serving serving
  obtain ⟨after, ranOn, unchanged⟩ :=
    IsQuiet.effect has synced (congrArg (·.1) sameTiming)
  refine ⟨synced, after, ran, ranOn, ?_, sameTiming, unchanged.trans sameTiming⟩
  rw [BusCommand.perform_of_effect has, EStateM.run_bind, ran]
  exact ranOn

/-- A command that succeeds leaves the bus as its run does. -/
theorem obey_of_run
    (command : BusCommand)
    {bus after : Bus}
    (ran : command.perform.run bus = .ok () after) :
    bus.obey command = after := by
  rw [obey, stateAfter, ran]

/-- A command to a bus with a live worker mixes what is due, or leaves the sound alone. -/
theorem timing_obey
    {bus : Bus}
    (serving : bus.link.phase = .serving)
    (command : BusCommand) :
    (bus.obey command).timing =
      if command.asks bus then
        bus.askedTiming
      else
        (.serving, ((bus.obey command).clock, bus.counters.audioCycle),
          bus.link.frames) := by
  have silent {after : Bus}
      (sameLink : after.link.phase = bus.link.phase ∧ after.link.frames = bus.link.frames)
      (sameAudio : after.counters.audioCycle = bus.counters.audioCycle) :
      after.timing =
        (.serving, (after.clock, bus.counters.audioCycle), bus.link.frames) := by
    rw [timing, CounterBank.times, sameLink.1, sameLink.2, sameAudio, serving]
    rfl
  have untouched {after : Bus} (same : after.timing = bus.timing) :
      after.timing =
        (.serving, (after.clock, bus.counters.audioCycle), bus.link.frames) :=
    silent ⟨congrArg (·.1) same, congrArg (·.2.2) same⟩ (congrArg (·.2.1.2) same)
  cases has : command.effect? with
  | some effect =>
      obtain ⟨synced, after, -, -, ran, -, sameTiming⟩ := run_of_effect serving has
      rw [obey_of_run command ran, sameTiming, if_pos (BusCommand.asks_of_effect bus has)]
  | none =>
      cases command with
      | advance cycles => exact silent ⟨rfl, rfl⟩ rfl
      | skipToDeadline =>
          refine silent ⟨rfl, rfl⟩ ?_
          change bus.counters.skipToDeadline.audioCycle = bus.counters.audioCycle
          unfold CounterBank.skipToDeadline
          split <;> rfl
      | updateCounters =>
          obtain ⟨after, ran, sameTiming⟩ := updateCounters_of_serving serving
          rw [obey_of_run .updateCounters ran, BusCommand.asks]
          by_cases due : bus.counters.frame.isDue bus.counters.cycle = true
          · rw [if_pos due] at sameTiming ⊢
            exact sameTiming
          · rw [if_neg due] at sameTiming ⊢
            exact untouched sameTiming
      | runAudio =>
          obtain ⟨after, ran, sameTiming⟩ := runAudio_of_serving serving
          rw [obey_of_run .runAudio ran, sameTiming]
          rfl
      | writeSound address value =>
          have asksNot : BusCommand.asks bus (.writeSound address value) = false :=
            congrArg Option.isSome has
          rw [if_neg (by simp [asksNot]), obey, BusCommand.perform_of_no_effect has]
          exact untouched ((isFlat_keepSound address value).stateAfter bus)
      | runTransfer => cases has
      | writeCounter index value register =>
          exact silent ⟨by cases register <;> rfl, by cases register <;> rfl⟩
            (congrArg Prod.snd
              (CounterBank.times_of_beyond (bus.beyond_writeCounter index value register)))
      | arrange memory interrupts dma => exact silent ⟨rfl, rfl⟩ rfl

end Bus

/-- A moment of a run: the bus, the cycles passed, and those when audio was last asked for. -/
structure Moment where
  bus : Bus
  elapsed : Nat
  asked : Nat

namespace Moment

def start (bus : Bus) : Moment :=
  ⟨bus, 0, 0⟩

/-- The moment after a command. -/
def obey (moment : Moment) (command : BusCommand) : Moment where
  bus := moment.bus.obey command
  elapsed := moment.elapsed + ((moment.bus.obey command).clock - moment.bus.clock).toNat
  asked := if command.asks moment.bus then moment.elapsed else moment.asked

def obeyAll (moment : Moment) (commands : List BusCommand) : Moment :=
  commands.foldl obey moment

/-- Cycles since audio was last asked for. -/
def gap (moment : Moment) : Nat :=
  moment.elapsed - moment.asked

/-- Cycles since the end of the last whole period when audio was last asked for. -/
def backlog (moment : Moment) : Nat :=
  moment.gap + moment.asked % samplePeriod

/-- Whenever audio is asked for, the time that `since` measures fits into the clock. -/
def Timely (since : Moment → Nat) : Moment → List BusCommand → Prop
  | _, [] => True
  | moment, command :: rest =>
      (command.asks moment.bus → since moment < 2 ^ 32) ∧
        Timely since (moment.obey command) rest

/-- Commands are in time if the first are and the others are behind them. -/
theorem timely_append
    (since : Moment → Nat)
    (moment : Moment)
    (first second : List BusCommand) :
    moment.Timely since (first ++ second) ↔
      moment.Timely since first ∧ (moment.obeyAll first).Timely since second := by
  induction first generalizing moment with
  | nil => exact ⟨fun timely => ⟨trivial, timely⟩, And.right⟩
  | cons command rest inductionHypothesis =>
      rw [List.cons_append, Timely, Timely, inductionHypothesis, and_assoc]
      rfl

/-- Counting cycles beside the bus does not change what becomes of it. -/
theorem bus_obeyAll (moment : Moment) (commands : List BusCommand) :
    (moment.obeyAll commands).bus = moment.bus.obeyAll commands := by
  induction commands generalizing moment with
  | nil => rfl
  | cons command rest inductionHypothesis => exact inductionHypothesis (moment.obey command)

/-- An advance of the clock is counted in full. -/
theorem elapsed_obey_advance (moment : Moment) (cycles : UInt32) :
    (moment.obey (.advance cycles)).elapsed = moment.elapsed + cycles.toNat := by
  have moved :
      (moment.bus.obey (.advance cycles)).clock - moment.bus.clock = cycles := by
    change moment.bus.clock + cycles - moment.bus.clock = cycles
    rw [UInt32.add_comm, UInt32.add_sub_cancel]
  rw [obey, moved]

/-- What takes no time counts no cycle. -/
theorem elapsed_obey_of_isFlat
    (command : BusCommand)
    (flat : IsFlat Bus.clock command.perform)
    (moment : Moment) :
    (moment.obey command).elapsed = moment.elapsed := by
  have same : (moment.bus.obey command).clock = moment.bus.clock :=
    flat.stateAfter moment.bus
  rw [obey, same, UInt32.sub_self]
  rfl

/-- Time does not go back. -/
theorem elapsed_le_obey (moment : Moment) (command : BusCommand) :
    moment.elapsed ≤ (moment.obey command).elapsed :=
  Nat.le_add_right _ _

/-- However many commands come, time does not go back. -/
theorem elapsed_le_obeyAll (moment : Moment) (commands : List BusCommand) :
    moment.elapsed ≤ (moment.obeyAll commands).elapsed := by
  induction commands generalizing moment with
  | nil => exact Nat.le_refl _
  | cons command rest inductionHypothesis =>
      exact Nat.le_trans (moment.elapsed_le_obey command)
        (inductionHypothesis (moment.obey command))

/-- Audio is not asked for ahead of time. -/
theorem past_obey
    {moment : Moment}
    (past : moment.asked ≤ moment.elapsed)
    (command : BusCommand) :
    (moment.obey command).asked ≤ (moment.obey command).elapsed := by
  refine Nat.le_trans ?_ (moment.elapsed_le_obey command)
  rw [obey]
  split
  · exact Nat.le_refl _
  · exact past

/-- As long as the whole time fits into the clock, everything is in time. -/
theorem timely_of_elapsed_lt
    {moment : Moment}
    (past : moment.asked ≤ moment.elapsed)
    {commands : List BusCommand}
    (short : (moment.obeyAll commands).elapsed < 2 ^ 32) :
    moment.Timely backlog commands := by
  induction commands generalizing moment with
  | nil => trivial
  | cons command rest inductionHypothesis =>
      refine ⟨fun _ => ?_, inductionHypothesis (past_obey past command) short⟩
      have carried := Nat.mod_le moment.asked samplePeriod
      have early := elapsed_le_obeyAll moment (command :: rest)
      unfold backlog gap
      omega

/-- The worker lives, and the frames are those of the time when audio was last asked for. -/
structure IsPaced (meter : Nat) (moment : Moment) : Prop where
  past : moment.asked ≤ moment.elapsed
  timing :
    moment.bus.timing =
      (.serving,
        (UInt32.ofNat moment.elapsed,
          UInt32.ofNat (moment.asked / samplePeriod * samplePeriod)),
        meter + moment.asked / samplePeriod)

namespace IsPaced

variable {meter : Nat} {moment : Moment} (paced : IsPaced meter moment)

include paced

/-- The worker serves. -/
theorem serving : moment.bus.link.phase = .serving :=
  congrArg (·.1) paced.timing

/-- The clock is the time that has passed, cut to a word. -/
theorem clock : moment.bus.clock = UInt32.ofNat moment.elapsed :=
  congrArg (·.2.1.1) paced.timing

/-- Audio has been mixed up to the end of a whole period. -/
theorem audioCycle :
    moment.bus.counters.audioCycle =
      UInt32.ofNat (moment.asked / samplePeriod * samplePeriod) :=
  congrArg (·.2.1.2) paced.timing

/-- The meter has counted the periods that have been asked for. -/
theorem frames : moment.bus.link.frames = meter + moment.asked / samplePeriod :=
  congrArg (·.2.2) paced.timing

/-- Frames are never ahead of the clock. -/
theorem frames_le : moment.bus.link.frames ≤ meter + moment.elapsed / samplePeriod := by
  rw [paced.frames]
  exact Nat.add_le_add_left (Nat.div_le_div_right paced.past) _

/-- Unless the clock has come round, what is asked for is what is missing. -/
theorem askedTiming (short : moment.backlog < 2 ^ 32) :
    moment.bus.askedTiming =
      (.serving,
        (UInt32.ofNat moment.elapsed,
          UInt32.ofNat (moment.elapsed / samplePeriod * samplePeriod)),
        meter + moment.elapsed / samplePeriod) := by
  have past := paced.past
  have period : samplePeriod = 384 := rfl
  have clock : moment.bus.counters.cycle = UInt32.ofNat moment.elapsed := paced.clock
  have due :
      moment.bus.counters.periodsDue =
        moment.elapsed / samplePeriod - moment.asked / samplePeriod := by
    -- The clock's distance from the audio clock is the backlog, which is short enough
    -- for the difference of 32 bits to be the true one.
    unfold backlog gap at short
    rw [CounterBank.periodsDue, clock, paced.audioCycle]
    rw [period] at short ⊢
    rw [toNat_ofNat_sub_ofNat (by omega) (by omega)]
    omega
  have claimed :
      moment.asked / samplePeriod * samplePeriod +
          (moment.elapsed / samplePeriod - moment.asked / samplePeriod) * samplePeriod =
        moment.elapsed / samplePeriod * samplePeriod := by
    rw [period]
    omega
  have mixed :
      meter + moment.asked / samplePeriod +
          (moment.elapsed / samplePeriod - moment.asked / samplePeriod) =
        meter + moment.elapsed / samplePeriod := by
    rw [period]
    omega
  simp only [Bus.askedTiming, CounterBank.claimPeriods, CounterBank.times, clock,
    paced.audioCycle, paced.frames, due, ← UInt32.ofNat_add, claimed, mixed]

/-- A command that asks for audio in time leaves the run paced. -/
theorem obey
    (command : BusCommand)
    (short : command.asks moment.bus → moment.backlog < 2 ^ 32) :
    IsPaced meter (moment.obey command) := by
  have timing := Bus.timing_obey paced.serving command
  by_cases asks : command.asks moment.bus = true
  · rw [if_pos asks, paced.askedTiming (short asks)] at timing
    have sameClock : (moment.bus.obey command).clock = moment.bus.clock :=
      (congrArg (·.2.1.1) timing).trans paced.clock.symm
    have elapsed : (moment.obey command).elapsed = moment.elapsed := by
      simp only [Moment.obey, sameClock, UInt32.sub_self]
      rfl
    have asked : (moment.obey command).asked = moment.elapsed := if_pos asks
    refine ⟨past_obey paced.past command, ?_⟩
    rw [asked, elapsed]
    exact timing
  · rw [if_neg asks, paced.audioCycle, paced.frames] at timing
    have asked : (moment.obey command).asked = moment.asked := if_neg asks
    have clock :
        UInt32.ofNat (moment.obey command).elapsed = (moment.bus.obey command).clock := by
      rw [Moment.obey, paced.clock]
      exact ofNat_add_toNat_sub _ _
    refine ⟨past_obey paced.past command, ?_⟩
    rw [asked, clock]
    exact timing

/-- Commands that come in time keep the pace. -/
theorem obeyAll
    {commands : List BusCommand}
    (timely : moment.Timely backlog commands) :
    IsPaced meter (moment.obeyAll commands) := by
  induction commands generalizing moment with
  | nil => exact paced
  | cons command rest inductionHypothesis =>
      obtain ⟨short, laterTimely⟩ := timely
      exact inductionHypothesis (paced.obey command short) laterTimely

end IsPaced

end Moment

namespace Bus

/-- Nothing has been asked for, and the clock stands at zero. -/
def IsFresh (bus : Bus) : Prop :=
  bus.timing = (.serving, (0, 0), bus.link.frames)

/-- Cycles that commands take. -/
def elapsed (bus : Bus) (commands : List BusCommand) : Nat :=
  ((Moment.start bus).obeyAll commands).elapsed

/-- Frames that are due after commands. -/
def framesDue (bus : Bus) (commands : List BusCommand) : Nat :=
  bus.link.frames + bus.elapsed commands / samplePeriod

/-- Whenever commands ask for audio, the time that `since` measures fits into the clock. -/
def Timely (bus : Bus) (since : Moment → Nat) (commands : List BusCommand) : Prop :=
  (Moment.start bus).Timely since commands

/-- A run shorter than the clock's range is in time throughout. -/
theorem timely_of_elapsed_lt
    {bus : Bus}
    {commands : List BusCommand}
    (short : bus.elapsed commands < 2 ^ 32) :
    bus.Timely Moment.backlog commands :=
  Moment.timely_of_elapsed_lt (Nat.le_refl 0) short

/-- From power-on or a reset the pace is kept while commands come in time. -/
theorem IsFresh.paced
    {bus : Bus}
    (fresh : bus.IsFresh)
    {commands : List BusCommand}
    (timely : bus.Timely Moment.backlog commands) :
    Moment.IsPaced bus.link.frames ((Moment.start bus).obeyAll commands) := by
  have started : Moment.IsPaced bus.link.frames (Moment.start bus) :=
    ⟨Nat.le_refl 0, fresh.trans (by simp [Moment.start])⟩
  exact started.obeyAll timely

/-- The audio of a run is exact at each effect, and never ahead of the clock. -/
structure KeepsPace (bus : Bus) (commands : List BusCommand) : Prop where
  /-- An effect goes through on the audio brought up to the clock, and mixes no frame. -/
  effects :
    ∀ earlier command later effect,
      commands = earlier ++ command :: later →
      command.effect? = some effect →
      ∃ synced after,
        runAudio.run (bus.obeyAll earlier) = .ok () synced ∧
          effect.run synced = .ok () after ∧
          command.perform.run (bus.obeyAll earlier) = .ok () after ∧
          synced.link.frames = bus.framesDue earlier ∧
          after.timing = synced.timing
  notAhead :
    ∀ earlier,
      earlier <+: commands → (bus.obeyAll earlier).link.frames ≤ bus.framesDue earlier

/-- A fresh bus keeps pace if it is asked for audio in time. -/
theorem IsFresh.keepsPace
    {bus : Bus}
    (fresh : bus.IsFresh)
    {commands : List BusCommand}
    (timely : bus.Timely Moment.backlog commands) :
    bus.KeepsPace commands := by
  constructor
  · rintro earlier command later effect rfl has
    obtain ⟨timelyBefore, timelyAfter⟩ := (Moment.timely_append _ _ _ _).mp timely
    have paced := fresh.paced timelyBefore
    have serving := paced.serving
    have asked := paced.askedTiming (timelyAfter.1 (BusCommand.asks_of_effect _ has))
    rw [Moment.bus_obeyAll] at serving asked
    obtain ⟨synced, after, ran, ranOn, performed, sameTiming, unchanged⟩ :=
      run_of_effect serving has
    refine
      ⟨synced, after, ran, ranOn, performed, ?_, unchanged.trans sameTiming.symm⟩
    exact congrArg (·.2.2) (sameTiming.trans asked)
  · rintro earlier ⟨later, rfl⟩
    have paced := fresh.paced ((Moment.timely_append _ _ _ _).mp timely).1
    have behind := paced.frames_le
    rw [Moment.bus_obeyAll] at behind
    exact behind

end Bus

end PsxPlayer
