import PsxPlayer.Proofs.Bus
import PsxPlayer.Proofs.Sound.Recording
import PsxPlayer.Proofs.Sound.WellFormed

namespace PsxPlayer

/-!
# What the sound processor is asked for

Whatever the bus does to the sound processor, it does by the sound processor's own commands.
So what these keep is kept in every run of the machine.
-/

/-- What a sound processor can become by commands. -/
def SoundProcessor.Becomes (before after : SoundProcessor) : Prop :=
  ∃ commands, after = before.obeyAll commands

namespace SoundProcessor.Becomes

theorem refl (sound : SoundProcessor) : sound.Becomes sound :=
  ⟨[], rfl⟩

theorem command (sound : SoundProcessor) (command : Command) :
    sound.Becomes (sound.obey command) :=
  ⟨[command], rfl⟩

/-- What two stretches of requests lead to, one stretch of requests leads to. -/
theorem trans
    {before between after : SoundProcessor}
    (first : before.Becomes between)
    (second : between.Becomes after) :
    before.Becomes after := by
  obtain ⟨commands, rfl⟩ := first
  obtain ⟨others, rfl⟩ := second
  exact ⟨commands ++ others, (obeyAll_append _ _ _).symm⟩

/-- Commands keep a sound processor well-formed. -/
theorem wellFormed
    {before after : SoundProcessor}
    (becomes : before.Becomes after)
    (wellFormed : before.WellFormed) :
    after.WellFormed := by
  obtain ⟨commands, rfl⟩ := becomes
  induction commands generalizing before with
  | nil => exact wellFormed
  | cons command rest inductionHypothesis =>
      exact inductionHypothesis (wellFormed.obey command)

end SoundProcessor.Becomes

/-- A request is served by commands; one that is refused changes nothing. -/
theorem SoundLink.becomes_request (asked : SoundRequest) (link : SoundLink Tape) :
    link.sound.Becomes (stateAfter (SoundLink.request asked) link).sound := by
  obtain ⟨worker, phase⟩ := link
  cases phase with
  | serving => exact ⟨asked.commands, (worker.serve_records asked).1⟩
  | ended => exact .refl _
  | closed => exact .refl _

namespace CounterBank

/-- The samples that are due are a request. -/
theorem becomes_runAudio (bank : CounterBank) (link : SoundLink Tape) :
    link.sound.Becomes (stateAfter (fun link => (bank.runAudio link).2) link).sound := by
  unfold runAudio
  by_cases noneDue : bank.periodsDue = 0
  · simp only [if_pos noneDue]
    exact .refl _
  · simp only [if_neg noneDue, SamplePacer.synthesize]
    exact link.becomes_request _

/--
Bringing the counters up to date changes the processor by its own commands alone: the
mixing of the due frames is one of them.
-/
theorem becomes_update
    (bank : CounterBank)
    (interrupts : InterruptController)
    (link : SoundLink Tape) :
    link.sound.Becomes
      (stateAfter (fun link => (bank.update interrupts link).pacer) link).sound := by
  by_cases due : bank.frame.isDue bank.cycle = true
  · have served :
        (bank.update interrupts link).pacer = ((bank.rearm 3).runAudio link).2 := by
      simp only [update, if_pos due]
      generalize (bank.rearm 3).runAudio link = served
      obtain ⟨served, result⟩ := served
      cases result <;> rfl
    have asked := (bank.rearm 3).becomes_runAudio link
    simp only [stateAfter, EStateM.run] at asked ⊢
    rwa [served]
  · have served : (bank.update interrupts link).pacer = .ok () link := by
      simp only [update, if_neg due]
    simp only [stateAfter, EStateM.run, served]
    exact .refl _

end CounterBank

namespace Bus

/-- An action does to the sound processor what commands do. -/
def AsksOnly {α : Type} (action : BusAction α) : Prop :=
  ∀ bus : Bus, bus.link.sound.Becomes (stateAfter action bus).link.sound

namespace AsksOnly

variable {α β : Type}

/-- A sequence asks only when each of its parts does. -/
theorem bind
    {action : BusAction α}
    {next : α → BusAction β}
    (first : AsksOnly action)
    (second : ∀ value, AsksOnly (next value)) :
    AsksOnly (action >>= next) := by
  intro bus
  have before := first bus
  rw [stateAfter_bind]
  unfold stateAfter at before
  cases ran : action.run bus with
  | ok value between =>
      rw [ran] at before
      exact before.trans (second value between)
  | error fault failed =>
      rw [ran] at before
      exact before

/-- An action which leaves the sound processor alone asks nothing of it. -/
theorem of_same
    {action : BusAction α}
    (same : ∀ bus, (stateAfter action bus).link.sound = bus.link.sound) :
    AsksOnly action := by
  intro bus
  rw [same bus]
  exact .refl _

end AsksOnly

/-- A request to the worker is one command of the processor. -/
theorem asksOnly_request (asked : SoundRequest) : AsksOnly (request asked) := by
  rintro ⟨memory, interrupts, counters, dma, link⟩
  have served := link.becomes_request asked
  simp only [stateAfter, request, EStateM.run] at served ⊢
  generalize SoundLink.request asked link = result at served ⊢
  cases result <;> exact served

theorem asksOnly_requestEach (make : Nat → SoundRequest) (voices : List Nat) :
    AsksOnly (requestEach make voices) := by
  induction voices with
  | nil => exact .of_same fun _ => rfl
  | cons voice rest inductionHypothesis =>
      exact .bind (asksOnly_request (make voice)) fun _ => inductionHypothesis

/-- The audio of the due frames is asked for and not written past the processor. -/
theorem asksOnly_runAudio : AsksOnly runAudio := by
  rintro ⟨memory, interrupts, counters, dma, link⟩
  have asked := counters.becomes_runAudio link
  simp only [stateAfter, runAudio, EStateM.run] at asked ⊢
  generalize counters.runAudio link = served at asked ⊢
  obtain ⟨served, result⟩ := served
  cases result <;> exact asked

theorem asksOnly_updateCounters : AsksOnly updateCounters := by
  rintro ⟨memory, interrupts, counters, dma, link⟩
  have asked := counters.becomes_update interrupts link
  simp only [stateAfter, updateCounters, EStateM.run] at asked ⊢
  generalize counters.update interrupts link = served at asked ⊢
  obtain ⟨served, lines, result⟩ := served
  cases result <;> exact asked

theorem asksOnly_keepSound (address : UInt32) (value : UInt16) :
    AsksOnly (keepSound address value) :=
  fun bus => .command bus.link.sound (.write address value)

/--
A write to a register of the processor reaches it as commands, whichever register it is.
-/
theorem asksOnly_writeSoundRegister (address : UInt32) (value : UInt16) :
    AsksOnly (writeSoundRegister address value) := by
  have kept := asksOnly_keepSound address value
  unfold writeSoundRegister
  split
  · exact .bind asksOnly_runAudio fun _ => .bind kept fun _ => asksOnly_requestEach _ _
  · exact .bind asksOnly_runAudio fun _ => .bind kept fun _ => asksOnly_requestEach _ _
  · exact .bind asksOnly_runAudio fun _ => kept
  · exact .bind asksOnly_runAudio fun _ => .bind kept fun _ => asksOnly_request _
  · exact kept

/-- A block transfer moves sound RAM by the commands of the data port. -/
theorem becomes_moveBlock (bus : Bus) : bus.link.sound.Becomes bus.moveBlock.link.sound := by
  unfold moveBlock
  dsimp only
  split
  · split
    · next block found => exact .command bus.link.sound (.pushBlock block)
    · exact .refl _
  · split
    · exact .command bus.link.sound (.popBlock (transferLength bus.dma.channel))
    · exact .refl _

theorem asksOnly_runTransfer : AsksOnly runTransfer :=
  .bind asksOnly_runAudio fun _ bus => becomes_moveBlock bus

/-- Each command to the bus asks the sound processor for commands. -/
theorem asksOnly_perform (command : BusCommand) : AsksOnly command.perform := by
  cases command with
  | advance cycles => exact .of_same fun _ => rfl
  | skipToDeadline => exact .of_same fun _ => rfl
  | updateCounters => exact asksOnly_updateCounters
  | runAudio => exact asksOnly_runAudio
  | writeSound address value => exact asksOnly_writeSoundRegister address value
  | runTransfer => exact asksOnly_runTransfer
  | writeCounter index value register => exact .of_same fun _ => by cases register <;> rfl
  | arrange memory interrupts dma => exact .of_same fun _ => rfl

/-- In a run of commands to the bus the sound processor gets commands and nothing else. -/
theorem becomes_obeyAll (bus : Bus) (commands : List BusCommand) :
    bus.link.sound.Becomes (bus.obeyAll commands).link.sound := by
  induction commands generalizing bus with
  | nil => exact .refl _
  | cons command rest inductionHypothesis =>
      exact (asksOnly_perform command bus).trans (inductionHypothesis (bus.obey command))

end Bus

end PsxPlayer
