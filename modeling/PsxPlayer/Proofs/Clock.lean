import PsxPlayer.Bus

namespace PsxPlayer

/-!
# Actions that leave the clock alone

Only the fetch of an instruction moves the clock.  Whatever else the bus does, the
clock stays, and no fault of it is one of nesting.
-/

/--
An action is flat if it never runs out of nesting and `view` shows the same after it,
whether it fails or not.
-/
def IsFlat
    {σ α β : Type}
    (view : σ → β)
    (action : EStateM Fault σ α) :
    Prop :=
  ∀ state,
    match action.run state with
    | .ok _ after => view after = view state
    | .error fault failed => fault ≠ .nestingTooDeep ∧ view failed = view state

namespace IsFlat

variable {σ α β γ : Type} {view : σ → β}

/-- What does nothing is flat. -/
theorem pure (value : α) : IsFlat view (Pure.pure value : EStateM Fault σ α) := by
  intro state
  rfl

/-- Flat actions one after the other are flat. -/
theorem bind
    {action : EStateM Fault σ α}
    {next : α → EStateM Fault σ γ}
    (first : IsFlat view action)
    (second : ∀ value, IsFlat view (next value)) :
    IsFlat view (action >>= next) := by
  intro state
  have firstFlat := first state
  rw [EStateM.run_bind]
  cases ran : action.run state with
  | error fault failed =>
      rw [ran] at firstFlat
      exact firstFlat
  | ok value between =>
      rw [ran] at firstFlat
      have secondFlat := second value between
      simp only
      cases ranOn : (next value).run between with
      | ok result after =>
          rw [ranOn] at secondFlat
          exact secondFlat.trans firstFlat
      | error fault failed =>
          rw [ranOn] at secondFlat
          exact ⟨secondFlat.1, secondFlat.2.trans firstFlat⟩

theorem ite
    {condition : Prop} [Decidable condition]
    {first second : EStateM Fault σ α}
    (firstFlat : condition → IsFlat view first)
    (secondFlat : ¬condition → IsFlat view second) :
    IsFlat view (if condition then first else second) := by
  split
  · next holds => exact firstFlat holds
  · next fails => exact secondFlat fails

/-- What leaves a view alone leaves every part of it alone. -/
theorem map
    {action : EStateM Fault σ α}
    (flat : IsFlat view action)
    (part : β → γ) :
    IsFlat (fun state => part (view state)) action := by
  intro state
  have same := flat state
  cases ran : action.run state with
  | ok value after =>
      rw [ran] at same
      exact congrArg part same
  | error fault failed =>
      rw [ran] at same
      exact ⟨same.1, congrArg part same.2⟩

/-- A change that `view` does not show is flat. -/
theorem modify
    {action : EStateM Fault σ α}
    {value : σ → α}
    {change : σ → σ}
    (changes : ∀ state, action.run state = .ok (value state) (change state))
    (same : ∀ state, view (change state) = view state) :
    IsFlat view action := by
  intro state
  rw [changes]
  exact same state

end IsFlat

namespace CounterBank

variable (bank : CounterBank) (index : Nat)

/-- The clock, and the clock up to which audio has been asked for. -/
def times : UInt32 × UInt32 :=
  (bank.cycle, bank.audioCycle)

/-- What the bank holds beyond its counters: its clocks and the frame rate. -/
def beyond : (UInt32 × UInt32) × Nat :=
  (bank.times, bank.vsyncRate)

/-- A change of one counter changes nothing beyond the counters. -/
@[simp]
theorem beyond_set (counter : Counter) : (bank.set index counter).beyond = bank.beyond := by
  unfold set
  split <;> rfl

@[simp]
theorem beyond_rearm : (bank.rearm index).beyond = bank.beyond :=
  beyond_set _ _ _

@[simp]
theorem beyond_schedule : bank.schedule.beyond = bank.beyond :=
  rfl

/-- Writing a count changes nothing beyond the counters. -/
theorem beyond_writeCount (value : UInt32) :
    (bank.writeCount index value).beyond = bank.beyond := by
  simp only [writeCount, beyond_schedule, beyond_rearm, beyond_set]

/-- Writing a mode changes nothing beyond the counters. -/
theorem beyond_writeMode (value : UInt32) :
    (bank.writeMode index value).beyond = bank.beyond := by
  simp only [writeMode, beyond_schedule, beyond_rearm, beyond_set]

/-- Writing a target changes nothing beyond the counters. -/
theorem beyond_writeTarget (value : UInt32) :
    (bank.writeTarget index value).beyond = bank.beyond := by
  simp only [writeTarget, beyond_schedule, beyond_rearm, beyond_set]

/-- A counter that fires changes nothing beyond the counters. -/
theorem beyond_fireIfDue (state : CounterBank × InterruptController) :
    (fireIfDue state index).1.beyond = state.1.beyond := by
  unfold fireIfDue
  simp only
  split
  · exact beyond_set _ _ _
  · rfl

/-- Counters that fire change nothing beyond the counters. -/
theorem beyond_fireCounters (interrupts : InterruptController) :
    (bank.fireCounters interrupts).1.beyond = bank.beyond := by
  have fired (indices : List Nat) (state : CounterBank × InterruptController) :
      (indices.foldl fireIfDue state).1.beyond = state.1.beyond := by
    induction indices generalizing state with
    | nil => rfl
    | cons index rest inductionHypothesis =>
        rw [List.foldl_cons, inductionHypothesis, beyond_fireIfDue]
  have unchanged := fired [0, 1, 2] (bank, interrupts)
  unfold fireCounters
  generalize [0, 1, 2].foldl fireIfDue (bank, interrupts) = state at unchanged ⊢
  rcases state with ⟨served, lines⟩
  exact unchanged

section

variable {before after : CounterBank}

/-- Programming or firing counters leaves the clocks alone. -/
theorem times_of_beyond (same : after.beyond = before.beyond) : after.times = before.times :=
  congrArg Prod.fst same

/-- The clock is beyond the counters. -/
theorem cycle_of_beyond (same : after.beyond = before.beyond) : after.cycle = before.cycle :=
  congrArg Prod.fst (times_of_beyond same)

/-- The length of a frame is beyond the counters. -/
theorem vsyncRate_of_beyond (same : after.beyond = before.beyond) :
    after.vsyncRate = before.vsyncRate :=
  congrArg Prod.snd same

/-- Which periods are due depends on the clocks alone. -/
theorem due_of_times (same : after.times = before.times) :
    after.periodsDue = before.periodsDue ∧
      after.claimPeriods.times = before.claimPeriods.times := by
  obtain ⟨sameCycle, sameAudio⟩ := Prod.mk.inj same
  have sameDue : after.periodsDue = before.periodsDue := by
    unfold periodsDue
    rw [sameCycle, sameAudio]
  refine ⟨sameDue, ?_⟩
  simp only [claimPeriods, times, sameCycle, sameAudio, sameDue]

end

/-- Asking for the samples that are due can only fail because the worker is gone. -/
theorem runAudio_keeps (link : SoundLink Tape) :
    (bank.runAudio link).1.cycle = bank.cycle ∧
      ∀ fault failed,
        (bank.runAudio link).2 = .error fault failed →
        fault = .workerGone := by
  unfold runAudio
  split
  · refine ⟨rfl, ?_⟩
    intro fault failed raised
    cases raised
  · refine ⟨rfl, ?_⟩
    intro fault failed raised
    rcases link with ⟨worker, phase⟩
    simp only [SamplePacer.synthesize] at raised
    split at raised
    · cases raised
    · cases phase with
      | serving => cases raised
      | ended =>
          cases raised
          rfl
      | closed =>
          cases raised
          rfl

/-- A service of the counters can only fail because the worker is gone. -/
theorem update_keeps
    (interrupts : InterruptController)
    (link : SoundLink Tape) :
    (bank.update interrupts link).bank.cycle = bank.cycle ∧
      ∀ fault failed,
        (bank.update interrupts link).pacer = .error fault failed → fault = .workerGone := by
  unfold update
  split
  · obtain ⟨sameCycle, onlyGone⟩ := (bank.rearm 3).runAudio_keeps link
    simp only
    split
    · next asked found =>
        rw [found] at sameCycle
        refine ⟨?_, ?_⟩
        · rw [cycle_of_beyond (beyond_fireCounters _ _), sameCycle,
            cycle_of_beyond (beyond_rearm _ _)]
        · intro fault failed raised
          cases raised
    · next asked fault failed found =>
        rw [found] at sameCycle onlyGone
        refine ⟨sameCycle.trans (cycle_of_beyond (beyond_rearm _ _)), ?_⟩
        intro other last raised
        cases raised
        exact onlyGone _ _ rfl
  · refine ⟨cycle_of_beyond (beyond_fireCounters _ _), ?_⟩
    intro fault failed raised
    cases raised

end CounterBank

namespace Bus

/-- The clock of the machine. -/
def clock (bus : Bus) : UInt32 :=
  bus.counters.cycle

/-- Serving the counters takes no time. -/
theorem isFlat_updateCounters : IsFlat clock updateCounters := by
  rintro ⟨memory, interrupts, counters, dma, link⟩
  obtain ⟨sameCycle, onlyGone⟩ := counters.update_keeps interrupts link
  simp only [updateCounters, EStateM.run]
  generalize counters.update interrupts link = served at sameCycle onlyGone
  rcases served with ⟨bank, lines, pacer⟩
  cases pacer with
  | ok value link => exact sameCycle
  | error fault failed =>
      obtain rfl := onlyGone fault failed rfl
      exact ⟨by decide, sameCycle⟩

/-- What asking for audio and writing sound registers leave alone. -/
def beside (bus : Bus) : UInt32 × AddressSpace × InterruptController × DmaController :=
  (bus.clock, bus.memory, bus.interrupts, bus.dma)

/-- What leaves alone what is beside the sound leaves the clock alone. -/
theorem isFlat_clock_of_beside
    {α : Type}
    {action : BusAction α}
    (flat : IsFlat beside action) :
    IsFlat clock action :=
  flat.map Prod.fst

/-- Asking for audio leaves what is beside the sound. -/
theorem isFlat_beside_runAudio : IsFlat beside runAudio := by
  rintro ⟨memory, interrupts, counters, dma, link⟩
  obtain ⟨sameCycle, onlyGone⟩ := counters.runAudio_keeps link
  simp only [runAudio, EStateM.run]
  generalize counters.runAudio link = asked at sameCycle onlyGone
  rcases asked with ⟨bank, pacer⟩
  have same (link : SoundLink Tape) :
      beside ⟨memory, interrupts, bank, dma, link⟩ =
        (counters.cycle, memory, interrupts, dma) :=
    congrArg (·, memory, interrupts, dma) sameCycle
  cases pacer with
  | ok value link => exact same link
  | error fault failed =>
      obtain rfl := onlyGone fault failed rfl
      exact ⟨by decide, same failed⟩

/-- Asking for audio takes no time. -/
theorem isFlat_runAudio : IsFlat clock runAudio :=
  isFlat_clock_of_beside isFlat_beside_runAudio

/-- What shows how far time and sound have come. -/
def timing (bus : Bus) : LinkPhase × (UInt32 × UInt32) × Nat :=
  (bus.link.phase, bus.counters.times, bus.link.frames)

/-- What leaves time and sound where they are leaves the clock alone. -/
theorem isFlat_clock
    {α : Type}
    {action : BusAction α}
    (flat : IsFlat timing action) :
    IsFlat clock action :=
  flat.map fun shown => shown.2.1.1

/-- A request leaves what is beside the sound. -/
theorem isFlat_request (asked : SoundRequest) : IsFlat beside (request asked) := by
  rintro ⟨memory, interrupts, counters, dma, ⟨worker, phase⟩⟩
  cases phase with
  | serving => rfl
  | ended => exact ⟨by decide, rfl⟩
  | closed => exact ⟨by decide, rfl⟩

theorem isFlat_keepSound (address : UInt32) (value : UInt16) :
    IsFlat timing (keepSound address value) :=
  .modify (fun _ => rfl) fun _ => rfl

/-- Requests one after the other leave what each of them leaves. -/
theorem isFlat_requestEach
    {β : Type}
    {view : Bus → β}
    {make : Nat → SoundRequest}
    {voices : List Nat}
    (flat : ∀ voice, voice ∈ voices → IsFlat view (request (make voice))) :
    IsFlat view (requestEach make voices) := by
  induction voices with
  | nil => exact .pure ()
  | cons voice rest inductionHypothesis =>
      exact .bind (flat voice (.head _)) fun _ =>
        inductionHypothesis fun later member => flat later (.tail _ member)

/-- Writing a sound register leaves what is beside the sound. -/
theorem isFlat_writeSoundRegister (address : UInt32) (value : UInt16) :
    IsFlat beside (writeSoundRegister address value) := by
  have kept : IsFlat beside (keepSound address value) := .modify (fun _ => rfl) fun _ => rfl
  unfold writeSoundRegister
  split
  · exact .bind isFlat_beside_runAudio fun _ =>
      .bind kept fun _ => isFlat_requestEach fun _ _ => isFlat_request _
  · exact .bind isFlat_beside_runAudio fun _ =>
      .bind kept fun _ => isFlat_requestEach fun _ _ => isFlat_request _
  · exact .bind isFlat_beside_runAudio fun _ => kept
  · exact .bind isFlat_beside_runAudio fun _ => .bind kept fun _ => isFlat_request _
  · exact kept

/-- Writing sound registers at any width leaves what is beside the sound. -/
theorem isFlat_writeSound (width : Width) (address value : UInt32) :
    IsFlat beside (writeSound width address value) := by
  cases width with
  | word =>
      exact .bind (isFlat_writeSoundRegister _ _) fun _ => isFlat_writeSoundRegister _ _
  | half => exact isFlat_writeSoundRegister _ _
  | byte =>
      exact .bind (.modify (fun _ => rfl) fun _ => rfl) fun _ =>
        isFlat_writeSoundRegister _ _

/-- Moving a block takes no time and mixes nothing. -/
theorem timing_moveBlock (bus : Bus) : bus.moveBlock.timing = bus.timing := by
  unfold moveBlock
  simp only
  split
  · split <;> rfl
  · split <;> rfl

/-- A transfer is over at once. -/
theorem isFlat_moveBlock :
    IsFlat timing (modify fun bus => bus.moveBlock.completeTransfer : BusAction Unit) :=
  .modify (fun _ => rfl) timing_moveBlock

/-- A transfer takes no time. -/
theorem isFlat_runTransfer : IsFlat clock runTransfer :=
  .bind isFlat_runAudio fun _ => isFlat_clock isFlat_moveBlock

/-- Writing a counter register changes nothing beyond the counters. -/
theorem beyond_writeCounter
    (bus : Bus)
    (index : Nat)
    (value : UInt32)
    (register : CounterRegister) :
    (bus.writeCounter index value register).counters.beyond = bus.counters.beyond := by
  cases register with
  | count => exact CounterBank.beyond_writeCount _ _ _
  | mode => exact CounterBank.beyond_writeMode _ _ _
  | target => exact CounterBank.beyond_writeTarget _ _ _
  | unused => rfl

/-- Writing a device register takes no time. -/
theorem isFlat_writeDevice (width : Width) (address value : UInt32) (port : Port) :
    IsFlat clock (writeDevice width address value port) := by
  cases port with
  | dmaControl =>
      refine .bind (.modify (fun _ => rfl) fun _ => rfl) fun _ =>
        .bind (.modify (fun _ => rfl) fun _ => rfl) fun _ => ?_
      exact .ite (fun _ => isFlat_runTransfer) fun _ => .pure ()
  | counter index register =>
      exact .modify (fun _ => rfl) fun bus =>
        CounterBank.cycle_of_beyond (bus.beyond_writeCounter index _ register)
  | sound => exact isFlat_clock_of_beside (isFlat_writeSound width address value)
  | _ => exact .modify (fun _ => rfl) fun _ => rfl

/-- A store does not move the clock. -/
theorem isFlat_write (width : Width) (address value : UInt32) :
    IsFlat clock (write width address value) := by
  have toMemory : IsFlat clock (writeMemory width address value) :=
    .modify (fun _ => rfl) fun _ => rfl
  unfold write
  split
  · split
    · exact isFlat_writeDevice _ _ _ _
    · exact toMemory
  · exact toMemory

end Bus

end PsxPlayer
