import PsxPlayer.Proofs.Bus
import PsxPlayer.Proofs.Sound.Recording

namespace PsxPlayer

/-!
# What does not depend on the recording

No action on the bus depends on what has been recorded.  Nor does any change the frame
rate, or undo the set-up of memory.
-/

namespace CounterBank

/-- Skipping idle time leaves the length of a frame. -/
theorem vsyncRate_skipToDeadline (bank : CounterBank) :
    bank.skipToDeadline.vsyncRate = bank.vsyncRate := by
  unfold skipToDeadline
  split <;> rfl

section

variable {past : List Int} {first second : SoundLink Tape}

/-- Asking for the frames that are due comes out alike, at the same frame rate. -/
theorem runAudio_alike (bank : CounterBank) (follows : first.Follows past second) :
    (bank.runAudio first).1 = (bank.runAudio second).1 ∧
      (bank.runAudio second).1.vsyncRate = bank.vsyncRate ∧
      EndAlike (SoundLink.Follows past) (bank.runAudio first).2 (bank.runAudio second).2 := by
  unfold runAudio
  split
  · exact ⟨rfl, rfl, .ok () follows⟩
  · exact ⟨rfl, rfl, SoundLink.respects_synthesize _ _ _ follows⟩

/-- Serving the counters does not depend on what has been recorded. -/
theorem update_alike
    (bank : CounterBank)
    (interrupts : InterruptController)
    (follows : first.Follows past second) :
    (bank.update interrupts first).bank = (bank.update interrupts second).bank ∧
      (bank.update interrupts first).interrupts =
        (bank.update interrupts second).interrupts ∧
      (bank.update interrupts second).bank.vsyncRate = bank.vsyncRate ∧
      EndAlike (SoundLink.Follows past)
        (bank.update interrupts first).pacer (bank.update interrupts second).pacer := by
  simp only [update]
  split
  · obtain ⟨sameBank, sameRate, alike⟩ := (bank.rearm 3).runAudio_alike follows
    rw [vsyncRate_of_beyond (bank.beyond_rearm 3)] at sameRate
    generalize (bank.rearm 3).runAudio first = asked,
      (bank.rearm 3).runAudio second = otherAsked at sameBank sameRate alike
    obtain ⟨asked, result⟩ := asked
    obtain ⟨otherAsked, otherResult⟩ := otherAsked
    obtain rfl : asked = otherAsked := sameBank
    cases alike with
    | ok value alike =>
        have unfired :=
          vsyncRate_of_beyond (asked.beyond_fireCounters (interrupts.request .vblank))
        exact ⟨rfl, rfl, unfired.trans sameRate, .ok _ alike⟩
    | error fault alike => exact ⟨rfl, rfl, sameRate, .error _ alike⟩
  · exact ⟨rfl, rfl, vsyncRate_of_beyond (bank.beyond_fireCounters _), .ok () follows⟩

end

end CounterBank

namespace AddressSpace

/-- Changing what a region stores maps nothing else. -/
theorem mapped_modifyStorage
    (space : AddressSpace)
    (region : Region)
    (change : ByteArray → ByteArray) :
    (space.modifyStorage region change).mapped = space.mapped := by
  cases region <;> rfl

/-- A store maps nothing else. -/
theorem mapped_write (space : AddressSpace) (width : Width) (address value : UInt32) :
    (space.write width address value).mapped = space.mapped := by
  unfold write
  split
  · rfl
  · exact mapped_modifyStorage _ _ _
  · rfl

/-- A block moved into RAM maps nothing else. -/
theorem mapped_ramSplice (space : AddressSpace) (address : UInt32) (run : ByteArray) :
    (space.ramSplice address run).mapped = space.mapped := by
  unfold ramSplice
  split
  · exact mapped_modifyStorage _ _ _
  · rfl

/-- Loading a program maps nothing else. -/
theorem mapped_load (space : AddressSpace) (address : UInt32) (data : ByteArray) :
    (space.load address data).mapped = space.mapped := by
  have loadedRun (space : AddressSpace) (address : UInt32) (run : ByteArray) :
      (space.loadRun address run).mapped = space.mapped := by
    unfold loadRun
    split
    · exact mapped_modifyStorage _ _ _
    · rfl
  unfold load
  fun_induction loadFrom space address data 0 with
  | case1 space address first more length after inductionHypothesis =>
      exact inductionHypothesis.trans (loadedRun _ _ _)
  | case2 space address first done => rfl

end AddressSpace

namespace Bus

/-- Memory is set up, and a reset paces frames at this rate. -/
structure IsSetUp (rate : Nat) (bus : Bus) : Prop where
  mapped : bus.memory.mapped = true
  rate : max bus.counters.vsyncRate 1 = rate

/--
The first bus is like the second, but had recorded `past` when the second had recorded
nothing.
-/
structure Follows (past : List Int) (first second : Bus) : Prop where
  memory : first.memory = second.memory
  interrupts : first.interrupts = second.interrupts
  counters : first.counters = second.counters
  dma : first.dma = second.dma
  link : first.link.Follows past second.link

/-- One bus follows another that is set up. -/
structure Tracks (past : List Int) (rate : Nat) (first second : Bus) : Prop where
  follows : first.Follows past second
  isSetUp : second.IsSetUp rate

/-- A bus is set up as long as the mapping and the length of a frame stay. -/
theorem IsSetUp.of_same
    {rate : Nat}
    {before after : Bus}
    (isSetUp : before.IsSetUp rate)
    (sameMapped : after.memory.mapped = before.memory.mapped)
    (sameRate : after.counters.vsyncRate = before.counters.vsyncRate) :
    after.IsSetUp rate :=
  ⟨sameMapped.trans isSetUp.mapped, (congrArg (max · 1) sameRate).trans isSetUp.rate⟩

/-- An action that does not depend on the recording, nor changes what is set up. -/
def IsDeaf {α : Type} (action : BusAction α) : Prop :=
  ∀ past rate, Respects (Tracks past rate) action

/-- The bus with another recording. -/
def withRecording (bus : Bus) (recording : Recording) : Bus :=
  { bus with link := bus.link.withRecording recording }

/-- A bus that follows another is that one with a recording of its own. -/
theorem Follows.exists_withRecording
    {past : List Int}
    {first second : Bus}
    (follows : first.Follows past second) :
    ∃ recording : Recording,
      first = second.withRecording recording ∧
        recording.samples = past ++ second.link.recorded := by
  obtain ⟨memory, interrupts, counters, dma, link⟩ := first
  obtain ⟨rfl, rfl, rfl, rfl, linkFollows⟩ := follows
  obtain ⟨recording, rfl, recorded⟩ := linkFollows.exists_withRecording
  exact ⟨recording, rfl, recorded⟩

section

variable {past : List Int} {rate : Nat} {α : Type}

/-- Looking at the bus, if what is done then does not depend on the recording. -/
theorem isDeaf_get
    {next : Bus → BusAction α}
    (unheard :
      ∀ (bus : Bus) (recording : Recording), next (bus.withRecording recording) = next bus)
    (deaf : ∀ bus, IsDeaf (next bus)) :
    IsDeaf (get >>= next) := by
  intro past rate
  refine .get fun first second tracks => ⟨?_, deaf second past rate⟩
  obtain ⟨recording, rfl, -⟩ := tracks.follows.exists_withRecording
  exact unheard second recording

/-- A change that neither looks at the recording nor adds to it. -/
theorem isDeaf_modify
    {change : Bus → Bus}
    (unheard :
      ∀ (bus : Bus) (recording : Recording),
        change (bus.withRecording recording) = (change bus).withRecording recording)
    (silent : ∀ bus : Bus, (change bus).link.recorded = bus.link.recorded)
    (isSetUp :
      ∀ bus : Bus,
        (change bus).memory.mapped = bus.memory.mapped ∧
          (change bus).counters.vsyncRate = bus.counters.vsyncRate) :
    IsDeaf (modify change) := by
  intro past rate
  refine .modify (fun _ => rfl) fun first second tracks => ⟨rfl, ?_⟩
  obtain ⟨recording, rfl, recorded⟩ := tracks.follows.exists_withRecording
  obtain ⟨sameMapped, sameRate⟩ := isSetUp second
  rw [unheard]
  rw [← silent] at recorded
  exact
    ⟨⟨rfl, rfl, rfl, rfl, SoundLink.follows_withRecording recorded⟩,
      tracks.isSetUp.of_same sameMapped sameRate⟩

end

section

variable {past : List Int} {rate : Nat}

/-- The bus around what has become of its link. -/
def aroundLink
    (memory : AddressSpace)
    (interrupts : InterruptController)
    (counters : CounterBank)
    (dma : DmaController) :
    EStateM.Result Fault (SoundLink Tape) Unit → EStateM.Result Fault Bus Unit
  | .ok _ link => .ok () ⟨memory, interrupts, counters, dma, link⟩
  | .error fault link => .error fault ⟨memory, interrupts, counters, dma, link⟩

/-- What ends alike on the link ends alike on the bus around it. -/
theorem aroundLink_alike
    {bus : Bus}
    {counters : CounterBank}
    {first second : EStateM.Result Fault (SoundLink Tape) Unit}
    (alike : EndAlike (SoundLink.Follows past) first second)
    (isSetUp : bus.IsSetUp rate)
    (sameRate : counters.vsyncRate = bus.counters.vsyncRate)
    (interrupts : InterruptController)
    (dma : DmaController) :
    EndAlike (Tracks past rate)
      (aroundLink bus.memory interrupts counters dma first)
      (aroundLink bus.memory interrupts counters dma second) := by
  cases alike with
  | ok value alike =>
      exact .ok () ⟨⟨rfl, rfl, rfl, rfl, alike⟩, isSetUp.of_same rfl sameRate⟩
  | error fault alike =>
      exact .error fault ⟨⟨rfl, rfl, rfl, rfl, alike⟩, isSetUp.of_same rfl sameRate⟩

end

/-- Serving the counters does not look at the recording. -/
theorem isDeaf_updateCounters : IsDeaf updateCounters := by
  rintro past rate ⟨memory, interrupts, counters, dma, first⟩
    ⟨_, _, _, _, second⟩ ⟨⟨rfl, rfl, rfl, rfl, linkFollows⟩, isSetUp⟩
  obtain ⟨sameBank, sameInterrupts, sameRate, alike⟩ :=
    counters.update_alike interrupts linkFollows
  have ran (link : SoundLink Tape) :
      updateCounters.run ⟨memory, interrupts, counters, dma, link⟩ =
        aroundLink memory (counters.update interrupts link).interrupts
          (counters.update interrupts link).bank dma
          (counters.update interrupts link).pacer := by
    simp only [updateCounters, EStateM.run]
    cases counters.update interrupts link with
    | mk bank lines pacer => cases pacer <;> rfl
  rw [ran, ran, sameBank, sameInterrupts]
  exact aroundLink_alike alike isSetUp sameRate _ _

/-- Asking for audio does not look at the recording. -/
theorem isDeaf_runAudio : IsDeaf runAudio := by
  rintro past rate ⟨memory, interrupts, counters, dma, first⟩
    ⟨_, _, _, _, second⟩ ⟨⟨rfl, rfl, rfl, rfl, linkFollows⟩, isSetUp⟩
  obtain ⟨sameBank, sameRate, alike⟩ := counters.runAudio_alike linkFollows
  have ran (link : SoundLink Tape) :
      runAudio.run ⟨memory, interrupts, counters, dma, link⟩ =
        aroundLink memory interrupts (counters.runAudio link).1 dma
          (counters.runAudio link).2 := by
    simp only [runAudio, EStateM.run]
    cases counters.runAudio link with
    | mk bank pacer => cases pacer <;> rfl
  rw [ran, ran, sameBank]
  exact aroundLink_alike alike isSetUp sameRate _ _

/-- What respects recordings on the link does not look at them on the bus. -/
theorem isDeaf_onLink
    {action : BusAction Unit}
    {onLink : EStateM Fault (SoundLink Tape) Unit}
    (ran :
      ∀ memory interrupts counters dma link,
        action.run ⟨memory, interrupts, counters, dma, link⟩ =
          aroundLink memory interrupts counters dma (onLink.run link))
    (respects : ∀ past, Respects (SoundLink.Follows past) onLink) :
    IsDeaf action := by
  rintro past rate ⟨memory, interrupts, counters, dma, first⟩
    ⟨_, _, _, _, second⟩ ⟨⟨rfl, rfl, rfl, rfl, linkFollows⟩, isSetUp⟩
  rw [ran, ran]
  exact aroundLink_alike (respects past _ _ linkFollows) isSetUp rfl _ _

theorem isDeaf_request (asked : SoundRequest) : IsDeaf (request asked) :=
  isDeaf_onLink
    (fun memory interrupts counters dma link => by
      simp only [request, EStateM.run]
      cases SoundLink.request asked link <;> rfl)
    fun _ => SoundLink.respects_request asked

theorem isDeaf_closeLink : IsDeaf closeLink :=
  isDeaf_onLink
    (fun memory interrupts counters dma link => by
      simp only [closeLink, EStateM.run]
      cases SoundLink.close link <;> rfl)
    fun _ => SoundLink.respects_close

theorem IsDeaf.pure {α : Type} (value : α) : IsDeaf (Pure.pure value : BusAction α) :=
  fun _ _ => .pure value

/-- Actions one after the other look at the recording only if one of them does. -/
theorem IsDeaf.bind
    {α β : Type}
    {action : BusAction α}
    {next : α → BusAction β}
    (first : IsDeaf action)
    (second : ∀ value, IsDeaf (next value)) :
    IsDeaf (action >>= next) :=
  fun past rate => .bind (first past rate) fun value => second value past rate

theorem isDeaf_keepSound (address : UInt32) (value : UInt16) :
    IsDeaf (keepSound address value) :=
  isDeaf_modify (fun _ _ => rfl) (fun _ => rfl) fun _ => ⟨rfl, rfl⟩

/-- Requests one after the other do not look at the recording. -/
theorem isDeaf_requestEach (make : Nat → SoundRequest) (voices : List Nat) :
    IsDeaf (requestEach make voices) := by
  induction voices with
  | nil => exact .pure ()
  | cons voice rest inductionHypothesis =>
      exact .bind (isDeaf_request _) fun _ => inductionHypothesis

/-- Writing a sound register does not look at the recording. -/
theorem isDeaf_writeSoundRegister (address : UInt32) (value : UInt16) :
    IsDeaf (writeSoundRegister address value) := by
  have kept := isDeaf_keepSound address value
  unfold writeSoundRegister
  split
  · exact .bind isDeaf_runAudio fun _ => .bind kept fun _ => isDeaf_requestEach _ _
  · exact .bind isDeaf_runAudio fun _ => .bind kept fun _ => isDeaf_requestEach _ _
  · exact .bind isDeaf_runAudio fun _ => kept
  · exact .bind isDeaf_runAudio fun _ => .bind kept fun _ => isDeaf_request _
  · exact kept

theorem isDeaf_writeSound (width : Width) (address value : UInt32) :
    IsDeaf (writeSound width address value) := by
  cases width with
  | word => exact .bind (isDeaf_writeSoundRegister _ _) fun _ => isDeaf_writeSoundRegister _ _
  | half => exact isDeaf_writeSoundRegister _ _
  | byte => exact isDeaf_get (fun _ _ => rfl) fun _ => isDeaf_writeSoundRegister _ _

/-- A transfer moves what the link's recording has no part in. -/
theorem moveBlock_withRecording (bus : Bus) (recording : Recording) :
    (bus.withRecording recording).moveBlock = bus.moveBlock.withRecording recording := by
  have sameDma : (bus.withRecording recording).dma = bus.dma := rfl
  have sameMemory : (bus.withRecording recording).memory = bus.memory := rfl
  have sameSound : (bus.withRecording recording).link.sound = bus.link.sound := rfl
  simp only [moveBlock, sameDma, sameMemory, sameSound]
  split <;> split <;> rfl

/-- A transfer changes bytes of RAM and the sound processor. -/
theorem moveBlock_keeps (bus : Bus) :
    bus.moveBlock.memory.mapped = bus.memory.mapped ∧
      bus.moveBlock.counters = bus.counters ∧
      bus.moveBlock.link.recorded = bus.link.recorded := by
  simp only [moveBlock]
  split <;> split
  · exact ⟨rfl, rfl, rfl⟩
  · exact ⟨rfl, rfl, rfl⟩
  · exact ⟨AddressSpace.mapped_ramSplice _ _ _, rfl, rfl⟩
  · exact ⟨rfl, rfl, rfl⟩

/-- Moving a block does not look at the recording. -/
theorem isDeaf_moveBlock :
    IsDeaf (modify fun bus => bus.moveBlock.completeTransfer : BusAction Unit) := by
  refine isDeaf_modify (fun bus recording => ?_) (fun bus => ?_) fun bus => ?_
  · rw [moveBlock_withRecording]
    rfl
  · exact bus.moveBlock_keeps.2.2
  · exact ⟨bus.moveBlock_keeps.1, congrArg CounterBank.vsyncRate bus.moveBlock_keeps.2.1⟩

theorem isDeaf_runTransfer : IsDeaf runTransfer :=
  .bind isDeaf_runAudio fun _ => isDeaf_moveBlock

/-- Writing a device register does not look at the recording. -/
theorem isDeaf_writeDevice (width : Width) (address value : UInt32) (port : Port) :
    IsDeaf (writeDevice width address value port) := by
  cases port with
  | dmaControl =>
      refine .bind (isDeaf_modify (fun _ _ => rfl) (fun _ => rfl) fun _ => ⟨rfl, rfl⟩) fun _ =>
        isDeaf_get (fun _ _ => rfl) fun bus past rate => .ite ?_ (.pure ())
      exact isDeaf_runTransfer past rate
  | counter index register =>
      refine isDeaf_modify (fun bus recording => ?_) (fun bus => ?_) fun bus => ⟨?_, ?_⟩
      · cases register <;> rfl
      · cases register <;> rfl
      · cases register <;> rfl
      · exact CounterBank.vsyncRate_of_beyond (bus.beyond_writeCounter index _ register)
  | sound => exact isDeaf_writeSound width address value
  | _ => exact isDeaf_modify (fun _ _ => rfl) (fun _ => rfl) fun _ => ⟨rfl, rfl⟩

/-- No store looks at the recording. -/
theorem isDeaf_write (width : Width) (address value : UInt32) :
    IsDeaf (write width address value) := by
  have toMemory : IsDeaf (writeMemory width address value) := by
    change IsDeaf
      (modify fun bus : Bus => { bus with memory := bus.memory.write width address value })
    exact isDeaf_modify (fun _ _ => rfl) (fun _ => rfl) fun _ =>
      ⟨AddressSpace.mapped_write _ _ _ _, rfl⟩
  unfold write
  split
  · split
    · exact isDeaf_writeDevice _ _ _ _
    · exact toMemory
  · exact toMemory

end Bus

end PsxPlayer
