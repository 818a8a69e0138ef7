import PsxPlayer.Proofs.Sound.WellFormed

namespace PsxPlayer

/-!
# Playing on

A voice asks for its next sample only while a frame is mixed, once for each whole
step of its position.  Whatever operations came before, it is never asked without
an instrument, and a repeating instrument never runs out.
-/

namespace Voice

/-- There is an instrument to play, and the cursor is in it or at its end. -/
def HasInstrument (voice : Voice) : Prop :=
  ∃ instrument,
    voice.instrument? = some instrument ∧
      0 < instrument.samples.size ∧
      instrument.loopOffset < instrument.samples.size ∧
      voice.cursor ≤ instrument.samples.size

/-- If the instrument repeats, there is a next sample. -/
def NeverRunsOut
    (voice : Voice)
    (bank : SoundBank)
    (ram : ByteArray) :
    Prop :=
  ∀ instrument,
    voice.instrument? = some instrument →
    instrument.isRepeat = true →
    ∃ sample, (voice.next bank ram).value = some sample

theorem WellFormed.hasInstrument
    {voice : Voice}
    (wellFormed : voice.WellFormed)
    (sounds : voice.isOff = false) :
    voice.HasInstrument := by
  have notOff : voice.envelope.phase ≠ .off := by simpa [isOff] using sounds
  obtain ⟨instrument, attached⟩ := Option.ne_none_iff_exists'.mp (wellFormed.attached notOff)
  obtain ⟨playable, inside⟩ := wellFormed.playable instrument attached
  exact ⟨instrument, attached, playable.nonempty, playable.loopOffset_lt, inside⟩

/-- A repeating instrument goes on at its loop point or at the loop address. -/
theorem WellFormed.neverRunsOut
    {voice : Voice}
    {bank : SoundBank}
    {ram : ByteArray}
    (wellFormed : voice.WellFormed)
    (bankPlayable : bank.IsPlayable)
    (ramSize : ram.size = soundRamSize) :
    voice.NeverRunsOut bank ram := by
  intro instrument attached repeats
  have taken {voice : Voice} (onSample : voice.OnSample) (bank : SoundBank) :
      ∃ sample, (voice.take bank).value = some sample := by
    obtain ⟨sample, -, taken⟩ := onSample.take bank
    exact ⟨sample, by rw [taken]⟩
  simp only [Voice.next, attached, repeats, ↓reduceIte]
  split
  · next below => exact taken ⟨wellFormed, instrument, attached, below⟩ bank
  · exact taken (wellFormed.rewind bankPlayable ramSize attached).1 _

/-- A voice that is asked for its next sample, with the bank at that time. -/
structure Ask where
  voice : Voice
  bank : SoundBank

/-- What `takeIn` asks, in order. -/
def takeInAsks : Nat → Voice → SoundBank → ByteArray → List Ask
  | 0, _, _, _ => []
  | count + 1, voice, bank, ram =>
      let voice := { voice with position := voice.position - positionOne }
      ⟨voice, bank⟩ ::
        match voice.next bank ram with
        | ⟨some sample, voice, bank⟩ =>
            takeInAsks count { voice with ring := voice.ring.push sample } bank ram
        | ⟨none, _, _⟩ => []

/-- What `render` asks, in order. -/
def renderAsks (voice : Voice) (bank : SoundBank) (ram : ByteArray) : List Ask :=
  if voice.isOff then [] else takeInAsks (voice.position / positionOne) voice bank ram

/-- A voice that may be asked: it has an instrument and never runs out. -/
structure Ask.Answered
    (ask : Ask)
    (ram : ByteArray) :
    Prop where
  hasInstrument : ask.voice.HasInstrument
  neverRunsOut : ask.voice.NeverRunsOut ask.bank ram

/-- While a voice takes in samples, it has an instrument every time it is asked. -/
theorem WellFormed.answered_of_mem_takeInAsks
    {voice : Voice}
    {bank : SoundBank}
    {ram : ByteArray}
    {count : Nat}
    {ask : Ask}
    (wellFormed : voice.WellFormed)
    (bankPlayable : bank.IsPlayable)
    (ramSize : ram.size = soundRamSize)
    (sounds : voice.isOff = false)
    (member : ask ∈ takeInAsks count voice bank ram) :
    ask.Answered ram := by
  induction count generalizing voice bank with
  | zero => simp [takeInAsks] at member
  | succ count inductionHypothesis =>
      have moved :=
        wellFormed.moveTo (Nat.le_trans (Nat.sub_le _ positionOne) wellFormed.position_le)
      obtain ⟨ready, isSample⟩ := moved.next bankPlayable ramSize
      have movedSounds := isOff_moveTo voice (voice.position - positionOne)
      have stillSounds :=
        isOff_next { voice with position := voice.position - positionOne } bank ram
      rw [sounds] at movedSounds
      rw [movedSounds] at stillSounds
      rcases List.mem_cons.mp member with isFirst | isLater
      · subst isFirst
        exact ⟨moved.hasInstrument movedSounds, moved.neverRunsOut bankPlayable ramSize⟩
      · split at isLater
        · next sample after later found =>
            simp only [found] at ready isSample stillSounds
            have pushed : { after with ring := after.ring.push sample }.WellFormed :=
              { ready.voice with ring := ready.voice.ring.push (isSample sample rfl) }
            exact inductionHypothesis pushed ready.bank stillSounds isLater
        · simp at isLater

end Voice

namespace SoundProcessor

/-- What `mixVoices` asks, in order. -/
def mixAsks
    (frame : FrameInput)
    (ram : ByteArray) :
    Nat → Int → SoundBank → List Voice → List Voice.Ask
  | _, _, _, [] => []
  | index, previous, bank, voice :: rest =>
      let ⟨output, _, later⟩ := voice.render bank ram (frame.voiceInput index previous)
      voice.renderAsks bank ram ++ mixAsks frame ram (index + 1) output later rest

/-- What the next frame asks of the voices, in order. -/
def frameAsks (sound : SoundProcessor) : List Voice.Ask :=
  mixAsks sound.frameInput sound.ram 0 0 sound.bank sound.voices

theorem answered_of_mem_mixAsks
    {frame : FrameInput}
    {ram : ByteArray}
    {index : Nat}
    {previous : Int}
    {bank : SoundBank}
    {voices : List Voice}
    {ask : Voice.Ask}
    (ramSize : ram.size = soundRamSize)
    (noise : IsSample frame.noiseLevel)
    (modulator : IsSample previous)
    (bankPlayable : bank.IsPlayable)
    (wellFormed : ∀ voice, voice ∈ voices → voice.WellFormed)
    (member : ask ∈ mixAsks frame ram index previous bank voices) :
    ask.Answered ram := by
  induction voices generalizing index previous bank with
  | nil => simp [mixAsks] at member
  | cons voice rest inductionHypothesis =>
      have first := wellFormed voice (.head _)
      obtain ⟨ready, output⟩ :=
        first.render bankPlayable ramSize (frame.voiceInput_inRange index noise modulator)
      rcases List.mem_append.mp member with ofFirst | ofRest
      · unfold Voice.renderAsks at ofFirst
        split at ofFirst
        · simp at ofFirst
        · next sounds =>
            exact first.answered_of_mem_takeInAsks bankPlayable ramSize
              (by simpa using sounds) ofFirst
      · exact inductionHypothesis output ready.bank
          (fun voice member => wellFormed voice (.tail _ member)) ofRest

/--
Whatever operations came before, a voice that is not silent has an instrument,
and so has every voice that the next frame asks for a sample, at the time it is
asked.  A repeating instrument always has a next sample.
-/
theorem performAll_answersEveryAsk (operations : List Operation) :
    (∀ voice,
        voice ∈ (initial.performAll operations).voices →
        voice.isOff = false →
        voice.HasInstrument ∧
          voice.NeverRunsOut
            (initial.performAll operations).bank (initial.performAll operations).ram) ∧
      ∀ ask,
        ask ∈ (initial.performAll operations).frameAsks →
        ask.voice.HasInstrument ∧
          ask.voice.NeverRunsOut ask.bank (initial.performAll operations).ram := by
  have wellFormed := wellFormed_initial.performAll operations
  generalize initial.performAll operations = sound at wellFormed
  refine ⟨fun voice member sounds => ?_, fun ask member => ?_⟩
  · have inVoices := wellFormed.voices voice member
    exact ⟨inVoices.hasInstrument sounds,
      inVoices.neverRunsOut wellFormed.bank wellFormed.ramSize⟩
  · have answered :=
      answered_of_mem_mixAsks wellFormed.ramSize (NoiseSource.isSample_output _)
        isSample_zero wellFormed.bank wellFormed.voices member
    exact ⟨answered.hasInstrument, answered.neverRunsOut⟩

end SoundProcessor

end PsxPlayer
