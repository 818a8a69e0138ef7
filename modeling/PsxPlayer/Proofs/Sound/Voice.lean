import PsxPlayer.Proofs.Sound.Level
import PsxPlayer.Proofs.Sound.Playable
import PsxPlayer.Sound.Register
import PsxPlayer.Sound.Voice

namespace PsxPlayer

/-!
# Well-formed voices

A voice that is not silent has an instrument attached.  The instrument, the cursor
in it, the loop address and all levels stay in their ranges, through whatever
happens to the voice while sound RAM has its size and the bank is playable.
-/

/-- An address register reaches only blocks that lie whole in sound RAM. -/
theorem blockStart_add_blockSize_le
    {address size : Nat}
    (below : address < soundRamSize)
    (ramSize : size = soundRamSize) :
    Instrument.blockStart address + blockSize ≤ size := by
  unfold Instrument.blockStart blockSize
  unfold soundRamSize at *
  omega

/-- An address register counts in units of 8 bytes of sound RAM. -/
theorem addressRegister_lt (register : UInt16) : register.toNat * 8 < soundRamSize := by
  have below := register.toNat_lt
  unfold soundRamSize
  omega

namespace Voice

/-- The farthest position a voice can reach before it takes in samples. -/
def positionMax : Nat := 0xFFFF + 0x3FFF * 16

/-- What holds of a voice at all times. -/
structure WellFormed (voice : Voice) : Prop where
  volumeLeft : voice.volumeLeft.InRange
  volumeRight : voice.volumeRight.InRange
  envelope : voice.envelope.InRange
  ring : voice.ring.InRange
  position_le : voice.position ≤ positionMax
  /-- A voice that is not silent has an instrument. -/
  attached : voice.envelope.phase ≠ .off → voice.instrument? ≠ none
  /-- The instrument can be played, and the cursor is in it or at its end. -/
  playable :
    ∀ instrument,
      voice.instrument? = some instrument →
      instrument.IsPlayable ∧ voice.cursor ≤ instrument.samples.size
  loopOverride_lt :
    ∀ address, voice.loopOverride? = some address → address < soundRamSize
  lastOutput : IsSample voice.lastOutput

theorem wellFormed_initial : initial.WellFormed where
  volumeLeft := Volume.inRange_initial
  volumeRight := Volume.inRange_initial
  envelope := Envelope.inRange_initial
  ring := .silent
  position_le := by decide
  attached := fun notOff => absurd rfl notOff
  playable := fun _ found => nomatch found
  loopOverride_lt := fun _ found => nomatch found
  lastOutput := isSample_zero

/-- A well-formed voice with a bank that it can play from. -/
structure Ready
    (voice : Voice)
    (bank : SoundBank) :
    Prop where
  voice : voice.WellFormed
  bank : bank.IsPlayable

namespace WellFormed

/-- A note starts at the first sample of a playable instrument. -/
theorem keyOn
    {voice : Voice}
    {bank : SoundBank}
    {ram : ByteArray}
    (wellFormed : voice.WellFormed)
    (bankPlayable : bank.IsPlayable)
    (ramSize : ram.size = soundRamSize) :
    Ready (voice.keyOn bank ram).1 (voice.keyOn bank ram).2 := by
  obtain ⟨instrumentPlayable, nextPlayable⟩ :=
    bankPlayable.fetch
      (blockStart_add_blockSize_le (addressRegister_lt voice.startAddress) ramSize)
  refine ⟨?_, nextPlayable⟩
  exact
    { wellFormed with
      envelope := Envelope.inRange_keyOn _
      ring := .silent
      position_le := by change positionOne ≤ positionMax; decide
      attached := fun _ => Option.some_ne_none _
      playable := by
        intro instrument found
        rw [← Option.some.inj found]
        exact ⟨instrumentPlayable, Nat.zero_le _⟩
      loopOverride_lt := fun _ found => nomatch found
      lastOutput := isSample_zero }

theorem keyOff
    {voice : Voice}
    (wellFormed : voice.WellFormed) :
    voice.keyOff.WellFormed :=
  { wellFormed with
    envelope := wellFormed.envelope.keyOff
    attached := by
      intro notOff
      apply wellFormed.attached
      intro off
      apply notOff
      simp [Voice.keyOff, Envelope.keyOff, off] }

theorem overrideLoop
    {voice : Voice}
    (wellFormed : voice.WellFormed) :
    voice.overrideLoop.WellFormed :=
  { wellFormed with
    loopOverride_lt := by
      intro address found
      rw [← Option.some.inj found]
      exact addressRegister_lt voice.loopAddress }

/-- A voice whose instrument has ended is silent and has none. -/
theorem stop
    {voice : Voice}
    (wellFormed : voice.WellFormed) :
    voice.stop.WellFormed :=
  { wellFormed with
    envelope := Envelope.inRange_silence _
    attached := fun notOff => absurd rfl notOff
    playable := fun _ found => nomatch found
    lastOutput := isSample_zero }

theorem moveTo
    {voice : Voice}
    {position : Nat}
    (wellFormed : voice.WellFormed)
    (le_max : position ≤ positionMax) :
    { voice with position := position }.WellFormed :=
  { wellFormed with position_le := le_max }

theorem tickVolumes
    {voice : Voice}
    (wellFormed : voice.WellFormed) :
    voice.tickVolumes.WellFormed :=
  { wellFormed with
    volumeLeft := wellFormed.volumeLeft.tick
    volumeRight := wellFormed.volumeRight.tick }

end WellFormed

/-! ## Taking in samples -/

/-- The cursor is on a sample of the instrument. -/
structure OnSample (voice : Voice) : Prop where
  wellFormed : voice.WellFormed
  onSample :
    ∃ instrument,
      voice.instrument? = some instrument ∧ voice.cursor < instrument.samples.size

theorem OnSample.take
    {voice : Voice}
    (onSample : voice.OnSample)
    (bank : SoundBank) :
    ∃ sample,
      IsSample sample ∧
        voice.take bank = ⟨some sample, { voice with cursor := voice.cursor + 1 }, bank⟩ := by
  obtain ⟨wellFormed, instrument, attached, below⟩ := onSample
  have found : voice.sample? = some instrument.samples[voice.cursor] := by
    simp [sample?, attached, below]
  refine ⟨instrument.samples[voice.cursor], ?_, ?_⟩
  · exact (wellFormed.playable instrument attached).1.samples _ (Array.getElem_mem below)
  · simp only [Voice.take, found]

/-- Behind a sample the cursor is still in the instrument or at its end. -/
theorem OnSample.advance
    {voice : Voice}
    (onSample : voice.OnSample) :
    { voice with cursor := voice.cursor + 1 }.WellFormed := by
  obtain ⟨wellFormed, instrument, attached, below⟩ := onSample
  refine { wellFormed with playable := ?_ }
  intro other found
  have same : instrument = other := Option.some.inj (attached.symm.trans found)
  exact same ▸ ⟨(wellFormed.playable instrument attached).1, below⟩

/-- A repeating instrument goes on at a sample, with or without a loop address. -/
theorem WellFormed.rewind
    {voice : Voice}
    {bank : SoundBank}
    {ram : ByteArray}
    {instrument : Instrument}
    (wellFormed : voice.WellFormed)
    (bankPlayable : bank.IsPlayable)
    (ramSize : ram.size = soundRamSize)
    (attached : voice.instrument? = some instrument) :
    (voice.rewind bank ram instrument).1.OnSample ∧
      (voice.rewind bank ram instrument).2.IsPlayable := by
  unfold Voice.rewind
  split
  · next address override =>
      obtain ⟨nextPlayable, laterPlayable⟩ :=
        bankPlayable.fetch
          (blockStart_add_blockSize_le (wellFormed.loopOverride_lt address override) ramSize)
      refine ⟨⟨?_, _, rfl, nextPlayable.nonempty⟩, laterPlayable⟩
      refine { wellFormed with attached := fun _ => Option.some_ne_none _, playable := ?_ }
      intro instrument found
      rw [← Option.some.inj found]
      exact ⟨nextPlayable, Nat.zero_le _⟩
  · have playable := (wellFormed.playable instrument attached).1
    refine ⟨⟨?_, instrument, attached, playable.loopOffset_lt⟩, bankPlayable⟩
    refine { wellFormed with playable := ?_ }
    intro other found
    have same : instrument = other := Option.some.inj (attached.symm.trans found)
    exact same ▸ ⟨playable, Nat.le_of_lt playable.loopOffset_lt⟩

/-- The next sample, if there is one, is a sample, and the voice stays well-formed. -/
theorem WellFormed.next
    {voice : Voice}
    {bank : SoundBank}
    {ram : ByteArray}
    (wellFormed : voice.WellFormed)
    (bankPlayable : bank.IsPlayable)
    (ramSize : ram.size = soundRamSize) :
    Ready (voice.next bank ram).voice (voice.next bank ram).bank ∧
      ∀ sample, (voice.next bank ram).value = some sample → IsSample sample := by
  unfold Voice.next
  split
  · exact ⟨⟨wellFormed, bankPlayable⟩, fun _ found => nomatch found⟩
  · next instrument attached =>
    have taken {voice : Voice} {bank : SoundBank}
        (onSample : voice.OnSample)
        (bankPlayable : bank.IsPlayable) :
        Ready (voice.take bank).voice (voice.take bank).bank ∧
          ∀ sample, (voice.take bank).value = some sample → IsSample sample := by
      obtain ⟨sample, isSample, taken⟩ := onSample.take bank
      rw [taken]
      exact ⟨⟨onSample.advance, bankPlayable⟩, fun other found => Option.some.inj found ▸ isSample⟩
    split
    · next below => exact taken ⟨wellFormed, instrument, attached, below⟩ bankPlayable
    · split
      · obtain ⟨onSample, laterPlayable⟩ := wellFormed.rewind bankPlayable ramSize attached
        exact taken onSample laterPlayable
      · exact ⟨⟨wellFormed, bankPlayable⟩, fun _ found => nomatch found⟩

@[simp]
theorem position_next
    (voice : Voice)
    (bank : SoundBank)
    (ram : ByteArray) :
    (voice.next bank ram).voice.position = voice.position := by
  have taken (voice : Voice) (bank : SoundBank) :
      (voice.take bank).voice.position = voice.position := by
    unfold take
    split <;> rfl
  unfold next
  split
  · rfl
  · split
    · exact taken _ _
    · split
      · refine (taken _ _).trans ?_
        split <;> rfl
      · rfl

@[simp]
theorem isOff_next
    (voice : Voice)
    (bank : SoundBank)
    (ram : ByteArray) :
    (voice.next bank ram).voice.isOff = voice.isOff := by
  have taken (voice : Voice) (bank : SoundBank) :
      (voice.take bank).voice.isOff = voice.isOff := by
    unfold take
    split <;> rfl
  unfold next
  split
  · rfl
  · split
    · exact taken _ _
    · split
      · refine (taken _ _).trans ?_
        split <;> rfl
      · rfl

@[simp]
theorem isOff_moveTo
    (voice : Voice)
    (position : Nat) :
    { voice with position := position }.isOff = voice.isOff :=
  rfl

/--
Taking in samples keeps the voice well-formed.  A voice that still sounds has moved
back by one whole step for each sample.
-/
theorem WellFormed.takeIn
    {voice : Voice}
    {bank : SoundBank}
    {ram : ByteArray}
    (wellFormed : voice.WellFormed)
    (bankPlayable : bank.IsPlayable)
    (ramSize : ram.size = soundRamSize)
    (count : Nat) :
    Ready (takeIn count voice bank ram).voice (takeIn count voice bank ram).bank ∧
      ((takeIn count voice bank ram).value = true →
        (takeIn count voice bank ram).voice.position =
          voice.position - count * positionOne) := by
  induction count generalizing voice bank with
  | zero => exact ⟨⟨wellFormed, bankPlayable⟩, fun _ => by simp [Voice.takeIn]⟩
  | succ count inductionHypothesis =>
      have moved :=
        wellFormed.moveTo (Nat.le_trans (Nat.sub_le _ positionOne) wellFormed.position_le)
      obtain ⟨ready, isSample⟩ := moved.next bankPlayable ramSize
      have place := position_next { voice with position := voice.position - positionOne } bank ram
      simp only [Voice.takeIn]
      split
      · next sample after later found =>
          simp only [found] at ready isSample place
          have pushed : { after with ring := after.ring.push sample }.WellFormed :=
            { ready.voice with ring := ready.voice.ring.push (isSample sample rfl) }
          obtain ⟨laterReady, laterPlace⟩ := inductionHypothesis pushed ready.bank
          refine ⟨laterReady, fun sounds => ?_⟩
          rw [laterPlace sounds, place, Nat.add_one_mul]
          omega
      · next after later found =>
          simp only [found] at ready
          exact ⟨⟨ready.voice.stop, ready.bank⟩, fun sounds => absurd sounds Bool.false_ne_true⟩

/-! ## Rendering -/

/-- The modulator and the noise level are samples. -/
structure InputInRange (input : VoiceInput) : Prop where
  modulator : ∀ modulator, input.modulator? = some modulator → IsSample modulator
  noise : ∀ level, input.noise? = some level → IsSample level

/-- No pitch moves the position by more than the largest one. -/
theorem positionStep_le
    (voice : Voice)
    (modulator? : Option Int) :
    voice.positionStep modulator? ≤ 0x3FFF * 16 := by
  unfold positionStep pitchMax
  cases modulator? <;> dsimp only <;> omega

/-- What a voice sounds: the noise level, or what the filter makes of the ring. -/
def source (voice : Voice) (input : VoiceInput) : Int :=
  match input.noise? with
  | some level => level
  | none => input.filter.apply voice.ring voice.position

theorem WellFormed.isSample_source
    {voice : Voice}
    {input : VoiceInput}
    (wellFormed : voice.WellFormed)
    (inputInRange : InputInRange input) :
    IsSample (voice.source input) := by
  unfold source
  split
  · next level found => exact inputInRange.noise level found
  · exact Filter.isSample_apply _ wellFormed.ring _

theorem WellFormed.sound
    {voice : Voice}
    {input : VoiceInput}
    (wellFormed : voice.WellFormed)
    (inputInRange : InputInRange input)
    (takenIn : voice.position < positionOne) :
    IsSample (voice.sound input).1 ∧ (voice.sound input).2.WellFormed := by
  have isSample := wellFormed.isSample_source inputInRange
  obtain ⟨nonneg, le_max⟩ := wellFormed.envelope.tick.audible_bounds
  have output := isSample.share nonneg le_max (by decide)
  have step := voice.positionStep_le input.modulator?
  refine ⟨output, ?_⟩
  exact
    { wellFormed with
      envelope := wellFormed.envelope.tick
      position_le := by
        unfold positionMax
        unfold positionOne at takenIn
        change voice.position + voice.positionStep input.modulator? ≤ _
        omega
      attached := by
        intro notOff
        apply wellFormed.attached
        intro off
        apply notOff
        change voice.envelope.tick.phase = .off
        rw [Envelope.tick_of_off off, off]
      lastOutput := output }

theorem WellFormed.render
    {voice : Voice}
    {bank : SoundBank}
    {ram : ByteArray}
    {input : VoiceInput}
    (wellFormed : voice.WellFormed)
    (bankPlayable : bank.IsPlayable)
    (ramSize : ram.size = soundRamSize)
    (inputInRange : InputInRange input) :
    Ready (voice.render bank ram input).voice (voice.render bank ram input).bank ∧
      IsSample (voice.render bank ram input).value := by
  unfold Voice.render
  split
  · exact ⟨⟨{ wellFormed with lastOutput := isSample_zero }, bankPlayable⟩, isSample_zero⟩
  · obtain ⟨ready, place⟩ :=
      wellFormed.takeIn bankPlayable ramSize (voice.position / positionOne)
    split
    · next after later found =>
        simp only [found] at ready place
        have takenIn : after.position < positionOne := by
          rw [place trivial]
          unfold positionOne
          omega
        obtain ⟨isSample, sounding⟩ := ready.voice.sound inputInRange takenIn
        exact ⟨⟨sounding, ready.bank⟩, isSample⟩
    · next after later found =>
        simp only [found] at ready
        exact ⟨ready, isSample_zero⟩

end Voice

end PsxPlayer
