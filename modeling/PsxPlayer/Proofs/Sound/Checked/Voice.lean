import PsxPlayer.Proofs.Sound.Checked.Instrument
import PsxPlayer.Proofs.Sound.Voice

namespace PsxPlayer.Voice

/-!
# Voices in 32 bits

Rendering a voice, with every 32-bit value checked.  The answer is `none`, too, if
a voice without an instrument is asked for a sample.
-/

/-- `rewind` with every value checked. -/
def rewind?
    (voice : Voice)
    (bank : SoundBank)
    (ram : ByteArray)
    (instrument : Instrument) :
    Option (Voice × SoundBank) :=
  match voice.loopOverride? with
  | some address => do
      let (next, bank) ← bank.fetch? ram address
      return (
        { voice with
          instrument? := some next
          cursor := 0 },
        bank)
  | none => some ({ voice with cursor := instrument.loopOffset }, bank)

/-- `next` with every value checked; there must be an instrument. -/
def next?
    (voice : Voice)
    (bank : SoundBank)
    (ram : ByteArray) :
    Option (Played (Option Int)) :=
  match voice.instrument? with
  | none => none
  | some instrument =>
      if voice.cursor < instrument.samples.size then
        some (voice.take bank)
      else if instrument.isRepeat then do
        let (voice, bank) ← voice.rewind? bank ram instrument
        return voice.take bank
      else
        some ⟨none, voice, bank⟩

/-- `takeIn` with every value checked. -/
def takeIn? : Nat → Voice → SoundBank → ByteArray → Option (Played Bool)
  | 0, voice, bank, _ => some ⟨true, voice, bank⟩
  | count + 1, voice, bank, ram => do
      let position ← word? (voice.position - positionOne)
      match ← { voice with position := position }.next? bank ram with
      | ⟨some sample, voice, bank⟩ =>
          takeIn? count { voice with ring := voice.ring.push sample } bank ram
      | ⟨none, voice, bank⟩ => some ⟨false, voice.stop, bank⟩

/-- The pitch after the voice before has modulated it, with every value checked. -/
def modulate? (pitch modulator : Int) : Option Int := do
  let factor ← int32? (0x8000 + modulator)
  let product ← int32? (factor * pitch)
  let quotient ← int32? (Int.tdiv product 0x8000)
  return max 1 (min quotient pitchMax)

/-- `positionStep` with every value checked. -/
def positionStep? (voice : Voice) (modulator? : Option Int) : Option Nat := do
  let pitch : Int := min (voice.pitch.toNat : Int) pitchMax
  let pitch ←
    match modulator? with
    | some modulator => modulate? pitch modulator
    | none => some pitch
  word? (pitch * 16)

/-- `source` with every value checked. -/
def source? (voice : Voice) (input : VoiceInput) : Option Int :=
  match input.noise? with
  | some level => some level
  | none => input.filter.interpolate? voice.ring voice.position

/-- `sound` with every value checked. -/
def sound? (voice : Voice) (input : VoiceInput) : Option (Int × Voice) := do
  let sample ← voice.source? input
  let envelope ← voice.envelope.tick?
  let product ← int32? (sample * envelope.audible)
  let output ← int32? (Int.tdiv product 1023)
  let step ← voice.positionStep? input.modulator?
  let position ← word? (voice.position + step : Nat)
  return (output,
    { voice with
      envelope := envelope
      lastOutput := output
      position := position })

/-- `render` with every value checked. -/
def render?
    (voice : Voice)
    (bank : SoundBank)
    (ram : ByteArray)
    (input : VoiceInput) :
    Option (Played Int) :=
  if voice.isOff then
    some ⟨0, { voice with lastOutput := 0 }, bank⟩
  else do
    match ← takeIn? (voice.position / positionOne) voice bank ram with
    | ⟨true, voice, bank⟩ =>
        let (output, voice) ← voice.sound? input
        return ⟨output, voice, bank⟩
    | ⟨false, voice, bank⟩ => some ⟨0, voice, bank⟩

/-- `tickVolumes` with every value checked. -/
def tickVolumes? (voice : Voice) : Option Voice := do
  let left ← voice.volumeLeft.tick?
  let right ← voice.volumeRight.tick?
  return { voice with
    volumeLeft := left
    volumeRight := right }

/-- Sound RAM is within the reach of an unsigned word. -/
theorem ramSize_le
    {ram : ByteArray}
    (ramSize : ram.size = soundRamSize) :
    ram.size ≤ 0xFFFFFFFF := by
  rw [ramSize]
  decide

namespace WellFormed

theorem rewind?_eq_some
    {voice : Voice}
    {ram : ByteArray}
    (wellFormed : voice.WellFormed)
    (ramSize : ram.size = soundRamSize)
    (bank : SoundBank)
    (instrument : Instrument) :
    voice.rewind? bank ram instrument = some (voice.rewind bank ram instrument) := by
  cases override : voice.loopOverride? with
  | none => simp only [Voice.rewind?, Voice.rewind, override]
  | some address =>
      have room :=
        blockStart_add_blockSize_le (wellFormed.loopOverride_lt address override) ramSize
      simp only [Voice.rewind?, Voice.rewind, override]
      rw [bank.fetch?_eq_some room (ramSize_le ramSize)]
      rfl

/-- A voice that has an instrument can be asked for a sample. -/
theorem next?_eq_some
    {voice : Voice}
    {ram : ByteArray}
    (wellFormed : voice.WellFormed)
    (ramSize : ram.size = soundRamSize)
    (attached : voice.instrument? ≠ none)
    (bank : SoundBank) :
    voice.next? bank ram = some (voice.next bank ram) := by
  obtain ⟨instrument, found⟩ := Option.ne_none_iff_exists'.mp attached
  simp only [Voice.next?, Voice.next, found]
  split
  · rfl
  · split
    · rw [wellFormed.rewind?_eq_some ramSize]
      rfl
    · rfl

/-- As many samples as the position has whole steps can be taken in. -/
theorem takeIn?_eq_some
    {voice : Voice}
    {bank : SoundBank}
    {ram : ByteArray}
    {count : Nat}
    (wellFormed : voice.WellFormed)
    (bankPlayable : bank.IsPlayable)
    (ramSize : ram.size = soundRamSize)
    (sounds : voice.isOff = false)
    (enough : count * positionOne ≤ voice.position) :
    Voice.takeIn? count voice bank ram = some (Voice.takeIn count voice bank ram) := by
  induction count generalizing voice bank with
  | zero => rfl
  | succ count inductionHypothesis =>
      rw [Nat.add_one_mul] at enough
      have position_le := wellFormed.position_le
      have step : positionOne ≤ voice.position := Nat.le_trans (Nat.le_add_left _ _) enough
      have nearer : voice.position - positionOne ≤ positionMax :=
        Nat.le_trans (Nat.sub_le _ _) position_le
      have moved := wellFormed.moveTo nearer
      have movedSounds := isOff_moveTo voice (voice.position - positionOne)
      have attached := moved.attached (by simpa [isOff] using sounds)
      have position :
          word? (voice.position - positionOne) = some (voice.position - positionOne) := by
        rw [← Int.ofNat_sub step]
        exact word?_eq_some (Nat.le_trans nearer (by decide))
      obtain ⟨ready, isSample⟩ := moved.next bankPlayable ramSize
      have place :=
        position_next { voice with position := voice.position - positionOne } bank ram
      have stillSounds :=
        isOff_next { voice with position := voice.position - positionOne } bank ram
      rw [Voice.takeIn?, position, some_bind, moved.next?_eq_some ramSize attached, some_bind,
        Voice.takeIn]
      generalize { voice with position := voice.position - positionOne }.next bank ram = played
        at ready isSample place stillSounds
      obtain ⟨sample?, after, later⟩ := played
      cases sample? with
      | some sample =>
          have pushed : { after with ring := after.ring.push sample }.WellFormed :=
            { ready.voice with ring := ready.voice.ring.push (isSample sample rfl) }
          refine inductionHypothesis pushed ready.bank ?_ ?_
          · exact stillSounds.trans (movedSounds.trans sounds)
          · exact Nat.le_trans (Nat.le_sub_of_add_le enough) (Nat.le_of_eq place.symm)
      | none => rfl

end WellFormed

/-- No modulator makes a product that does not fit. -/
theorem modulate?_eq_some
    {pitch modulator : Int}
    (nonneg : 0 ≤ pitch)
    (le_max : pitch ≤ pitchMax)
    (isSample : IsSample modulator) :
    modulate? pitch modulator =
      some (max 1 (min (Int.tdiv ((0x8000 + modulator) * pitch) 0x8000) pitchMax)) := by
  obtain ⟨low, high⟩ := isSample
  unfold pitchMax at le_max
  have factor : (0x8000 + modulator).natAbs ≤ 0xFFFF := by omega
  have product := natAbs_mul_le factor (show pitch.natAbs ≤ 0x3FFF by omega)
  have quotient : (Int.tdiv ((0x8000 + modulator) * pitch) 0x8000).natAbs ≤ 0x7FFFFFFF := by
    rw [Int.natAbs_tdiv]
    exact Nat.le_trans (Nat.div_le_self _ _) (Nat.le_trans product (by decide))
  rw [modulate?, int32?_eq_some (by omega), some_bind,
    int32?_eq_some_of_le product (by decide), some_bind,
    int32?_eq_some quotient]
  rfl

theorem positionStep?_eq_some
    {modulator? : Option Int}
    (voice : Voice)
    (isSample : ∀ modulator, modulator? = some modulator → IsSample modulator) :
    voice.positionStep? modulator? = some (voice.positionStep modulator?) := by
  have fits {pitch : Int} (nonneg : 0 ≤ pitch) (le_max : pitch ≤ pitchMax) :
      word? (pitch * 16) = some (pitch.toNat * 16) := by
    unfold pitchMax at le_max
    have whole : pitch * 16 = (pitch.toNat * 16 : Nat) := by omega
    rw [whole, word?_eq_some (by omega)]
  have nonneg : 0 ≤ min (voice.pitch.toNat : Int) pitchMax := by
    unfold pitchMax
    omega
  cases modulator? with
  | none => exact fits nonneg (Int.min_le_right _ _)
  | some modulator =>
      simp only [positionStep?, positionStep]
      rw [modulate?_eq_some nonneg (Int.min_le_right _ _) (isSample modulator rfl)]
      refine fits ?_ ?_
      · omega
      · unfold pitchMax
        omega

theorem WellFormed.tickVolumes?_eq_some
    {voice : Voice}
    (wellFormed : voice.WellFormed) :
    voice.tickVolumes? = some voice.tickVolumes := by
  rw [tickVolumes?, wellFormed.volumeLeft.tick?_eq_some, some_bind,
    wellFormed.volumeRight.tick?_eq_some]
  rfl

theorem WellFormed.source?_eq_some
    {voice : Voice}
    (wellFormed : voice.WellFormed)
    (input : VoiceInput) :
    voice.source? input = some (voice.source input) := by
  unfold source? source
  cases input.noise? with
  | some level => rfl
  | none => exact input.filter.interpolate?_eq_some wellFormed.ring _

theorem WellFormed.sound?_eq_some
    {voice : Voice}
    {input : VoiceInput}
    (wellFormed : voice.WellFormed)
    (inputInRange : InputInRange input)
    (takenIn : voice.position < positionOne) :
    voice.sound? input = some (voice.sound input) := by
  obtain ⟨nonneg, le_max⟩ := wellFormed.envelope.tick.audible_bounds
  have isSample := wellFormed.isSample_source inputInRange
  have output := isSample.share nonneg le_max (by decide)
  have step := voice.positionStep_le input.modulator?
  have position :
      word? (voice.position + voice.positionStep input.modulator? : Nat) =
        some (voice.position + voice.positionStep input.modulator?) := by
    unfold positionOne at takenIn
    exact word?_eq_some (by omega)
  have product :=
    natAbs_mul_le isSample.natAbs_le
      (show voice.envelope.tick.audible.natAbs ≤ 1023 by omega)
  rw [sound?, wellFormed.source?_eq_some, some_bind,
    wellFormed.envelope.tick?_eq_some, some_bind,
    int32?_eq_some_of_le product (by decide), some_bind,
    output.int32?_eq_some, some_bind,
    voice.positionStep?_eq_some inputInRange.modulator, some_bind, position]
  rfl

theorem WellFormed.render?_eq_some
    {voice : Voice}
    {bank : SoundBank}
    {ram : ByteArray}
    {input : VoiceInput}
    (wellFormed : voice.WellFormed)
    (bankPlayable : bank.IsPlayable)
    (ramSize : ram.size = soundRamSize)
    (inputInRange : InputInRange input) :
    voice.render? bank ram input = some (voice.render bank ram input) := by
  unfold render? Voice.render
  split
  · rfl
  · next sounds =>
      have taken :=
        wellFormed.takeIn?_eq_some bankPlayable ramSize (by simpa using sounds)
          (Nat.div_mul_le_self voice.position positionOne)
      obtain ⟨ready, place⟩ :=
        wellFormed.takeIn bankPlayable ramSize (voice.position / positionOne)
      rw [taken, some_bind]
      generalize Voice.takeIn (voice.position / positionOne) voice bank ram = played
        at ready place
      obtain ⟨stillSounds, after, later⟩ := played
      cases stillSounds with
      | true =>
          have takenIn : after.position < positionOne := by
            rw [place rfl]
            unfold positionOne
            omega
          simp only [ready.voice.sound?_eq_some inputInRange takenIn]
          rfl
      | false => rfl

end PsxPlayer.Voice
