import PsxPlayer.Proofs.Sound.Checked.Reverb
import PsxPlayer.Proofs.Sound.Checked.Voice

namespace PsxPlayer.SoundProcessor

/-!
# Frames in 32 bits

Mixing a frame, with every 32-bit value checked.  The dry sums and the main volumes
are computed in 64 bits; the sums that feed the reverb, and everything behind it,
in 32.
-/

namespace VoiceMix

/-- `add` with the sums for the reverb checked. -/
def add? (mix : VoiceMix) (left right : Int) (isWet : Bool) : Option VoiceMix :=
  if isWet then do
    let wetLeft ← int32? (mix.wet.left + left)
    let wetRight ← int32? (mix.wet.right + right)
    return { mix.add left right false with wet := ⟨wetLeft, wetRight⟩ }
  else
    some (mix.add left right false)

/-- The sum of two mixes. -/
def plus (first second : VoiceMix) : VoiceMix where
  dry := ⟨first.dry.left + second.dry.left, first.dry.right + second.dry.right⟩
  wet := ⟨first.wet.left + second.wet.left, first.wet.right + second.wet.right⟩

/-- What feeds the reverb is at most `bound` on both sides. -/
structure Within (mix : VoiceMix) (bound : Nat) : Prop where
  left : mix.wet.left.natAbs ≤ bound
  right : mix.wet.right.natAbs ≤ bound

@[simp]
theorem silent_plus (mix : VoiceMix) : silent.plus mix = mix := by
  simp [plus, silent]

@[simp]
theorem plus_silent (mix : VoiceMix) : mix.plus silent = mix := by
  simp [plus, silent]

/-- A voice can be added first or last. -/
theorem plus_add
    (first second : VoiceMix)
    (left right : Int)
    (isWet : Bool) :
    first.plus (second.add left right isWet) = (first.add left right isWet).plus second := by
  cases isWet <;>
    simp only [plus, add, Bool.false_eq_true, ↓reduceIte, VoiceMix.mk.injEq, Stereo.mk.injEq,
      and_true] <;>
    omega

/-- A sample can be added to a bounded mix. -/
theorem Within.add?_eq_some
    {mix : VoiceMix}
    {bound : Nat}
    {left right : Int}
    (within : mix.Within bound)
    (leftSample : IsSample left)
    (rightSample : IsSample right)
    (room : bound + 0x8000 ≤ 0x7FFFFFFF)
    (isWet : Bool) :
    mix.add? left right isWet = some (mix.add left right isWet) ∧
      (mix.add left right isWet).Within (bound + 0x8000) := by
  have sumLeft := natAbs_add_le within.left leftSample.natAbs_le
  have sumRight := natAbs_add_le within.right rightSample.natAbs_le
  cases isWet with
  | false =>
      exact ⟨rfl, Nat.le_trans within.left (Nat.le_add_right _ _),
        Nat.le_trans within.right (Nat.le_add_right _ _)⟩
  | true =>
      refine ⟨?_, sumLeft, sumRight⟩
      simp only [add?, ↓reduceIte]
      rw [int32?_eq_some_of_le sumLeft room, some_bind, int32?_eq_some_of_le sumRight room,
        some_bind]
      rfl

end VoiceMix

/-- What a voice adds to the mix, with every value checked; silence adds nothing. -/
def addVoice? (mix : VoiceMix) (voice : Voice) (output : Int) (isWet : Bool) :
    Option VoiceMix :=
  if output = 0 then
    some mix
  else do
    let left ← voice.volumeLeft.scale? output
    let right ← voice.volumeRight.scale? output
    mix.add? left right isWet

/-- `mixVoices` with every value checked, summing the voices from the first one on. -/
def mixVoices?
    (frame : FrameInput)
    (ram : ByteArray) :
    Nat → Int → VoiceMix → SoundBank → List Voice → Option MixState
  | _, _, mix, bank, [] => some ⟨mix, bank, []⟩
  | index, previous, mix, bank, voice :: rest => do
      let played ← voice.render? bank ram (frame.voiceInput index previous)
      let voice ← played.voice.tickVolumes?
      let mix ← addVoice? mix voice played.value (FrameInput.hasBit frame.reverberant index)
      let later ← mixVoices? frame ram (index + 1) played.value mix played.bank rest
      return { later with voices := voice :: later.voices }

/-- A sample scaled by a reverb depth, with the product and the quotient checked. -/
def deepen? (sample depth : Int) : Option Int := do
  let product ← int32? (sample * depth)
  int32? (Int.tdiv product 0x8000)

/-- `runReverb` with every value checked. -/
def runReverb? (sound : SoundProcessor) (input : Stereo) : Option (Stereo × SoundProcessor) :=
  if sound.reverbRuns then do
    let (output, reverb, ram) ← sound.reverb.process? sound.reverbRegisters sound.ram input
    let left ← deepen? output.left (signedHalf sound.reverbDepthLeft)
    let right ← deepen? output.right (signedHalf sound.reverbDepthRight)
    return (⟨left, right⟩, { sound with ram := ram, reverb := reverb })
  else
    some (⟨0, 0⟩, sound)

/-- `afterVoices` with the mix of the voices, with every value checked. -/
def afterVoices? (sound : SoundProcessor) : Option (VoiceMix × SoundProcessor) := do
  let noise ← sound.noise.tick?
  let mixed ←
    mixVoices? { sound.frameInput with noiseLevel := noise.output } sound.ram 0 0 .silent
      sound.bank sound.voices
  let mainLeft ← sound.mainLeft.tick?
  let mainRight ← sound.mainRight.tick?
  return (mixed.mix,
    { sound with
      noise := noise
      bank := mixed.bank
      voices := mixed.voices
      mainLeft := mainLeft
      mainRight := mainRight
      frames := sound.frames + 1 })

/-- `mixFrame` with every value checked. -/
def mixFrame? (sound : SoundProcessor) : Option (Stereo × SoundProcessor) := do
  let (mix, mixed) ← sound.afterVoices?
  let (wet, sound) ← mixed.runReverb? ⟨clamp16 mix.wet.left, clamp16 mix.wet.right⟩
  let left ← int32? (clamp16 (mixed.mainLeft.apply mix.dry.left) + wet.left)
  let right ← int32? (clamp16 (mixed.mainRight.apply mix.dry.right) + wet.right)
  return (if sound.control &&& unmuteBit = 0 then ⟨0, 0⟩ else ⟨clamp16 left, clamp16 right⟩,
    sound)

/-- What `mixVoices` makes of the mix. -/
def mixVoice (mix : VoiceMix) (voice : Voice) (output : Int) (isWet : Bool) : VoiceMix :=
  if output = 0 then
    mix
  else
    mix.add (voice.volumeLeft.apply output) (voice.volumeRight.apply output) isWet

/-- A voice can be added to a bounded mix. -/
theorem addVoice?_eq_some
    {mix : VoiceMix}
    {voice : Voice}
    {bound : Nat}
    {output : Int}
    (within : mix.Within bound)
    (wellFormed : voice.WellFormed)
    (isSample : IsSample output)
    (room : bound + 0x8000 ≤ 0x7FFFFFFF)
    (isWet : Bool) :
    addVoice? mix voice output isWet = some (mixVoice mix voice output isWet) ∧
      (mixVoice mix voice output isWet).Within (bound + 0x8000) := by
  unfold addVoice? mixVoice
  split
  · exact ⟨rfl, Nat.le_trans within.left (Nat.le_add_right _ _),
      Nat.le_trans within.right (Nat.le_add_right _ _)⟩
  · rw [wellFormed.volumeLeft.scale?_eq_some isSample, some_bind,
      wellFormed.volumeRight.scale?_eq_some isSample, some_bind]
    exact within.add?_eq_some (wellFormed.volumeLeft.isSample_apply isSample)
      (wellFormed.volumeRight.isSample_apply isSample) room isWet

theorem plus_mixVoice
    (first second : VoiceMix)
    (voice : Voice)
    (output : Int)
    (isWet : Bool) :
    first.plus (mixVoice second voice output isWet) =
      (mixVoice first voice output isWet).plus second := by
  unfold mixVoice
  split
  · rfl
  · exact VoiceMix.plus_add _ _ _ _ _

/--
Mixing well-formed voices fits.  The sums are those of `mixVoices`, which adds the
voices from the last one on, on top of the mix so far.
-/
theorem mixVoices?_eq_some
    {frame : FrameInput}
    {ram : ByteArray}
    (index : Nat)
    {bound : Nat}
    {previous : Int}
    {mix : VoiceMix}
    {bank : SoundBank}
    {voices : List Voice}
    (ramSize : ram.size = soundRamSize)
    (noise : IsSample frame.noiseLevel)
    (modulator : IsSample previous)
    (bankPlayable : bank.IsPlayable)
    (wellFormed : ∀ voice, voice ∈ voices → voice.WellFormed)
    (within : mix.Within bound)
    (room : bound + voices.length * 0x8000 ≤ 0x7FFFFFFF) :
    mixVoices? frame ram index previous mix bank voices =
      some
        { mixVoices frame ram index previous bank voices with
          mix := mix.plus (mixVoices frame ram index previous bank voices).mix } := by
  induction voices generalizing index previous mix bank bound with
  | nil => simp only [mixVoices?, mixVoices, VoiceMix.plus_silent]
  | cons voice rest inductionHypothesis =>
      rw [List.length_cons, Nat.add_one_mul, Nat.add_comm (rest.length * 0x8000),
        ← Nat.add_assoc] at room
      have first := wellFormed voice (.head _)
      have inputInRange := frame.voiceInput_inRange index noise modulator
      obtain ⟨ready, output⟩ := first.render bankPlayable ramSize inputInRange
      obtain ⟨added, stillWithin⟩ :=
        addVoice?_eq_some within ready.voice.tickVolumes output
          (Nat.le_of_add_right_le room) (FrameInput.hasBit frame.reverberant index)
      have later :=
        inductionHypothesis (index + 1) output ready.bank
          (fun voice member => wellFormed voice (.tail _ member)) stillWithin room
      rw [mixVoices?, first.render?_eq_some bankPlayable ramSize inputInRange, some_bind,
        ready.voice.tickVolumes?_eq_some, some_bind, added, some_bind, later, some_bind,
        ← plus_mixVoice]
      rfl

theorem deepen?_eq_some
    {sample depth : Int}
    (isSample : IsSample sample)
    (depthSample : IsSample depth) :
    deepen? sample depth = some (scaled sample depth) := by
  have product := natAbs_mul_le isSample.natAbs_le depthSample.natAbs_le
  rw [deepen?, int32?_eq_some_of_le product (by decide), some_bind]
  exact
    int32?_eq_some_of_le
      (natAbs_scaled_le isSample.natAbs_le
        (Nat.le_trans depthSample.natAbs_le (show 0x8000 ≤ 1 * 0x8000 by decide)))
      (by decide)

/-- Running the reverb fits, and so does adding its output to a sample. -/
theorem WellFormed.runReverb?_eq_some
    {sound : SoundProcessor}
    {input : Stereo}
    (wellFormed : sound.WellFormed)
    (inputInRange : input.InRange) :
    sound.runReverb? input = some (sound.runReverb input) ∧
      (sound.runReverb input).1.left.natAbs ≤ 0x8000 ∧
      (sound.runReverb input).1.right.natAbs ≤ 0x8000 := by
  obtain ⟨outputInRange, -⟩ :=
    wellFormed.reverb.process inputInRange sound.reverbRegisters sound.ram
  have processed :=
    wellFormed.reverb.process?_eq_some inputInRange sound.reverbRegisters sound.ram
  have deepened {sample : Int} (isSample : IsSample sample) (depth : UInt16) :
      (scaled sample (signedHalf depth)).natAbs ≤ 0x8000 * 1 :=
    natAbs_scaled_le isSample.natAbs_le
      (Nat.le_trans (isSample_signedHalf depth).natAbs_le (by decide))
  unfold runReverb? SoundProcessor.runReverb
  split
  · rw [processed, some_bind]
    dsimp only
    rw [deepen?_eq_some outputInRange.left (isSample_signedHalf _), some_bind,
      deepen?_eq_some outputInRange.right (isSample_signedHalf _), some_bind]
    exact ⟨rfl, deepened outputInRange.left _, deepened outputInRange.right _⟩
  · exact ⟨rfl, Nat.zero_le _, Nat.zero_le _⟩

theorem WellFormed.mixedVoices?_eq_some
    {sound : SoundProcessor}
    (wellFormed : sound.WellFormed) :
    mixVoices? sound.frameInput sound.ram 0 0 .silent sound.bank sound.voices =
      some sound.mixedVoices := by
  have within : VoiceMix.silent.Within 0 := ⟨Nat.le_refl 0, Nat.le_refl 0⟩
  have room : 0 + sound.voices.length * 0x8000 ≤ 0x7FFFFFFF := by
    rw [wellFormed.voiceCount]
    decide
  have mixed :=
    mixVoices?_eq_some 0 wellFormed.ramSize
      (show IsSample sound.frameInput.noiseLevel from NoiseSource.isSample_output _)
      isSample_zero wellFormed.bank wellFormed.voices within room
  rw [VoiceMix.silent_plus] at mixed
  exact mixed

theorem WellFormed.afterVoices?_eq_some
    {sound : SoundProcessor}
    (wellFormed : sound.WellFormed) :
    sound.afterVoices? = some (sound.mixedVoices.mix, sound.afterVoices) := by
  have frame :
      ({ sound.frameInput with noiseLevel := sound.noise.tick.output } : FrameInput) =
        sound.frameInput :=
    rfl
  rw [afterVoices?, wellFormed.noise.tick?_eq_some, some_bind, frame,
    wellFormed.mixedVoices?_eq_some, some_bind, wellFormed.mainLeft.tick?_eq_some, some_bind,
    wellFormed.mainRight.tick?_eq_some, some_bind]
  rfl

theorem WellFormed.mixFrame?_eq_some
    {sound : SoundProcessor}
    (wellFormed : sound.WellFormed) :
    sound.mixFrame? = some sound.mixFrame := by
  obtain ⟨reverbed, wetLeft, wetRight⟩ :=
    wellFormed.afterVoices.runReverb?_eq_some sound.reverbInput_inRange
  have left :=
    natAbs_add_le
      (isSample_clamp16
        (sound.afterVoices.mainLeft.apply sound.mixedVoices.mix.dry.left)).natAbs_le
      wetLeft
  have right :=
    natAbs_add_le
      (isSample_clamp16
        (sound.afterVoices.mainRight.apply sound.mixedVoices.mix.dry.right)).natAbs_le
      wetRight
  have input :
      ⟨clamp16 sound.mixedVoices.mix.wet.left, clamp16 sound.mixedVoices.mix.wet.right⟩ =
        sound.reverbInput :=
    rfl
  rw [mixFrame?, wellFormed.afterVoices?_eq_some, some_bind]
  dsimp only
  rw [input, reverbed, some_bind, int32?_eq_some_of_le left (by decide), some_bind,
    int32?_eq_some_of_le right (by decide), some_bind, mixFrame_eq]
  rfl

/--
Whatever operations came before, mixing a frame computes with 32-bit values just as
with mathematical integers: every value fits.  Every voice puts out a sample, and so
does the frame on both sides.
-/
theorem performAll_mixesWithinRange (operations : List Operation) :
    (initial.performAll operations).mixFrame? =
        some (initial.performAll operations).mixFrame ∧
      (∀ voice,
        voice ∈ (initial.performAll operations).mixFrame.2.voices →
        IsSample voice.lastOutput) ∧
      IsSample (initial.performAll operations).mixFrame.1.left ∧
      IsSample (initial.performAll operations).mixFrame.1.right := by
  have wellFormed := wellFormed_initial.performAll operations
  generalize initial.performAll operations = sound at wellFormed
  refine ⟨wellFormed.mixFrame?_eq_some, ?_, ?_⟩
  · intro voice member
    exact (wellFormed.mixFrame.voices voice member).lastOutput
  · exact ⟨sound.mixFrame_inRange.left, sound.mixFrame_inRange.right⟩

end PsxPlayer.SoundProcessor
