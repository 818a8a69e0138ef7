import PsxPlayer.Proofs.Sound.Coherence
import PsxPlayer.Proofs.Sound.Voice

namespace PsxPlayer

/-!
# Well-formed sound processors

From power-on, sound RAM keeps its size, the bank stays playable, the voices stay
well-formed and all levels stay in their ranges, through every operation.
-/

/-- Both sides are samples. -/
structure Stereo.InRange (stereo : Stereo) : Prop where
  left : IsSample stereo.left
  right : IsSample stereo.right

namespace Reverb

/-- The work area starts inside sound RAM. -/
theorem base_lt (registers : ReverbRegisters) : registers.base < soundRamSize := by
  have below := registers.workArea.toNat_lt
  unfold ReverbRegisters.base soundRamSize
  omega

/-- The reverb holds samples, and its place is in sound RAM. -/
structure InRange (reverb : Reverb) : Prop where
  held : reverb.held.InRange
  pending : ∀ first, reverb.pending? = some first → first.InRange
  current_lt : reverb.current < soundRamSize

/-- The reverb starts in range. -/
theorem inRange_initial : initial.InRange where
  held := ⟨isSample_zero, isSample_zero⟩
  pending := fun _ found => nomatch found
  current_lt := by decide

/-- A step answers with samples and goes on inside sound RAM. -/
theorem step_inRange
    (current : Nat)
    (registers : ReverbRegisters)
    (ram : ByteArray)
    (input : Stereo) :
    (step current registers ram input).1.InRange ∧
      (step current registers ram input).2.1 < soundRamSize := by
  refine ⟨⟨isSample_clamp16 _, isSample_clamp16 _⟩, ?_⟩
  have inside (current : Nat) : advance current registers.base < soundRamSize := by
    have below := base_lt registers
    unfold advance
    split <;> omega
  exact inside _

/-- The reverb stays in range, and so does what it gives out. -/
theorem InRange.process
    {reverb : Reverb}
    {input : Stereo}
    (inRange : reverb.InRange)
    (inputInRange : input.InRange)
    (registers : ReverbRegisters)
    (ram : ByteArray) :
    (reverb.process registers ram input).1.InRange ∧
      (reverb.process registers ram input).2.1.InRange := by
  unfold Reverb.process
  split
  · refine ⟨inRange.held, ?_⟩
    exact
      { inRange with
        pending := fun first found => Option.some.inj found ▸ inputInRange }
  · obtain ⟨samples, inside⟩ := step_inRange reverb.current registers ram _
    exact ⟨samples, samples, (fun _ found => nomatch found), inside⟩

end Reverb

namespace SoundProcessor

/-! ## Mixing the voices -/

/-- A voice is given the output of the voice before and the noise level. -/
theorem FrameInput.voiceInput_inRange
    (frame : FrameInput)
    (index : Nat)
    {previous : Int}
    (noise : IsSample frame.noiseLevel)
    (modulator : IsSample previous) :
    Voice.InputInRange (frame.voiceInput index previous) := by
  refine ⟨fun other found => ?_, fun level found => ?_⟩
  · exact Option.some.inj (Option.ite_none_right_eq_some.mp found).2 ▸ modulator
  · exact Option.some.inj (Option.ite_none_right_eq_some.mp found).2 ▸ noise

/-- What is the same for all voices of the next frame. -/
def frameInput (sound : SoundProcessor) : FrameInput where
  filter := sound.filter
  noiseLevel := sound.noise.tick.output
  modulated := sound.modulated
  noisy := sound.noisy
  reverberant := sound.reverberant

/-- Rendering keeps well-formed voices so, and the bank playable. -/
theorem FrameInput.mixVoices_wellFormed
    (frame : FrameInput)
    {ram : ByteArray}
    (index : Nat)
    {previous : Int}
    {bank : SoundBank}
    {voices : List Voice}
    (ramSize : ram.size = soundRamSize)
    (noise : IsSample frame.noiseLevel)
    (modulator : IsSample previous)
    (bankPlayable : bank.IsPlayable)
    (wellFormed : ∀ voice, voice ∈ voices → voice.WellFormed) :
    (mixVoices frame ram index previous bank voices).bank.IsPlayable ∧
      ∀ voice,
        voice ∈ (mixVoices frame ram index previous bank voices).voices →
        voice.WellFormed := by
  induction voices generalizing index previous bank with
  | nil => exact ⟨bankPlayable, wellFormed⟩
  | cons voice rest inductionHypothesis =>
      have inputInRange := frame.voiceInput_inRange index noise modulator
      obtain ⟨ready, output⟩ :=
        (wellFormed voice (.head _)).render bankPlayable ramSize inputInRange
      obtain ⟨laterPlayable, laterWellFormed⟩ :=
        inductionHypothesis (index + 1) output ready.bank
          fun voice member => wellFormed voice (.tail _ member)
      refine ⟨laterPlayable, ?_⟩
      intro after member
      rcases List.mem_cons.mp member with isFirst | isLater
      · exact isFirst ▸ ready.voice.tickVolumes
      · exact laterWellFormed after isLater

/-- Mixing a frame adds and removes no voice. -/
theorem length_mixVoices
    (frame : FrameInput)
    (ram : ByteArray)
    (index : Nat)
    (previous : Int)
    (bank : SoundBank)
    (voices : List Voice) :
    (mixVoices frame ram index previous bank voices).voices.length = voices.length := by
  induction voices generalizing index previous bank with
  | nil => rfl
  | cons voice rest inductionHypothesis =>
      exact congrArg (· + 1) (inductionHypothesis _ _ _)

/-- The voices of the next frame, rendered and summed. -/
def mixedVoices (sound : SoundProcessor) : MixState :=
  mixVoices sound.frameInput sound.ram 0 0 sound.bank sound.voices

/-- The state after the voices of the next frame, before the reverb. -/
def afterVoices (sound : SoundProcessor) : SoundProcessor :=
  { sound with
    noise := sound.noise.tick
    bank := sound.mixedVoices.bank
    voices := sound.mixedVoices.voices
    mainLeft := sound.mainLeft.tick
    mainRight := sound.mainRight.tick
    frames := sound.frames + 1 }

/-- What the voices of the next frame feed to the reverb. -/
def reverbInput (sound : SoundProcessor) : Stereo :=
  ⟨clamp16 sound.mixedVoices.mix.wet.left, clamp16 sound.mixedVoices.mix.wet.right⟩

/-- What goes into the reverb has been limited. -/
theorem reverbInput_inRange (sound : SoundProcessor) : sound.reverbInput.InRange :=
  ⟨isSample_clamp16 _, isSample_clamp16 _⟩

/-- A frame runs the reverb after the voices, and a muted one answers with silence. -/
theorem mixFrame_eq (sound : SoundProcessor) :
    sound.mixFrame =
      (if (sound.afterVoices.runReverb sound.reverbInput).2.control &&& unmuteBit = 0 then
          ⟨0, 0⟩
        else
          ⟨clamp16
              (clamp16 (sound.afterVoices.mainLeft.apply sound.mixedVoices.mix.dry.left) +
                (sound.afterVoices.runReverb sound.reverbInput).1.left),
            clamp16
              (clamp16 (sound.afterVoices.mainRight.apply sound.mixedVoices.mix.dry.right) +
                (sound.afterVoices.runReverb sound.reverbInput).1.right)⟩,
        (sound.afterVoices.runReverb sound.reverbInput).2) := by
  have paired (muted : Prop) [Decidable muted] (silence frame : Stereo)
      (after : SoundProcessor) :
      (if muted then (silence, after) else (frame, after)) =
        (if muted then silence else frame, after) := by
    split <;> rfl
  exact paired _ _ _ _

/-- A frame mixes the voices and then runs the reverb. -/
theorem mixFrame_snd (sound : SoundProcessor) :
    sound.mixFrame.2 = (sound.afterVoices.runReverb sound.reverbInput).2 := by
  rw [mixFrame_eq]

/-- What is mixed has been limited. -/
theorem mixFrame_inRange (sound : SoundProcessor) : sound.mixFrame.1.InRange := by
  rw [mixFrame_eq]
  dsimp only
  split
  · exact ⟨isSample_zero, isSample_zero⟩
  · exact ⟨isSample_clamp16 _, isSample_clamp16 _⟩

/-! ## The state between operations -/

/-- What holds of a sound processor at all times. -/
structure WellFormed (sound : SoundProcessor) : Prop where
  ramSize : sound.ram.size = soundRamSize
  bank : sound.bank.IsPlayable
  voiceCount : sound.voices.length = voiceCount
  voices : ∀ voice, voice ∈ sound.voices → voice.WellFormed
  mainLeft : sound.mainLeft.InRange
  mainRight : sound.mainRight.InRange
  noise : sound.noise.InRange
  reverb : sound.reverb.InRange

/-- The sound processor starts well formed. -/
theorem wellFormed_initial : initial.WellFormed where
  ramSize := size_zeroBytes soundRamSize
  bank := SoundBank.isPlayable_empty
  voiceCount := List.length_replicate
  voices := fun _ member => (List.mem_replicate.mp member).2 ▸ Voice.wellFormed_initial
  mainLeft := Volume.inRange_initial
  mainRight := Volume.inRange_initial
  noise := NoiseSource.inRange_initial
  reverb := Reverb.inRange_initial

/-- A reset makes the sound processor well formed, whatever it was before. -/
theorem wellFormed_reset (sound : SoundProcessor) : sound.reset.WellFormed :=
  { wellFormed_initial with }

/-- Any value may be written to any register of a voice. -/
theorem writeVoice_wellFormed
    {voice : Voice}
    (wellFormed : voice.WellFormed)
    (value : UInt16)
    (register : VoiceRegister) :
    (writeVoice voice value register).WellFormed := by
  cases register with
  | volumeLeft => exact { wellFormed with volumeLeft := wellFormed.volumeLeft.set value }
  | volumeRight => exact { wellFormed with volumeRight := wellFormed.volumeRight.set value }
  | envelopeLow =>
      exact { wellFormed with
        envelope := ⟨wellFormed.envelope.nonneg, wellFormed.envelope.le_max⟩ }
  | envelopeHigh =>
      exact { wellFormed with
        envelope := ⟨wellFormed.envelope.nonneg, wellFormed.envelope.le_max⟩ }
  | _ => exact { wellFormed with }

namespace WellFormed

/-- The bank only loses instruments, and sound RAM keeps its size. -/
theorem store
    {sound : SoundProcessor}
    {ram : ByteArray}
    (wellFormed : sound.WellFormed)
    (sameSize : ram.size = sound.ram.size)
    (first last : Nat) :
    { sound with ram := ram, bank := sound.bank.invalidate first last }.WellFormed :=
  { wellFormed with
    ramSize := sameSize.trans wellFormed.ramSize
    bank := wellFormed.bank.invalidate first last }

/-- A well-formed voice may take the place of any other. -/
theorem setVoice
    {sound : SoundProcessor}
    {voice : Voice}
    (wellFormed : sound.WellFormed)
    (voiceWellFormed : voice.WellFormed)
    (index : Nat) :
    (sound.setVoice index voice).WellFormed :=
  { wellFormed with
    voiceCount := List.length_set.trans wellFormed.voiceCount
    voices := by
      intro other member
      rcases List.mem_or_eq_of_mem_set member with old | new
      · exact wellFormed.voices other old
      · exact new ▸ voiceWellFormed }

/-- Every voice is well formed, and a missing one is silent. -/
theorem voiceOrSilent
    {sound : SoundProcessor}
    (wellFormed : sound.WellFormed)
    (index : Nat) :
    (sound.voiceOrSilent index).WellFormed := by
  unfold SoundProcessor.voiceOrSilent
  cases found : sound.voices[index]? with
  | none => exact Voice.wellFormed_initial
  | some voice => exact wellFormed.voices voice (List.mem_of_getElem? found)

/-- A voice that is found is well formed. -/
theorem voice
    {sound : SoundProcessor}
    {index : Nat}
    {voice : Voice}
    (wellFormed : sound.WellFormed)
    (found : sound.voice index = .ok voice) :
    voice.WellFormed := by
  unfold SoundProcessor.voice at found
  split at found
  · next other inVoices =>
      exact Except.ok.inj found ▸ wellFormed.voices other (List.mem_of_getElem? inVoices)
  · cases found

/-- A halfword for sound RAM keeps the sound processor well formed. -/
theorem pushHalf
    {sound : SoundProcessor}
    (wellFormed : sound.WellFormed)
    (value : UInt16) :
    (sound.pushHalf value).WellFormed :=
  { wellFormed.store (size_setLittle _ _ _ .half) _ _ with }

/-- A block for sound RAM keeps the sound processor well formed. -/
theorem pushFrom
    {sound : SoundProcessor}
    (wellFormed : sound.WellFormed)
    (address : Nat)
    (data : ByteArray)
    (first : Nat) :
    (sound.pushFrom address data first).WellFormed := by
  fun_induction SoundProcessor.pushFrom sound address data first with
  | case1 sound address first room length next inductionHypothesis =>
      have inTarget : address + length ≤ sound.ram.size := by
        rw [wellFormed.ramSize]
        unfold length transferRun
        omega
      have inSource : first + length ≤ data.size := by
        unfold length transferRun
        omega
      exact inductionHypothesis (wellFormed.store (size_copySlice inSource inTarget) _ _)
  | case2 sound address first noRoom => exact { wellFormed with }

/-- Any value may be written to any register. -/
theorem write
    {sound : SoundProcessor}
    (wellFormed : sound.WellFormed)
    (address : UInt32)
    (value : UInt16) :
    (sound.write address value).WellFormed := by
  unfold SoundProcessor.write
  dsimp only
  generalize sound.written.set _ value _ = written
  have kept : { sound with written := written }.WellFormed := { wellFormed with }
  generalize { sound with written := written } = sound at kept
  cases SoundRegister.ofAddress address with
  | voice index register =>
      exact kept.setVoice (writeVoice_wellFormed (kept.voiceOrSilent index) value register) index
  | mainVolumeLeft => exact { kept with mainLeft := kept.mainLeft.set value }
  | mainVolumeRight => exact { kept with mainRight := kept.mainRight.set value }
  | transferFifo => exact kept.pushHalf value
  | control => exact { kept with noise := kept.noise.setFrequency _ _ }
  | _ => exact { kept with }

/-- A note keeps the sound processor well formed. -/
theorem keyOn
    {sound : SoundProcessor}
    (wellFormed : sound.WellFormed)
    (index : Nat) :
    (sound.accept (sound.keyOn index)).WellFormed := by
  unfold accept SoundProcessor.keyOn
  cases found : sound.voice index with
  | error fault => exact wellFormed
  | ok voice =>
      obtain ⟨voiceWellFormed, bankPlayable⟩ :=
        (wellFormed.voice found).keyOn wellFormed.bank wellFormed.ramSize
      exact { wellFormed.setVoice voiceWellFormed index with bank := bankPlayable }

/-- The end of a note keeps the sound processor well formed. -/
theorem keyOff
    {sound : SoundProcessor}
    (wellFormed : sound.WellFormed)
    (index : Nat) :
    (sound.accept (sound.keyOff index)).WellFormed := by
  unfold accept SoundProcessor.keyOff
  cases found : sound.voice index with
  | error fault => exact wellFormed
  | ok voice => exact wellFormed.setVoice (wellFormed.voice found).keyOff index

/-- A loop address keeps the sound processor well formed. -/
theorem overrideLoop
    {sound : SoundProcessor}
    (wellFormed : sound.WellFormed)
    (index : Nat) :
    (sound.accept (sound.overrideLoop index)).WellFormed := by
  unfold accept SoundProcessor.overrideLoop
  cases found : sound.voice index with
  | error fault => exact wellFormed
  | ok voice => exact wellFormed.setVoice (wellFormed.voice found).overrideLoop index

/-- The reverb leaves everything well-formed and answers with samples. -/
theorem runReverb
    {sound : SoundProcessor}
    {input : Stereo}
    (wellFormed : sound.WellFormed)
    (inputInRange : input.InRange) :
    (sound.runReverb input).2.WellFormed := by
  unfold SoundProcessor.runReverb
  split
  · obtain ⟨-, reverbInRange⟩ :=
      wellFormed.reverb.process inputInRange sound.reverbRegisters sound.ram
    have sameSize :=
      (Reverb.process_storedAt sound.reverb sound.reverbRegisters sound.ram input).sameSize
    exact
      { wellFormed with
        ramSize := sameSize.trans wellFormed.ramSize
        reverb := reverbInRange }
  · exact wellFormed

/-- Mixing the voices keeps the sound processor well formed. -/
theorem afterVoices
    {sound : SoundProcessor}
    (wellFormed : sound.WellFormed) :
    sound.afterVoices.WellFormed := by
  have noise : IsSample sound.frameInput.noiseLevel := NoiseSource.isSample_output _
  obtain ⟨bankPlayable, voicesWellFormed⟩ :=
    sound.frameInput.mixVoices_wellFormed 0 wellFormed.ramSize noise isSample_zero
      wellFormed.bank wellFormed.voices
  exact
    { wellFormed with
      bank := bankPlayable
      voiceCount := (length_mixVoices _ _ _ _ _ _).trans wellFormed.voiceCount
      voices := voicesWellFormed
      mainLeft := wellFormed.mainLeft.tick
      mainRight := wellFormed.mainRight.tick
      noise := wellFormed.noise.tick }

/-- Mixing a frame keeps the sound processor well formed. -/
theorem mixFrame
    {sound : SoundProcessor}
    (wellFormed : sound.WellFormed) :
    sound.mixFrame.2.WellFormed := by
  rw [mixFrame_snd]
  exact wellFormed.afterVoices.runReverb sound.reverbInput_inRange

/-- Every command keeps the sound processor well formed. -/
theorem obey
    {sound : SoundProcessor}
    (wellFormed : sound.WellFormed)
    (command : Command) :
    (sound.obey command).WellFormed := by
  cases command with
  | write address value => exact wellFormed.write address value
  | keyOn index => exact wellFormed.keyOn index
  | keyOff index => exact wellFormed.keyOff index
  | overrideLoop index => exact wellFormed.overrideLoop index
  | pushHalf value => exact wellFormed.pushHalf value
  | popHalf => exact { wellFormed with }
  | pushBlock data => exact wellFormed.pushFrom _ data 0
  | popBlock length => exact { wellFormed with }
  | enableReverb enabled => exact { wellFormed with }
  | mixFrame => exact wellFormed.mixFrame

end WellFormed

/-! ## Runs of operations -/

/-- The commands, a reset, and the choice of the filter. -/
inductive Operation where
  | command (command : Command)
  | reset
  | setFilter (filter : Filter)

/-- Carry out an operation. -/
def perform (sound : SoundProcessor) : Operation → SoundProcessor
  | .command command => sound.obey command
  | .reset => sound.reset
  | .setFilter filter => { sound with filter := filter }

/-- Carry out operations one after the other. -/
def performAll (sound : SoundProcessor) (operations : List Operation) : SoundProcessor :=
  operations.foldl perform sound

/-- Every operation keeps the sound processor well formed. -/
theorem WellFormed.perform
    {sound : SoundProcessor}
    (wellFormed : sound.WellFormed)
    (operation : Operation) :
    (sound.perform operation).WellFormed := by
  cases operation with
  | command command => exact wellFormed.obey command
  | reset => exact sound.wellFormed_reset
  | setFilter filter => exact { wellFormed with }

/-- Any run of operations keeps a sound processor well-formed. -/
theorem WellFormed.performAll
    {sound : SoundProcessor}
    (wellFormed : sound.WellFormed)
    (operations : List Operation) :
    (sound.performAll operations).WellFormed := by
  induction operations generalizing sound with
  | nil => exact wellFormed
  | cons operation rest inductionHypothesis =>
      exact inductionHypothesis (wellFormed.perform operation)

end SoundProcessor

end PsxPlayer
