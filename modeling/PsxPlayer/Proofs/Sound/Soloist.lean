import PsxPlayer.Proofs.Sound.Register

namespace PsxPlayer

/-!
# Voices side by side

All voices share sound RAM, the noise source and the bank of decoded instruments.  A bank that
follows sound RAM gives out what is decoded there, whichever voice fetched it first.  So a voice
whose pitch no other voice modulates plays like a soloist, as long as the reverb leaves sound
RAM alone: only the commands that cue it matter.
-/

/-- A result and the voice after it. -/
def Played.heard {α : Type} (played : Played α) : α × Voice :=
  (played.value, played.voice)

namespace Voice

/-- Taking the sample under the cursor does not look at the bank. -/
theorem heard_take
    (voice : Voice)
    (first second : SoundBank) :
    (voice.take first).heard = (voice.take second).heard := by
  unfold take
  split <;> rfl

section

variable {ram : ByteArray} {first second : SoundBank}

/-- Two banks of what sound RAM holds rewind a voice to the same place. -/
theorem rewind_alike
    (voice : Voice)
    (instrument : Instrument)
    (firstCoherent : first.Coherent ram)
    (secondCoherent : second.Coherent ram) :
    (voice.rewind first ram instrument).1 = (voice.rewind second ram instrument).1 := by
  unfold rewind
  split
  · next address _ =>
      simp only [firstCoherent.fetch_eq_decode, secondCoherent.fetch_eq_decode]
  · rfl

/-- Two banks of what sound RAM holds start the same note. -/
theorem keyOn_alike
    (voice : Voice)
    (firstCoherent : first.Coherent ram)
    (secondCoherent : second.Coherent ram) :
    (voice.keyOn first ram).1 = (voice.keyOn second ram).1 := by
  simp only [keyOn, firstCoherent.fetch_eq_decode, secondCoherent.fetch_eq_decode]

/-- Two banks of what sound RAM holds give the same next sample. -/
theorem heard_next
    (voice : Voice)
    (firstCoherent : first.Coherent ram)
    (secondCoherent : second.Coherent ram) :
    (voice.next first ram).heard = (voice.next second ram).heard := by
  unfold next
  split
  · rfl
  · next instrument _ =>
      split
      · exact voice.heard_take first second
      · split
        · have rewound := voice.rewind_alike instrument firstCoherent secondCoherent
          let later := (voice.rewind second ram instrument).2
          have taken := heard_take (voice.rewind first ram instrument).1
            (voice.rewind first ram instrument).2 later
          exact taken.trans (congrArg (fun after : Voice => (after.take later).heard) rewound)
        · rfl

/-- Two banks of what sound RAM holds give the same samples. -/
theorem heard_takeIn
    (count : Nat)
    (voice : Voice)
    (firstCoherent : first.Coherent ram)
    (secondCoherent : second.Coherent ram) :
    (takeIn count voice first ram).heard = (takeIn count voice second ram).heard := by
  induction count generalizing voice first second with
  | zero => rfl
  | succ count inductionHypothesis =>
      let moved := { voice with position := voice.position - positionOne }
      have same := moved.heard_next firstCoherent secondCoherent
      have firstLater := firstCoherent.fetched (moved.next_fetched first ram)
      have secondLater := secondCoherent.fetched (moved.next_fetched second ram)
      simp only [takeIn]
      rcases firstFound : moved.next first ram with ⟨value, after, firstBank⟩
      rcases secondFound : moved.next second ram with ⟨otherValue, otherAfter, secondBank⟩
      rw [firstFound] at same firstLater
      rw [secondFound] at same secondLater
      obtain ⟨rfl, rfl⟩ : value = otherValue ∧ after = otherAfter := Prod.mk.inj same
      cases value with
      | none => rfl
      | some sample => exact inductionHypothesis _ firstLater secondLater

/-- What a voice plays does not depend on what other voices have put into the bank. -/
theorem heard_render
    (voice : Voice)
    (input : VoiceInput)
    (firstCoherent : first.Coherent ram)
    (secondCoherent : second.Coherent ram) :
    (voice.render first ram input).heard = (voice.render second ram input).heard := by
  have same :=
    heard_takeIn (voice.position / positionOne) voice firstCoherent secondCoherent
  unfold render
  split
  · rfl
  · rcases firstFound : takeIn (voice.position / positionOne) voice first ram with
      ⟨sounds, after, firstBank⟩
    rcases secondFound : takeIn (voice.position / positionOne) voice second ram with
      ⟨otherSounds, otherAfter, secondBank⟩
    rw [firstFound, secondFound] at same
    obtain ⟨rfl, rfl⟩ : sounds = otherSounds ∧ after = otherAfter := Prod.mk.inj same
    cases sounds <;> rfl

end

/-- A voice that has come to its end gives out nothing. -/
theorem lastOutput_takeIn_of_ended
    {count : Nat}
    {voice : Voice}
    {bank : SoundBank}
    {ram : ByteArray}
    (ended : (takeIn count voice bank ram).value = false) :
    (takeIn count voice bank ram).voice.lastOutput = 0 := by
  induction count generalizing voice bank with
  | zero => cases ended
  | succ count inductionHypothesis =>
      simp only [takeIn] at ended ⊢
      split at ended
      · exact inductionHypothesis ended
      · rfl

/-- The latest output is the one that was rendered last. -/
theorem lastOutput_render
    (voice : Voice)
    (bank : SoundBank)
    (ram : ByteArray)
    (input : VoiceInput) :
    (voice.render bank ram input).voice.lastOutput = (voice.render bank ram input).value := by
  unfold render
  split
  · rfl
  · split
    · rfl
    · next found =>
        have ended : (takeIn (voice.position / positionOne) voice bank ram).value = false :=
          congrArg Played.value found
        have silent := lastOutput_takeIn_of_ended ended
        rw [found] at silent
        exact silent

end Voice

/-! ## A voice on its own -/

/-- A voice with all that it plays from. -/
structure Soloist where
  voice : Voice
  isNoisy : Bool
  ram : ByteArray
  noise : NoiseSource
  filter : Filter

/-- What a soloist takes notice of. -/
inductive Cue where
  | register (register : VoiceRegister) (value : UInt16)
  | keyOn
  | keyOff
  | overrideLoop
  | playNoise (isNoisy : Bool)
  | clockNoise (shift step : Nat)
  /-- A halfword is stored at an address of sound RAM. -/
  | store (address : Nat) (value : UInt16)
  /-- A block is stored from an address of sound RAM on. -/
  | storeBlock (address : Nat) (data : ByteArray)
  | frame

/-- The input of a voice that no other voice modulates. -/
def soloInput (filter : Filter) (isNoisy : Bool) (noiseLevel : Int) : VoiceInput where
  filter := filter
  modulator? := none
  noise? := if isNoisy then some noiseLevel else none

namespace Soloist

/-- What is rendered in the next frame; nobody has put anything into the bank. -/
def played (soloist : Soloist) : Played Int :=
  soloist.voice.render .empty soloist.ram
    (soloInput soloist.filter soloist.isNoisy soloist.noise.tick.output)

/-- Follow a cue. -/
def follow (soloist : Soloist) : Cue → Soloist
  | .register register value =>
      { soloist with voice := SoundProcessor.writeVoice soloist.voice value register }
  | .keyOn => { soloist with voice := (soloist.voice.keyOn .empty soloist.ram).1 }
  | .keyOff => { soloist with voice := soloist.voice.keyOff }
  | .overrideLoop => { soloist with voice := soloist.voice.overrideLoop }
  | .playNoise isNoisy => { soloist with isNoisy := isNoisy }
  | .clockNoise shift step => { soloist with noise := soloist.noise.setFrequency shift step }
  | .store address value =>
      { soloist with ram := setLittle soloist.ram address value.toUInt32 .half }
  | .storeBlock address data =>
      { soloist with
        ram := ({ SoundProcessor.initial with ram := soloist.ram }.pushFrom address data 0).ram }
  | .frame =>
      { soloist with
        voice := soloist.played.voice.tickVolumes
        noise := soloist.noise.tick }

/-- The outputs in the frames of a run. -/
def outputs (soloist : Soloist) : List Cue → List Int
  | [] => []
  | .frame :: rest => soloist.played.value :: (soloist.follow .frame).outputs rest
  | cue :: rest => (soloist.follow cue).outputs rest

/-- No cue but a frame is heard at once. -/
theorem outputs_of_ne_frame
    {cue : Cue}
    (notFrame : cue ≠ .frame)
    (soloist : Soloist)
    (rest : List Cue) :
    soloist.outputs (cue :: rest) = (soloist.follow cue).outputs rest := by
  cases cue with
  | frame => exact absurd rfl notFrame
  | _ => rfl

/-- Whether the next frame takes one sample at most, and that from the instrument. -/
def isUnderWay (soloist : Soloist) : Bool :=
  match soloist.voice.instrument? with
  | some instrument =>
      soloist.voice.cursor < instrument.samples.size &&
        soloist.voice.position / positionOne ≤ 1
  | none => false

/-- Under way in its instrument a voice does not look into sound RAM. -/
theorem played_withRam
    (soloist : Soloist)
    (ram : ByteArray)
    (underWay : soloist.isUnderWay = true) :
    { soloist with ram := ram }.played = soloist.played := by
  unfold isUnderWay at underWay
  split at underWay
  · next instrument attached =>
      obtain ⟨below, single⟩ := Bool.and_eq_true_iff.mp underWay
      simp only [decide_eq_true_eq] at below single
      have next (ram : ByteArray) (position : Nat) :
          ({ soloist.voice with position := position }).next .empty ram =
            ({ soloist.voice with position := position }).take .empty := by
        simp only [Voice.next, attached, below, ↓reduceIte]
      have takeIn (ram : ByteArray) :
          Voice.takeIn (soloist.voice.position / positionOne) soloist.voice .empty ram =
            Voice.takeIn (soloist.voice.position / positionOne) soloist.voice .empty .empty := by
        obtain none | one := Nat.le_one_iff_eq_zero_or_eq_one.mp single
        · rw [none]
          rfl
        · rw [one]
          simp only [Voice.takeIn, next]
      simp only [played, Voice.render, takeIn]
  · cases underWay

end Soloist

namespace SoundProcessor

/-- A voice without the others. -/
def soloist (sound : SoundProcessor) (index : Nat) : Soloist where
  voice := sound.voiceOrSilent index
  isNoisy := FrameInput.hasBit sound.noisy index
  ram := sound.ram
  noise := sound.noise
  filter := sound.filter

/-- The cue to a voice in a written register, if there is one. -/
def registerCue?
    (sound : SoundProcessor)
    (index : Nat)
    (register : SoundRegister)
    (value : UInt16) :
    Option Cue :=
  match register with
  | .voice other register => if other = index then some (.register register value) else none
  | .noise half =>
      let isNoisy := FrameInput.hasBit (half.set sound.noisy value) index
      if isNoisy = FrameInput.hasBit sound.noisy index then none else some (.playNoise isNoisy)
  | .control => some (.clockNoise (noiseShift value) (noiseStep value))
  | .transferFifo => some (.store (sound.transferAddress % soundRamSize / 2 * 2) value)
  | _ => none

/--
The cue to a voice in a command.  The other voices' registers and notes give none, and of
a transfer into sound RAM only the data and its place matter.
-/
def cue? (sound : SoundProcessor) (index : Nat) : Command → Option Cue
  | .write address value => sound.registerCue? index (.ofAddress address) value
  | .keyOn voice => if voice = index then some .keyOn else none
  | .keyOff voice => if voice = index then some .keyOff else none
  | .overrideLoop voice => if voice = index then some .overrideLoop else none
  | .pushHalf value => some (.store (sound.transferAddress % soundRamSize / 2 * 2) value)
  | .pushBlock data => some (.storeBlock (sound.transferAddress % soundRamSize) data)
  | .popHalf | .popBlock _ | .enableReverb _ => none
  | .mixFrame => some .frame

/-- The cues to a voice in a run. -/
def cues (sound : SoundProcessor) (index : Nat) : List Command → List Cue
  | [] => []
  | command :: rest => (sound.cue? index command).toList ++ (sound.obey command).cues index rest

/-- The outputs of a voice in the frames of a run. -/
def outputs (sound : SoundProcessor) (index : Nat) : List Command → List Int
  | [] => []
  | .mixFrame :: rest =>
      (sound.mixFrame.2.voiceOrSilent index).lastOutput :: sound.mixFrame.2.outputs index rest
  | command :: rest => (sound.obey command).outputs index rest

/-- A command that neither switches on the reverb nor lets the pitch of a voice be modulated. -/
def Command.keepsApart (index : Nat) : Command → Bool
  | .write address value =>
      match SoundRegister.ofAddress address with
      | .modulation half => !FrameInput.hasBit (half.set 0 value) index
      | .control => value &&& reverbMasterBit == 0
      | _ => true
  | .enableReverb enabled => !enabled
  | _ => true

/-- A command about the register, the note or the loop address of another voice. -/
def Command.isForOthers (index : Nat) : Command → Bool
  | .write address _ =>
      match SoundRegister.ofAddress address with
      | .voice other _ => other != index
      | _ => false
  | .keyOn other | .keyOff other | .overrideLoop other => other != index
  | _ => false

/-- The reverb is off and nothing modulates the pitch of a voice. -/
def IsApart (sound : SoundProcessor) (index : Nat) : Prop :=
  sound.reverbRuns = false ∧ FrameInput.hasBit sound.modulated index = false

/-- A voice plays like a soloist. -/
structure PlaysAlone (sound : SoundProcessor) (index : Nat) : Prop where
  present : index < sound.voices.length
  coherent : sound.Coherent
  isApart : sound.IsApart index

/-- A voice that is not modulated does not hear the one before. -/
theorem voiceInput_of_notModulated
    {frame : FrameInput}
    {index : Nat}
    (notModulated : FrameInput.hasBit frame.modulated index = false)
    (previous : Int) :
    frame.voiceInput index previous =
      soloInput frame.filter (FrameInput.hasBit frame.noisy index) frame.noiseLevel := by
  simp only [FrameInput.voiceInput, soloInput, notModulated, Bool.false_eq_true, and_false,
    if_false]

/-- The voices of a frame are rendered one after the other. -/
theorem voices_mixVoices_cons
    (frame : FrameInput)
    (ram : ByteArray)
    (index : Nat)
    (previous : Int)
    (bank : SoundBank)
    (voice : Voice)
    (rest : List Voice) :
    let played := voice.render bank ram (frame.voiceInput index previous)
    (mixVoices frame ram index previous bank (voice :: rest)).voices =
      played.voice.tickVolumes ::
        (mixVoices frame ram (index + 1) played.value played.bank rest).voices :=
  rfl

/-- A voice that is not modulated renders as if it were the only one. -/
theorem voices_mixVoices
    (frame : FrameInput)
    (ram : ByteArray)
    {bank : SoundBank}
    (coherent : bank.Coherent ram)
    (start place : Nat)
    (notModulated : FrameInput.hasBit frame.modulated (start + place) = false)
    (previous : Int)
    (voices : List Voice) :
    (mixVoices frame ram start previous bank voices).voices[place]? =
      voices[place]?.map fun voice =>
        (voice.render .empty ram
          (soloInput frame.filter (FrameInput.hasBit frame.noisy (start + place))
            frame.noiseLevel)).voice.tickVolumes := by
  induction voices generalizing start place previous bank with
  | nil => rfl
  | cons voice rest inductionHypothesis =>
      rw [voices_mixVoices_cons]
      cases place with
      | zero =>
          have input := voiceInput_of_notModulated notModulated previous
          have alone := voice.heard_render (frame.voiceInput start previous) coherent
            (SoundBank.coherent_empty ram)
          rw [List.getElem?_cons_zero, List.getElem?_cons_zero, Option.map_some, ← input,
            (Prod.mk.inj alone).2]
          rfl
      | succ place =>
          have moved : start + (place + 1) = start + 1 + place := by omega
          have later := coherent.fetched
            (voice.render_fetched bank ram (frame.voiceInput start previous))
          rw [List.getElem?_cons_succ, List.getElem?_cons_succ, moved]
          rw [moved] at notModulated
          exact inductionHypothesis later _ _ notModulated _

/-- What a block leaves in sound RAM depends on nothing but what was there. -/
theorem pushFrom_eq
    (sound : SoundProcessor)
    (address : Nat)
    (data : ByteArray)
    (first : Nat) :
    ∀ other : SoundProcessor,
      other.ram = sound.ram →
      ∃ bank next,
        sound.pushFrom address data first =
          { sound with
            ram := (other.pushFrom address data first).ram
            bank := bank
            transferAddress := next } := by
  fun_induction SoundProcessor.pushFrom sound address data first with
  | case1 sound address first room length next inductionHypothesis =>
      intro other sameRam
      rw [pushFrom.eq_def other, if_pos room]
      exact inductionHypothesis _
        (congrArg (fun ram => data.copySlice first ram address length) sameRam)
  | case2 sound address first noRoom =>
      intro other sameRam
      rw [pushFrom.eq_def other, if_neg noRoom]
      exact ⟨sound.bank, address, by rw [sameRam]⟩

section

variable {sound : SoundProcessor} {index : Nat}

/-- Every voice that exists is found. -/
theorem voice_of_lt
    (present : index < sound.voices.length) :
    sound.voice index = .ok (sound.voiceOrSilent index) := by
  simp [voice, voiceOrSilent, present]

/-- Without reverb a frame is what the voices make of it. -/
theorem mixFrame_of_withoutReverb
    (withoutReverb : sound.reverbRuns = false) :
    sound.mixFrame.2 = sound.afterVoices := by
  have silent : sound.afterVoices.reverbRuns = false := withoutReverb
  rw [mixFrame_snd, runReverb, if_neg (by rw [silent]; decide)]

/-- Replacing a voice replaces that of its soloist. -/
theorem soloist_setVoice_self
    (present : index < sound.voices.length)
    (voice : Voice) :
    (sound.setVoice index voice).soloist index = { sound.soloist index with voice := voice } :=
  congrArg (fun voice => { sound.soloist index with voice := voice })
    (voiceOrSilent_setVoice_self present voice)

/-- Replacing another voice leaves the soloist. -/
theorem soloist_setVoice_of_ne
    {other : Nat}
    (differs : other ≠ index)
    (voice : Voice) :
    (sound.setVoice other voice).soloist index = sound.soloist index :=
  congrArg (fun voice => { sound.soloist index with voice := voice })
    (voiceOrSilent_setVoice_of_ne differs voice)

/-- A change of a voice reaches the soloist if the voice is its own. -/
theorem soloist_changeVoice
    (present : index < sound.voices.length)
    (other : Nat)
    (change : Voice → Voice) :
    (sound.accept do
        let voice ← sound.voice other
        return sound.setVoice other (change voice)).soloist index =
      if other = index then
        { sound.soloist index with voice := change (sound.voiceOrSilent index) }
      else
        sound.soloist index := by
  by_cases same : other = index
  · subst same
    rw [if_pos rfl, voice_of_lt present]
    exact soloist_setVoice_self present _
  · rw [if_neg same]
    cases sound.voice other with
    | error fault => rfl
    | ok voice => exact soloist_setVoice_of_ne same _

/-- A written register matters to a voice only if it is a cue. -/
theorem soloist_applyWrite
    (present : index < sound.voices.length)
    (register : SoundRegister)
    (value : UInt16) :
    (sound.applyWrite register value).soloist index =
      (sound.registerCue? index register value).elim (sound.soloist index)
        (sound.soloist index).follow := by
  cases register with
  | voice other register =>
      by_cases same : other = index
      · subst same
        rw [applyWrite, soloist_setVoice_self present, registerCue?, if_pos rfl]
        rfl
      · rw [applyWrite, soloist_setVoice_of_ne same, registerCue?, if_neg same]
        rfl
  | noise half =>
      simp only [registerCue?]
      split
      · next unchanged =>
          exact congrArg (fun isNoisy => { sound.soloist index with isNoisy := isNoisy }) unchanged
      · rfl
  | _ => rfl

/-- A command changes a soloist by its cue. -/
theorem soloist_obey
    (alone : sound.PlaysAlone index)
    (command : Command) :
    (sound.obey command).soloist index =
      (sound.cue? index command).elim (sound.soloist index) (sound.soloist index).follow := by
  have found := voice_of_lt alone.present
  cases command with
  | write address value =>
      let kept : SoundProcessor :=
        { sound with
          written :=
            sound.written.set (Fin.ofNat 256 (SoundRegister.offsetOf address / 2)) value }
      have keptPresent : index < kept.voices.length := alone.present
      exact soloist_applyWrite keptPresent (.ofAddress address) value
  | keyOn other =>
      by_cases same : other = index
      · subst same
        have started := (sound.voiceOrSilent other).keyOn_alike alone.coherent.bankCoherent
          (SoundBank.coherent_empty sound.ram)
        simp only [obey, accept, keyOn, found, cue?, if_true]
        change (sound.setVoice other _).soloist other = _
        rw [soloist_setVoice_self alone.present, started]
        rfl
      · simp only [obey, accept, keyOn, cue?, if_neg same]
        cases sound.voice other with
        | error fault => rfl
        | ok voice => exact soloist_setVoice_of_ne same _
  | keyOff other =>
      refine (soloist_changeVoice alone.present other Voice.keyOff).trans ?_
      rw [cue?]
      split <;> rfl
  | overrideLoop other =>
      refine (soloist_changeVoice alone.present other Voice.overrideLoop).trans ?_
      rw [cue?]
      split <;> rfl
  | pushHalf value => rfl
  | popHalf => rfl
  | pushBlock data =>
      obtain ⟨bank, next, same⟩ :=
        sound.pushFrom_eq (sound.transferAddress % soundRamSize) data 0
          { initial with ram := sound.ram } rfl
      simp only [obey, pushBlock, same]
      rfl
  | popBlock length => rfl
  | enableReverb enabled => rfl
  | mixFrame =>
      have atPlace : 0 + index = index := Nat.zero_add index
      have played :=
        voices_mixVoices sound.frameInput sound.ram alone.coherent.bankCoherent 0 index
          (by rw [atPlace]; exact alone.isApart.2) 0 sound.voices
      rw [atPlace] at played
      have voicePlayed :
          sound.afterVoices.voiceOrSilent index =
            (sound.soloist index).played.voice.tickVolumes := by
        have present : sound.voices[index]? = some (sound.voiceOrSilent index) := by
          simp [voiceOrSilent, alone.present]
        rw [present] at played
        exact congrArg (fun voice? => voice?.getD .initial) played
      change sound.mixFrame.2.soloist index = _
      rw [mixFrame_of_withoutReverb alone.isApart.1]
      exact congrArg
        (fun voice => { sound.afterVoices.soloist index with voice := voice }) voicePlayed

/-- A voice's bit that is clear and is not written stays clear. -/
theorem hasBit_set
    {bits : UInt32}
    {half : VoiceHalf}
    {value : UInt16}
    (clear : FrameInput.hasBit bits index = false)
    (notWritten : FrameInput.hasBit (half.set 0 value) index = false) :
    FrameInput.hasBit (half.set bits value) index = false := by
  have distribute (first second mask : UInt32) :
      (first ||| second) &&& mask = first &&& mask ||| second &&& mask :=
    UInt32.toBitVec_inj.mp BitVec.and_or_distrib_right
  simp only [FrameInput.hasBit, bne_eq_false_iff_eq] at clear notWritten ⊢
  generalize (1 : UInt32) <<< UInt32.ofNat index = mask at clear notWritten ⊢
  have kept (upper : UInt32) : bits &&& upper &&& mask = 0 := by
    rw [UInt32.and_assoc, UInt32.and_comm upper, ← UInt32.and_assoc, clear, UInt32.zero_and]
  cases half <;>
    simp only [VoiceHalf.set, UInt32.zero_and, UInt32.zero_or] at notWritten ⊢ <;>
    rw [distribute, kept, notWritten, UInt32.zero_or]

/-- A register that leaves reverb and modulation off keeps a voice apart. -/
theorem IsApart.applyWrite
    (isApart : sound.IsApart index)
    {register : SoundRegister}
    {value : UInt16}
    (reverbOff : register = .control → value &&& reverbMasterBit = 0)
    (notModulated :
      ∀ half, register = .modulation half →
        FrameInput.hasBit (half.set 0 value) index = false) :
    (sound.applyWrite register value).IsApart index := by
  cases register with
  | control =>
      refine ⟨?_, isApart.2⟩
      change (sound.reverbEnabled && value &&& reverbMasterBit != 0) = false
      rw [reverbOff rfl]
      exact Bool.and_false _
  | modulation half => exact ⟨isApart.1, hasBit_set isApart.2 (notModulated half rfl)⟩
  | _ => exact isApart

/-- A command that leaves reverb and modulation off keeps a voice apart. -/
theorem IsApart.obey
    (isApart : sound.IsApart index)
    {command : Command}
    (keeps : command.keepsApart index = true) :
    (sound.obey command).IsApart index := by
  cases command with
  | write address value =>
      let kept : SoundProcessor :=
        { sound with
          written :=
            sound.written.set (Fin.ofNat 256 (SoundRegister.offsetOf address / 2)) value }
      have keptApart : kept.IsApart index := isApart
      refine keptApart.applyWrite ?_ ?_
      · intro isControl
        simpa only [Command.keepsApart, isControl, beq_iff_eq] using keeps
      · intro half isModulation
        simpa only [Command.keepsApart, isModulation, Bool.not_eq_true'] using keeps
  | keyOn other =>
      simp only [SoundProcessor.obey, accept, keyOn]
      cases sound.voice other <;> exact isApart
  | keyOff other =>
      simp only [SoundProcessor.obey, accept, keyOff]
      cases sound.voice other <;> exact isApart
  | overrideLoop other =>
      simp only [SoundProcessor.obey, accept, overrideLoop]
      cases sound.voice other <;> exact isApart
  | pushBlock data =>
      obtain ⟨bank, next, same⟩ :=
        sound.pushFrom_eq (sound.transferAddress % soundRamSize) data 0 sound rfl
      rw [SoundProcessor.obey, pushBlock, same]
      exact isApart
  | enableReverb enabled =>
      obtain rfl : enabled = false := by
        simpa only [Command.keepsApart, Bool.not_eq_true'] using keeps
      exact ⟨rfl, isApart.2⟩
  | mixFrame =>
      rw [SoundProcessor.obey, mixFrame_of_withoutReverb isApart.1]
      exact isApart
  | _ => exact isApart

/-- A voice goes on playing like a soloist. -/
theorem PlaysAlone.obey
    (alone : sound.PlaysAlone index)
    {command : Command}
    (keeps : command.keepsApart index = true) :
    (sound.obey command).PlaysAlone index where
  present := by
    rw [length_voices_obey]
    exact alone.present
  coherent := by
    by_cases mixing : command = .mixFrame
    · subst command
      exact alone.coherent.mixFrame
        (reverbSpares_of_not_reverbRuns alone.coherent.bankCoherent alone.isApart.1)
    · exact alone.coherent.obey mixing
  isApart := alone.isApart.obey keeps

/-- Only mixing a frame is the cue for one. -/
theorem cue?_ne_frame
    {command : Command}
    (notMixing : command ≠ .mixFrame) :
    sound.cue? index command ≠ some .frame := by
  cases command with
  | write address value =>
      rw [cue?]
      cases SoundRegister.ofAddress address with
      | voice other register =>
          rw [registerCue?]
          split <;> nofun
      | noise half =>
          simp only [registerCue?]
          split <;> nofun
      | _ => nofun
  | keyOn other =>
      rw [cue?]
      split <;> nofun
  | keyOff other =>
      rw [cue?]
      split <;> nofun
  | overrideLoop other =>
      rw [cue?]
      split <;> nofun
  | mixFrame => exact absurd rfl notMixing
  | _ => nofun

/-- No command but mixing a frame is heard at once. -/
theorem outputs_of_ne_mixFrame
    {command : Command}
    (notMixing : command ≠ .mixFrame)
    (rest : List Command) :
    sound.outputs index (command :: rest) = (sound.obey command).outputs index rest := by
  cases command with
  | mixFrame => exact absurd rfl notMixing
  | _ => rfl

/-- In every run a voice plays what a soloist plays on its cues. -/
theorem outputs_eq_soloist
    {commands : List Command}
    (alone : sound.PlaysAlone index)
    (keeps : ∀ command, command ∈ commands → command.keepsApart index = true) :
    sound.outputs index commands = (sound.soloist index).outputs (sound.cues index commands) ∧
      (sound.obeyAll commands).soloist index =
        (sound.cues index commands).foldl Soloist.follow (sound.soloist index) := by
  induction commands generalizing sound with
  | nil => exact ⟨rfl, rfl⟩
  | cons command rest inductionHypothesis =>
      have step := soloist_obey alone command
      obtain ⟨laterOutputs, laterSoloist⟩ :=
        inductionHypothesis (alone.obey (keeps command (.head _)))
          fun command member => keeps command (.tail _ member)
      have goesOn : sound.obeyAll (command :: rest) = (sound.obey command).obeyAll rest := rfl
      rw [goesOn, laterSoloist, cues, List.foldl_append, step]
      by_cases mixing : command = .mixFrame
      · subst command
        have rendered :
            (sound.mixFrame.2.voiceOrSilent index).lastOutput =
              (sound.soloist index).played.value := by
          have after : sound.mixFrame.2.voiceOrSilent index =
              (sound.soloist index).played.voice.tickVolumes :=
            congrArg Soloist.voice step
          rw [after]
          exact Voice.lastOutput_render _ _ _ _
        rw [outputs, rendered]
        refine ⟨congrArg (_ :: ·) (laterOutputs.trans ?_), rfl⟩
        rw [step]
        rfl
      · have notFrame : sound.cue? index command ≠ some .frame := cue?_ne_frame mixing
        rw [outputs_of_ne_mixFrame mixing, laterOutputs, step]
        cases found : sound.cue? index command with
        | none => exact ⟨rfl, rfl⟩
        | some cue =>
            refine ⟨(Soloist.outputs_of_ne_frame ?_ _ _).symm, rfl⟩
            rintro rfl
            exact notFrame found

end

/-- What is meant for other voices keeps this one apart and is no cue for it. -/
theorem keepsApart_and_cue?_of_isForOthers
    {index : Nat}
    {command : Command}
    (others : command.isForOthers index = true)
    (sound : SoundProcessor) :
    command.keepsApart index = true ∧ sound.cue? index command = none := by
  cases command with
  | write address value =>
      simp only [Command.isForOthers] at others
      simp only [Command.keepsApart, cue?]
      generalize SoundRegister.ofAddress address = register at others ⊢
      cases register with
      | voice other register => exact ⟨rfl, if_neg (bne_iff_ne.mp others)⟩
      | _ => cases others
  | keyOn other => exact ⟨rfl, if_neg (bne_iff_ne.mp others)⟩
  | keyOff other => exact ⟨rfl, if_neg (bne_iff_ne.mp others)⟩
  | overrideLoop other => exact ⟨rfl, if_neg (bne_iff_ne.mp others)⟩
  | _ => cases others

/-- A command for the other voices leaves a soloist alone. -/
theorem soloist_obey_of_isForOthers
    {index : Nat}
    {sound : SoundProcessor}
    (alone : sound.PlaysAlone index)
    {command : Command}
    (others : command.isForOthers index = true) :
    (sound.obey command).soloist index = sound.soloist index := by
  rw [soloist_obey alone, (keepsApart_and_cue?_of_isForOthers others sound).2, Option.elim_none]

/--
Two runs with the same cues to a voice have the same outputs of it, whatever the other voices
do.  Their registers, notes and loop addresses cue nobody else.
-/
theorem outputs_eq_of_sameCues
    {index : Nat}
    {first second : SoundProcessor}
    {firstCommands secondCommands : List Command}
    (firstAlone : first.PlaysAlone index)
    (secondAlone : second.PlaysAlone index)
    (sameSoloist : first.soloist index = second.soloist index)
    (firstKeeps : ∀ command, command ∈ firstCommands → command.keepsApart index = true)
    (secondKeeps : ∀ command, command ∈ secondCommands → command.keepsApart index = true)
    (sameCues : first.cues index firstCommands = second.cues index secondCommands) :
    first.outputs index firstCommands = second.outputs index secondCommands ∧
      (first.obeyAll firstCommands).soloist index =
        (second.obeyAll secondCommands).soloist index ∧
      ∀ command : Command,
        command.isForOthers index = true →
        command.keepsApart index = true ∧
          ∀ sound : SoundProcessor, sound.cue? index command = none := by
  obtain ⟨firstOutputs, firstLater⟩ := outputs_eq_soloist firstAlone firstKeeps
  obtain ⟨secondOutputs, secondLater⟩ := outputs_eq_soloist secondAlone secondKeeps
  rw [firstOutputs, secondOutputs, firstLater, secondLater, sameSoloist, sameCues]
  refine ⟨rfl, rfl, ?_⟩
  intro command others
  exact ⟨(keepsApart_and_cue?_of_isForOthers others first).1,
    fun sound => (keepsApart_and_cue?_of_isForOthers others sound).2⟩

/-- After power-on every voice plays on its own. -/
theorem playsAlone_initial
    {index : Nat}
    (isVoice : index < voiceCount) :
    initial.PlaysAlone index where
  present := Nat.lt_of_lt_of_eq isVoice List.length_replicate.symm
  coherent := coherent_initial
  isApart := by
    refine ⟨rfl, ?_⟩
    change ((0 : UInt32) &&& _ != 0) = false
    rw [UInt32.zero_and]
    rfl

/-- So many bytes, silent but for one block at the start. -/
def soundingBlock (size : Nat) : ByteArray :=
  setLittle (setLittle (zeroBytes size) 0 0x0100 .half) 2 0x7777 .half

/-- The block sounds the same however much sound RAM there is. -/
theorem decode_soundingBlock :
    Instrument.decode (soundingBlock soundRamSize) 0 =
      Instrument.decode (soundingBlock 16) 0 := by
  have room (size : Nat) : (soundingBlock size).size = size := by
    simp only [soundingBlock, size_setLittle, size_zeroBytes]
  refine Instrument.decode_eq_of_isEnd ?_ ?_ (fun index _ _ => ?_) (by decide +kernel)
  · rw [room]
    decide
  · rw [room]
    decide
  · refine get!_setLittle_congr ?_ ?_ (get!_setLittle_congr ?_ ?_ ?_)
    · simp [soundRamSize, Width.bytes]
    · simp [Width.bytes]
    · simp [soundRamSize, Width.bytes]
    · simp [Width.bytes]
    · rw [get!_zeroBytes, get!_zeroBytes]

/-- A voice before the first frame of the block. -/
def soundingVoice : Voice :=
  { Voice.initial with
    pitch := 0x1000
    instrument? := some (Instrument.decode (soundingBlock 16) 0)
    position := positionOne
    envelope := Envelope.initial.keyOn }

/-- What cues voice 3 to play the block. -/
def soundingCues : List Cue :=
  [.store 0 0x0100, .store 2 0x7777, .register .pitch 0x1000, .register .startAddress 0, .keyOn]

/-- Behind the cues the voice stands before the first frame of the block. -/
theorem follow_soundingCues :
    soundingCues.foldl Soloist.follow (initial.soloist 3) =
      ⟨soundingVoice, false, soundingBlock soundRamSize, .initial, .gaussian⟩ := by
  have atFirst :
      initial.soloist 3 = ⟨.initial, false, zeroBytes soundRamSize, .initial, .gaussian⟩ := rfl
  rw [atFirst, soundingVoice, ← decode_soundingBlock]
  simp only [soundingCues, List.foldl_cons, List.foldl_nil, Soloist.follow, Voice.keyOn,
    SoundBank.fetch, SoundBank.find?, SoundBank.empty, List.find?_nil]
  rfl

/-- A voice that plays the block is heard from the first frame on. -/
theorem outputs_soundingVoice (ram : ByteArray) :
    (Soloist.mk soundingVoice false ram .initial .gaussian).outputs [.frame, .frame] =
      [121, 5452] := by
  let first : Soloist := ⟨soundingVoice, false, .empty, .initial, .gaussian⟩
  let second : Soloist := first.follow .frame
  have firstPlayed : { first with ram := ram }.played = first.played :=
    first.played_withRam ram (by decide +kernel)
  have secondPlayed : { second with ram := ram }.played = second.played :=
    second.played_withRam ram (by decide +kernel)
  have followed : { first with ram := ram }.follow .frame = { second with ram := ram } := by
    simp only [second, Soloist.follow, firstPlayed]
  change
    [{ first with ram := ram }.played.value,
        ({ first with ram := ram }.follow .frame).played.value] =
      [121, 5452]
  rw [firstPlayed, followed, secondPlayed]
  decide +kernel

/--
Voice 3 plays a block that sounds, alone and beside voices that play notes of their own: the
same is heard of it.
-/
theorem outputs_eq_besideOthers :
    let others := initial.obey (.keyOn 0)
    let alone : List Command :=
      [.pushHalf 0x0100, .pushHalf 0x7777, .write 0x1F801C34 0x1000, .write 0x1F801C36 0,
        .keyOn 3, .mixFrame, .mixFrame]
    let beside : List Command :=
      [.write 0x1F801C00 0x3FFF, .pushHalf 0x0100, .pushHalf 0x7777, .keyOn 1,
        .write 0x1F801C34 0x1000, .write 0x1F801C36 0, .overrideLoop 2, .keyOn 3, .mixFrame,
        .keyOff 0, .mixFrame]
    others.PlaysAlone 3 ∧
      initial.soloist 3 = others.soloist 3 ∧
      initial.cues 3 alone = others.cues 3 beside ∧
      initial.outputs 3 alone = others.outputs 3 beside ∧
      initial.outputs 3 alone = [121, 5452] := by
  intro others alone beside
  have first : initial.PlaysAlone 3 := playsAlone_initial (by decide)
  have forOthers : (Command.keyOn 0).isForOthers 3 = true := rfl
  have second : others.PlaysAlone 3 :=
    first.obey (keepsApart_and_cue?_of_isForOthers forOthers initial).1
  have sameSoloist : initial.soloist 3 = others.soloist 3 :=
    (soloist_obey_of_isForOthers first forOthers).symm
  have aloneCues : initial.cues 3 alone = soundingCues ++ [.frame, .frame] := rfl
  have besideCues : others.cues 3 beside = soundingCues ++ [.frame, .frame] := by
    have ofVolume : SoundRegister.ofAddress 0x1F801C00 = .voice 0 .volumeLeft := by decide
    have ofPitch : SoundRegister.ofAddress 0x1F801C34 = .voice 3 .pitch := by decide
    have ofStart : SoundRegister.ofAddress 0x1F801C36 = .voice 3 .startAddress := by decide
    have atStart : (others.obey (.write 0x1F801C00 0x3FFF)).transferAddress = 0 := by
      decide +kernel
    have behindIt :
        ((others.obey (.write 0x1F801C00 0x3FFF)).obey (.pushHalf 0x0100)).transferAddress =
          2 := by
      decide +kernel
    simp [beside, soundingCues, cues, cue?, registerCue?, ofVolume, ofPitch, ofStart, atStart,
      behindIt, soundRamSize]
  have sameCues : initial.cues 3 alone = others.cues 3 beside :=
    aloneCues.trans besideCues.symm
  have aloneKeeps : ∀ command, command ∈ alone → command.keepsApart 3 = true := by decide
  have besideKeeps : ∀ command, command ∈ beside → command.keepsApart 3 = true := by decide
  have heard : initial.outputs 3 alone = [121, 5452] := by
    rw [(outputs_eq_soloist first aloneKeeps).1, aloneCues]
    change (soundingCues.foldl Soloist.follow (initial.soloist 3)).outputs [.frame, .frame] = _
    rw [follow_soundingCues]
    exact outputs_soundingVoice _
  exact ⟨second, sameSoloist, sameCues,
    (outputs_eq_of_sameCues first second sameSoloist aloneKeeps besideKeeps sameCues).1, heard⟩

end SoundProcessor

end PsxPlayer
