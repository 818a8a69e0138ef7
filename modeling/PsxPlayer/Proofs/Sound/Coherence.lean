import PsxPlayer.Proofs.Memory.Bytes
import PsxPlayer.Proofs.Sound.Instrument
import PsxPlayer.Proofs.Sound.Reverb
import PsxPlayer.Sound.Processor

namespace PsxPlayer

/-!
# The instruments and sound RAM

Voices fetch instruments from the bank, and every upload forgets the instruments
under it.  So the bank follows sound RAM through every command but one: the
reverb stores into its work area while a frame is mixed, and the instruments
under those stores stay in the bank.
-/

namespace Voice

/-- Taking a sample fetches at most the instrument at the loop address. -/
theorem next_fetched
    (voice : Voice)
    (bank : SoundBank)
    (ram : ByteArray) :
    SoundBank.Fetched ram bank (voice.next bank ram).bank := by
  have taken (voice : Voice) (bank : SoundBank) :
      (voice.take bank).bank = bank := by
    unfold take
    split <;> rfl
  unfold next
  split
  · exact .none bank
  · split
    · rw [taken]
      exact .none bank
    · split
      · rw [taken]
        unfold rewind
        split
        · next address _ => exact .fetch address (.none _)
        · exact .none bank
      · exact .none bank

/-- Taking in samples only fetches instruments. -/
theorem takeIn_fetched
    (count : Nat)
    (voice : Voice)
    (bank : SoundBank)
    (ram : ByteArray) :
    SoundBank.Fetched ram bank (takeIn count voice bank ram).bank := by
  induction count generalizing voice bank with
  | zero => exact .none bank
  | succ count inductionHypothesis =>
      have fetched :=
        next_fetched { voice with position := voice.position - positionOne } bank ram
      simp only [takeIn]
      split
      · next found =>
          rw [found] at fetched
          exact fetched.trans (inductionHypothesis _ _)
      · next found =>
          rw [found] at fetched
          exact fetched

/-- Rendering a voice only fetches instruments. -/
theorem render_fetched
    (voice : Voice)
    (bank : SoundBank)
    (ram : ByteArray)
    (input : VoiceInput) :
    SoundBank.Fetched ram bank (voice.render bank ram input).bank := by
  have fetched := takeIn_fetched (voice.position / positionOne) voice bank ram
  unfold render
  split
  · exact .none bank
  · split
    · next found =>
        rw [found] at fetched
        exact fetched
    · next found =>
        rw [found] at fetched
        exact fetched

end Voice

namespace SoundProcessor

/-- Rendering the voices only fetches instruments. -/
theorem mixVoices_fetched
    (frame : FrameInput)
    (ram : ByteArray)
    (index : Nat)
    (previous : Int)
    (bank : SoundBank)
    (voices : List Voice) :
    SoundBank.Fetched ram bank
      (mixVoices frame ram index previous bank voices).bank := by
  induction voices generalizing index previous bank with
  | nil => exact .none bank
  | cons voice rest inductionHypothesis =>
      exact (voice.render_fetched bank ram _).trans (inductionHypothesis _ _ _)

/-- Mixing a frame changes no setting of the reverb. -/
theorem mixFrame_reverbSettings (sound : SoundProcessor) :
    sound.mixFrame.2.reverbRegisters = sound.reverbRegisters ∧
      sound.mixFrame.2.reverbRuns = sound.reverbRuns := by
  have kept (sound : SoundProcessor) (input : Stereo) :
      (sound.runReverb input).2.reverbRegisters = sound.reverbRegisters ∧
        (sound.runReverb input).2.reverbRuns = sound.reverbRuns := by
    unfold runReverb
    split <;> exact ⟨rfl, rfl⟩
  simp only [mixFrame]
  split
  · exact kept _ _
  · exact kept _ _

/-- What a caller may ask of the sound processor. -/
inductive Command where
  | write (address : UInt32) (value : UInt16)
  | keyOn (voice : Nat)
  | keyOff (voice : Nat)
  | overrideLoop (voice : Nat)
  | pushHalf (value : UInt16)
  | popHalf
  | pushBlock (data : ByteArray)
  | popBlock (length : Nat)
  | enableReverb (enabled : Bool)
  | mixFrame

/-- Carry out a change unless it is refused. -/
def accept
    (sound : SoundProcessor)
    (changed : Except Fault SoundProcessor) :
    SoundProcessor :=
  match changed with
  | .ok sound => sound
  | .error _ => sound

/-- Carry out a command; one for a voice that does not exist changes nothing. -/
def obey (sound : SoundProcessor) : Command → SoundProcessor
  | .write address value => sound.write address value
  | .keyOn voice => sound.accept (sound.keyOn voice)
  | .keyOff voice => sound.accept (sound.keyOff voice)
  | .overrideLoop voice => sound.accept (sound.overrideLoop voice)
  | .pushHalf value => sound.pushHalf value
  | .popHalf => sound.popHalf.2
  | .pushBlock data => sound.pushBlock data
  | .popBlock length => (sound.popBlock length).2
  | .enableReverb enabled => { sound with reverbEnabled := enabled }
  | .mixFrame => sound.mixFrame.2

/-- Carry out commands one after the other. -/
def obeyAll (sound : SoundProcessor) (commands : List Command) : SoundProcessor :=
  commands.foldl obey sound

theorem obeyAll_append
    (sound : SoundProcessor)
    (first second : List Command) :
    sound.obeyAll (first ++ second) = (sound.obeyAll first).obeyAll second :=
  List.foldl_append

theorem obeyAll_mixFrame_mixFrame (sound : SoundProcessor) :
    sound.obeyAll [.mixFrame, .mixFrame] = sound.mixFrame.2.mixFrame.2 :=
  rfl

/-- Sound RAM has its size, and the bank follows it. -/
structure Coherent (sound : SoundProcessor) : Prop where
  ramSize : sound.ram.size = soundRamSize
  bankCoherent : sound.bank.Coherent sound.ram

theorem coherent_initial : initial.Coherent where
  ramSize := size_zeroBytes soundRamSize
  bankCoherent := SoundBank.coherent_empty _

/-- A change that leaves sound RAM and the bank alone keeps them coherent. -/
theorem Coherent.of_same
    {before after : SoundProcessor}
    (coherent : before.Coherent)
    (sameRam : after.ram = before.ram)
    (sameBank : after.bank = before.bank) :
    after.Coherent where
  ramSize := by rw [sameRam, coherent.ramSize]
  bankCoherent := by
    rw [sameRam, sameBank]
    exact coherent.bankCoherent

/-- Writing a halfword forgets the instruments under it. -/
theorem Coherent.pushHalf
    {sound : SoundProcessor}
    (coherent : sound.Coherent)
    (value : UInt16) :
    (sound.pushHalf value).Coherent where
  ramSize := by simp [SoundProcessor.pushHalf, coherent.ramSize]
  bankCoherent := by
    refine coherent.bankCoherent.invalidate (size_setLittle _ _ _ .half).symm ?_
    intro index outside
    change sound.ram.get! index =
      (setLittle sound.ram _ value.toUInt32 .half).get! index
    rw [get!_setLittle_of_outside outside]

/-- Writing a run of a block forgets the instruments under it. -/
theorem Coherent.pushFrom
    {sound : SoundProcessor}
    (coherent : sound.Coherent)
    (address : Nat)
    (data : ByteArray)
    (first : Nat) :
    (sound.pushFrom address data first).Coherent := by
  fun_induction SoundProcessor.pushFrom sound address data first with
  | case1 sound address first room length next inductionHypothesis =>
      have inTarget : address + length ≤ sound.ram.size := by
        rw [coherent.ramSize]
        unfold length transferRun
        omega
      have inSource : first + length ≤ data.size := by
        unfold length transferRun
        omega
      apply inductionHypothesis
      refine ⟨?_, ?_⟩
      · rw [← coherent.ramSize]
        exact size_copySlice inSource inTarget
      · refine coherent.bankCoherent.invalidate
          (size_copySlice inSource inTarget).symm ?_
        intro index outside
        exact (get!_copySlice_of_outside inSource inTarget outside).symm
  | case2 sound address first noRoom => exact coherent.of_same rfl rfl

theorem Coherent.write
    {sound : SoundProcessor}
    (coherent : sound.Coherent)
    (address : UInt32)
    (value : UInt16) :
    (sound.write address value).Coherent := by
  unfold SoundProcessor.write
  generalize SoundRegister.ofAddress address = register
  have kept :
      ∀ written : Vector UInt16 256, { sound with written := written }.Coherent :=
    fun _ => coherent.of_same rfl rfl
  cases register <;>
    first
    | exact (kept _).pushHalf value
    | exact coherent.of_same rfl rfl

theorem Coherent.keyOn
    {sound : SoundProcessor}
    (coherent : sound.Coherent)
    (voice : Nat) :
    (sound.accept (sound.keyOn voice)).Coherent := by
  unfold accept SoundProcessor.keyOn
  cases sound.voice voice with
  | error fault => exact coherent
  | ok found => exact ⟨coherent.ramSize, coherent.bankCoherent.fetch _⟩

theorem Coherent.keyOff
    {sound : SoundProcessor}
    (coherent : sound.Coherent)
    (voice : Nat) :
    (sound.accept (sound.keyOff voice)).Coherent := by
  unfold accept SoundProcessor.keyOff
  cases sound.voice voice with
  | error fault => exact coherent
  | ok found => exact coherent.of_same rfl rfl

theorem Coherent.overrideLoop
    {sound : SoundProcessor}
    (coherent : sound.Coherent)
    (voice : Nat) :
    (sound.accept (sound.overrideLoop voice)).Coherent := by
  unfold accept SoundProcessor.overrideLoop
  cases sound.voice voice with
  | error fault => exact coherent
  | ok found => exact coherent.of_same rfl rfl

/-- Everything but mixing a frame keeps the bank coherent. -/
theorem Coherent.obey
    {sound : SoundProcessor}
    (coherent : sound.Coherent)
    {command : Command}
    (notMixing : command ≠ .mixFrame) :
    (sound.obey command).Coherent := by
  cases command with
  | write address value => exact coherent.write address value
  | keyOn voice => exact coherent.keyOn voice
  | keyOff voice => exact coherent.keyOff voice
  | overrideLoop voice => exact coherent.overrideLoop voice
  | pushHalf value => exact coherent.pushHalf value
  | popHalf => exact coherent.of_same rfl rfl
  | pushBlock data => exact coherent.pushFrom _ data 0
  | popBlock length => exact coherent.of_same rfl rfl
  | enableReverb enabled => exact coherent.of_same rfl rfl
  | mixFrame => exact absurd rfl notMixing

/-- The reverb leaves the bank alone. -/
theorem runReverb_bank
    (sound : SoundProcessor)
    (input : Stereo) :
    (sound.runReverb input).2.bank = sound.bank := by
  unfold runReverb
  split <;> rfl

/-- If the reverb runs, a frame feeds it one input. -/
theorem mixFrame_of_reverbRuns
    {sound : SoundProcessor}
    (runs : sound.reverbRuns = true) :
    ∃ input,
      sound.mixFrame.2.reverb =
          (sound.reverb.process sound.reverbRegisters sound.ram input).2.1 ∧
        sound.mixFrame.2.ram =
          (sound.reverb.process sound.reverbRegisters sound.ram input).2.2 := by
  have fed (sound : SoundProcessor) (input : Stereo)
      (runs : sound.reverbRuns = true) :
      (sound.runReverb input).2.reverb =
          (sound.reverb.process sound.reverbRegisters sound.ram input).2.1 ∧
        (sound.runReverb input).2.ram =
          (sound.reverb.process sound.reverbRegisters sound.ram input).2.2 := by
    unfold runReverb
    rw [if_pos runs]
    exact ⟨rfl, rfl⟩
  simp only [mixFrame]
  split
  · exact ⟨_, fed _ _ runs⟩
  · exact ⟨_, fed _ _ runs⟩

/-- If the reverb does not run, a frame leaves sound RAM alone. -/
theorem mixFrame_of_not_reverbRuns
    {sound : SoundProcessor}
    (silent : sound.reverbRuns = false) :
    sound.mixFrame.2.ram = sound.ram := by
  have kept (sound : SoundProcessor) (input : Stereo)
      (silent : sound.reverbRuns = false) :
      (sound.runReverb input).2.ram = sound.ram := by
    unfold runReverb
    rw [if_neg (by simp [silent])]
  simp only [mixFrame]
  split
  · exact kept _ _ silent
  · exact kept _ _ silent

/-- The halfwords that the next frame overwrites. -/
def nextStores (sound : SoundProcessor) : List Nat :=
  if sound.reverbRuns then sound.reverb.nextStores sound.reverbRegisters else []

/-- A frame overwrites the halfwords at the reverb's places and nothing else. -/
theorem mixFrame_storedAt (sound : SoundProcessor) :
    Reverb.StoredAt sound.nextStores sound.ram sound.mixFrame.2.ram := by
  unfold nextStores
  cases runs : sound.reverbRuns with
  | true =>
      obtain ⟨input, -, fed⟩ := mixFrame_of_reverbRuns runs
      rw [fed, if_pos rfl]
      exact Reverb.process_storedAt _ _ _ _
  | false =>
      rw [mixFrame_of_not_reverbRuns runs, if_neg (by decide)]
      exact .refl _ _

/-- Mixing a frame only fetches instruments. -/
theorem mixFrame_fetched (sound : SoundProcessor) :
    SoundBank.Fetched sound.ram sound.bank sound.mixFrame.2.bank := by
  simp only [mixFrame]
  split
  · rw [runReverb_bank]
    exact mixVoices_fetched _ _ _ _ _ _
  · rw [runReverb_bank]
    exact mixVoices_fetched _ _ _ _ _ _

/-- The next frame changes nothing that an instrument of the bank decodes from. -/
def ReverbSpares (sound : SoundProcessor) : Prop :=
  ∀ instrument,
    instrument ∈ sound.mixFrame.2.bank.instruments →
    Instrument.decode sound.mixFrame.2.ram instrument.start =
      Instrument.decode sound.ram instrument.start

/-- A frame after which the bank is coherent has spared it. -/
theorem reverbSpares_of_coherent
    {sound : SoundProcessor}
    (before : sound.bank.Coherent sound.ram)
    (after : sound.mixFrame.2.bank.Coherent sound.mixFrame.2.ram) :
    sound.ReverbSpares := by
  intro instrument member
  rw [after instrument member,
    before.fetched sound.mixFrame_fetched instrument member]

/-- A frame that spares the bank keeps it coherent. -/
theorem Coherent.mixFrame
    {sound : SoundProcessor}
    (coherent : sound.Coherent)
    (spares : sound.ReverbSpares) :
    sound.mixFrame.2.Coherent where
  ramSize := by rw [sound.mixFrame_storedAt.sameSize, coherent.ramSize]
  bankCoherent := by
    intro instrument member
    rw [spares instrument member,
      coherent.bankCoherent.fetched sound.mixFrame_fetched instrument member]

/-- A frame that stores outside every instrument of the bank spares it. -/
theorem reverbSpares_of_isOutside
    {sound : SoundProcessor}
    (coherent : sound.bank.Coherent sound.ram)
    (outside :
      ∀ address,
        address ∈ sound.nextStores →
        ∀ instrument,
          instrument ∈ sound.mixFrame.2.bank.instruments →
          instrument.isOutside address (address + 2)) :
    sound.ReverbSpares := by
  intro instrument member
  have decoded := coherent.fetched sound.mixFrame_fetched instrument member
  refine (Instrument.decode_congr sound.mixFrame_storedAt.sameSize.symm ?_).symm
  intro index low high
  rw [decoded] at low high
  refine (sound.mixFrame_storedAt.sameOutside index ?_).symm
  intro address stored
  have apart := outside address stored instrument member
  simp only [Instrument.isOutside, Bool.or_eq_true, decide_eq_true_eq] at apart
  omega

/-- A frame without the reverb spares every instrument. -/
theorem reverbSpares_of_not_reverbRuns
    {sound : SoundProcessor}
    (coherent : sound.bank.Coherent sound.ram)
    (silent : sound.reverbRuns = false) :
    sound.ReverbSpares := by
  apply reverbSpares_of_isOutside coherent
  intro address stored
  simp [nextStores, silent] at stored

/-- Commands keep the bank coherent as long as the reverb spares it. -/
theorem Coherent.obeyAll
    {sound : SoundProcessor}
    {commands : List Command}
    (coherent : sound.Coherent)
    (spares :
      ∀ earlier,
        earlier ++ [.mixFrame] <+: commands →
        (sound.obeyAll earlier).ReverbSpares) :
    (sound.obeyAll commands).Coherent := by
  induction commands generalizing sound with
  | nil => exact coherent
  | cons command rest inductionHypothesis =>
      have next : (sound.obey command).Coherent := by
        by_cases mixing : command = .mixFrame
        · subst command
          exact coherent.mixFrame (spares [] (by simp))
        · exact coherent.obey mixing
      apply inductionHypothesis next
      intro earlier isPrefix
      exact spares (command :: earlier) (by simpa using isPrefix)

/-- The bank follows sound RAM, so that every fetch attaches what it holds. -/
def IsCurrent (sound : SoundProcessor) : Prop :=
  sound.bank.Coherent sound.ram ∧
    ∀ address,
      (sound.bank.fetch sound.ram address).1 = Instrument.decode sound.ram address

/-- A coherent sound processor attaches what sound RAM holds. -/
theorem Coherent.isCurrent
    {sound : SoundProcessor}
    (coherent : sound.Coherent) :
    sound.IsCurrent :=
  ⟨coherent.bankCoherent, coherent.bankCoherent.fetch_eq_decode⟩

/--
From power-on the bank follows sound RAM throughout a run of commands exactly if
the reverb spares it in every frame of the run.  A frame spares the bank if the
reverb does not run or stores outside every instrument of the bank.
-/
theorem isCurrent_iff_reverbSpares (commands : List Command) :
    ((∀ earlier, earlier <+: commands → (initial.obeyAll earlier).IsCurrent) ↔
        ∀ earlier,
          earlier ++ [.mixFrame] <+: commands →
          (initial.obeyAll earlier).ReverbSpares) ∧
      ∀ sound : SoundProcessor,
        sound.IsCurrent →
        (sound.reverbRuns = false ∨
          ∀ address,
            address ∈ sound.nextStores →
            ∀ instrument,
              instrument ∈ sound.mixFrame.2.bank.instruments →
              instrument.isOutside address (address + 2)) →
        sound.ReverbSpares := by
  refine ⟨⟨?_, ?_⟩, ?_⟩
  · intro current earlier isPrefix
    have before := current earlier ((List.prefix_append _ _).trans isPrefix)
    have after := current _ isPrefix
    rw [obeyAll_append] at after
    exact reverbSpares_of_coherent before.1 after.1
  · intro spares earlier isPrefix
    apply Coherent.isCurrent
    apply coherent_initial.obeyAll
    intro first inEarlier
    exact spares first (inEarlier.trans isPrefix)
  · rintro sound ⟨coherent, -⟩ (silent | outside)
    · exact reverbSpares_of_not_reverbRuns coherent silent
    · exact reverbSpares_of_isOutside coherent outside

/-!
The reverb's registers are all zero after power-on.  A block with the end flag is
uploaded to the start of sound RAM and played, and the reverb is switched on.  Its
first step clears the halfword with the flag.
-/

/-- Sound RAM with the end flag in its first block. -/
def flaggedRam : ByteArray :=
  setLittle (zeroBytes soundRamSize) 0 0x0100 .half

/-- The end flag is in the second byte, and the end of sound RAM is silent. -/
theorem flaggedRam_bytes :
    flaggedRam.get! 1 = 1 ∧ Reverb.ZeroAt flaggedRam 0x7FFFE := by
  have zero (index : Nat) (above : 2 ≤ index) : flaggedRam.get! index = 0 := by
    unfold flaggedRam
    rw [get!_setLittle_of_outside (.inr above), get!_zeroBytes]
  refine ⟨?_, zero _ (by decide), zero _ (by decide)⟩
  unfold flaggedRam setLittle
  rw [get!_set!_self (by simp [soundRamSize])]
  rfl

/-- Upload the flagged block, play it and switch on the reverb. -/
def playFlagged : List Command :=
  [.pushHalf 0x0100, .keyOn 0, .write 0x1F801DAA 0x0080]

/-- What the commands that play the flagged block have set up. -/
theorem obeyAll_playFlagged :
    (initial.obeyAll playFlagged).ram = flaggedRam ∧
      (initial.obeyAll playFlagged).reverb = .initial ∧
      (initial.obeyAll playFlagged).reverbRegisters = .initial ∧
      (initial.obeyAll playFlagged).reverbRuns = true ∧
      Instrument.decode flaggedRam 0 ∈
        (initial.obeyAll playFlagged).bank.instruments :=
  ⟨rfl, rfl, rfl, rfl, .head _⟩

/-- The bank keeps the flagged block while the reverb clears the flag. -/
theorem not_isCurrent_after_reverb :
    ¬ (initial.obeyAll (playFlagged ++ [.mixFrame, .mixFrame])).IsCurrent := by
  obtain ⟨ram, reverb, registers, runs, member⟩ := obeyAll_playFlagged
  obtain ⟨flag, silent⟩ := flaggedRam_bytes
  have sameSize : flaggedRam.size = soundRamSize :=
    (size_setLittle _ _ _ .half).trans (size_zeroBytes _)
  rw [obeyAll_append, obeyAll_mixFrame_mixFrame]
  -- the kernel must not evaluate the decoding of all of sound RAM
  generalize flaggedRam = bytes at ram member flag silent sameSize
  generalize initial.obeyAll playFlagged = played at ram reverb registers runs member
  -- the first frame only hands the reverb the first input of a pair
  obtain ⟨firstRegisters, firstRuns⟩ := played.mixFrame_reverbSettings
  obtain ⟨first, firstReverb, firstRam⟩ := mixFrame_of_reverbRuns runs
  rw [reverb, registers, ram, Reverb.process_of_not_pending rfl]
    at firstReverb firstRam
  have firstMember := played.mixFrame_fetched.mem member
  generalize played.mixFrame.2 = once
    at firstRegisters firstRuns firstReverb firstRam firstMember
  obtain ⟨second, -, secondRam⟩ := mixFrame_of_reverbRuns (firstRuns.trans runs)
  have pending : once.reverb.pending? = some first := by rw [firstReverb]
  obtain ⟨average, stepped⟩ :=
    Reverb.process_of_pending pending once.reverbRegisters once.ram second
  have cleared : Reverb.ZeroAt once.mixFrame.2.ram 0 := by
    rw [secondRam, stepped, firstReverb, firstRegisters, registers, firstRam]
    exact Reverb.step_startTap (by rw [sameSize]; decide) silent _
  have room : once.mixFrame.2.ram.size = soundRamSize := by
    rw [once.mixFrame_storedAt.sameSize, firstRam]
    exact sameSize
  rintro ⟨coherent, -⟩
  have decoded := coherent _ (once.mixFrame_fetched.mem firstMember)
  have short : (Instrument.decode bytes 0).stop = 0 + blockSize :=
    Instrument.stop_decodeFrom_of_isEnd _ _ _ (by rw [sameSize]; decide)
      (by rw [show Instrument.blockStart 0 + 1 = 1 from rfl, flag]; decide)
  have long : 0 + blockSize < (Instrument.decode once.mixFrame.2.ram 0).stop :=
    Instrument.lt_stop_decodeFrom_of_not_isEnd _ _ _ (by rw [room]; decide)
      (by rw [cleared.2]; decide)
  rw [Instrument.start_decode, Instrument.decode_blockStart] at decoded
  rw [decoded, short] at long
  exact Nat.lt_irrefl _ long

end SoundProcessor

end PsxPlayer
