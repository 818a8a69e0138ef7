import PsxPlayer.Proofs.Sound.Sweep
import PsxPlayer.Proofs.Sound.WellFormed

namespace PsxPlayer

/-!
# Registers that store

Most sound registers are taken apart when they are written: into the fields of an
envelope, into half of a field with a bit per voice, into an address in bytes.  Read
again, they are put together from these parts.  Only another write to its halfword
changes what a storage register shows, save that transfers move the transfer address.
-/

/-! ## Fields of a halfword -/

/-- The bits that two masks let through are those that their union lets through. -/
theorem and_or_and (value first second : UInt16) :
    value &&& first ||| value &&& second = value &&& (first ||| second) :=
  UInt16.toBitVec_inj.mp BitVec.and_or_distrib_left.symm

theorem and_ones (value : UInt16) : value &&& 0xFFFF = value :=
  UInt16.and_neg_one

/-- A field that is moved down, cut out and moved back up is the field in its place. -/
theorem field_putBack
    (value shift wide placed : UInt16)
    (narrow : UInt8)
    (small : shift.toNat < 16)
    (sameField : narrow.toUInt16 = wide)
    (samePlace : wide <<< shift = placed) :
    (((value >>> shift) &&& wide).toUInt8 &&& narrow).toUInt16 <<< shift =
      value &&& placed := by
  subst sameField samePlace
  have inHalf : shift.toNat % 16 = shift.toNat := Nat.mod_eq_of_lt small
  apply UInt16.toNat_inj.mp
  apply Nat.eq_of_testBit_eq
  intro bit
  simp only [UInt16.toNat_shiftLeft, UInt16.toNat_and, UInt16.toNat_shiftRight,
    UInt8.toNat_toUInt16, UInt16.toNat_toUInt8, UInt8.toNat_and, inHalf,
    Nat.testBit_mod_two_pow, Nat.testBit_shiftLeft, Nat.testBit_shiftRight, Nat.testBit_and]
  by_cases above : shift.toNat ≤ bit
  · rw [Nat.add_sub_of_le above]
    by_cases low : bit - shift.toNat < 8
    · simp only [low, decide_true, Bool.true_and, Bool.and_assoc, Bool.and_self]
      ac_rfl
    · have outside : narrow.toNat.testBit (bit - shift.toNat) = false :=
        Nat.testBit_lt_two_pow
          (Nat.lt_of_lt_of_le narrow.toNat_lt
            (Nat.pow_le_pow_right (by decide) (Nat.le_of_not_lt low)))
      simp only [outside, Bool.and_false]
  · simp only [ge_iff_le, above, decide_false, Bool.false_and, Bool.and_false]

/-- A field at bit 0 needs no moving. -/
theorem lowField_putBack
    (value wide : UInt16)
    (narrow : UInt8)
    (sameField : narrow.toUInt16 = wide) :
    ((value &&& wide).toUInt8 &&& narrow).toUInt16 = value &&& wide := by
  have unmoved := field_putBack value 0 wide wide narrow (by decide) sameField UInt16.shiftLeft_zero
  rwa [UInt16.shiftRight_zero, UInt16.shiftLeft_zero] at unmoved

/-- A value has all or nothing of a single bit. -/
theorem and_bit_eq
    (value index : UInt16)
    (small : index.toNat < 16) :
    value &&& (1 <<< index) = 0 ∨ value &&& (1 <<< index) = 1 <<< index := by
  have power : ((1 : UInt16) <<< index).toNat = 2 ^ index.toNat := by
    rw [UInt16.toNat_shiftLeft, Nat.mod_eq_of_lt small, UInt16.toNat_one, Nat.one_shiftLeft]
    exact Nat.mod_eq_of_lt (Nat.pow_lt_pow_right (by decide) small)
  have bitAt (bit : Nat) :
      (value &&& (1 <<< index)).toNat.testBit bit =
        (value.toNat.testBit index.toNat && decide (index.toNat = bit)) := by
    rw [UInt16.toNat_and, power, Nat.testBit_and, Nat.testBit_two_pow]
    by_cases same : index.toNat = bit
    · rw [same]
    · simp [same]
  cases isSet : value.toNat.testBit index.toNat with
  | false =>
      left
      apply UInt16.toNat_inj.mp
      apply Nat.eq_of_testBit_eq
      intro bit
      rw [bitAt, isSet, UInt16.toNat_zero, Nat.zero_testBit, Bool.false_and]
  | true =>
      right
      apply UInt16.toNat_inj.mp
      apply Nat.eq_of_testBit_eq
      intro bit
      rw [bitAt, isSet, power, Nat.testBit_two_pow, Bool.true_and]

/-- A flag that is put back is the bit that it was read from. -/
theorem flag_putBack
    (value index mask : UInt16)
    (small : index.toNat < 16)
    (sameBit : 1 <<< index = mask) :
    Envelope.flagBit (value &&& mask != 0) index = value &&& mask := by
  subst sameBit
  unfold Envelope.flagBit
  rcases and_bit_eq value index small with clear | isSet
  · rw [clear]
    rfl
  · rw [isSet]
    by_cases zero : (1 : UInt16) <<< index = 0
    · simp [zero]
    · simp [zero]

namespace VoiceHalf

/-- The bits of a written halfword that stand for voices. -/
def storedBits : VoiceHalf → UInt16
  | .low => 0xFFFF
  | .high => 0x00FF

/-- The upper mask has the bits from 16 on. -/
theorem testBit_upperMask (bit : Nat) :
    Nat.testBit 0xFFFF0000 bit = decide (16 ≤ bit ∧ bit < 32) := by
  have shifted : (0xFFFF0000 : Nat) = (2 ^ 16 - 1) <<< 16 := rfl
  rw [shifted, Nat.testBit_shiftLeft, Nat.testBit_two_pow_sub_one, ← Bool.decide_and,
    decide_eq_decide]
  omega

/-- A half of the voices' bits holds sixteen of them. -/
theorem testBit_get (half : VoiceHalf) (bits : UInt32) (bit : Nat) :
    (half.get bits).toNat.testBit bit =
      (decide (bit < 16) && bits.toNat.testBit (half.first + bit)) := by
  cases half with
  | low =>
      simp only [get, first, UInt32.toNat_toUInt16, Nat.testBit_mod_two_pow, Nat.zero_add]
  | high =>
      have sixteen : UInt32.toNat 16 % 32 = 16 := rfl
      simp only [get, first, UInt32.toNat_toUInt16, UInt32.toNat_shiftRight, sixteen,
        Nat.testBit_mod_two_pow, Nat.testBit_shiftRight]

/-- Writing a halfword replaces its sixteen bits, and of the upper one only eight can be set. -/
theorem testBit_set (half : VoiceHalf) (bits : UInt32) (value : UInt16) (bit : Nat) :
    (half.set bits value).toNat.testBit bit =
      if half.first ≤ bit ∧ bit < half.first + 16 then
        (value &&& half.storedBits).toNat.testBit (bit - half.first)
      else
        bits.toNat.testBit bit := by
  have clear (number width : Nat) (small : number < 2 ^ width) (above : width ≤ bit) :
      number.testBit bit = false :=
    Nat.testBit_lt_two_pow
      (Nat.lt_of_lt_of_le small (Nat.pow_le_pow_right (by decide) above))
  have valueClear := clear value.toNat 16 value.toNat_lt
  have bitsClear := clear bits.toNat 32 bits.toNat_lt
  cases half with
  | low =>
      have upper : UInt32.toNat 0xFFFF0000 = 0xFFFF0000 := rfl
      rw [show value &&& storedBits .low = value from and_ones value]
      simp only [set, first, UInt32.toNat_or, UInt32.toNat_and, UInt16.toNat_toUInt32,
        Nat.testBit_or, Nat.testBit_and, upper, testBit_upperMask]
      by_cases inside : bit < 16
      · simp [inside, Nat.not_le_of_lt inside]
      · have above := Nat.le_of_not_lt inside
        by_cases inWord : bit < 32
        · simp [inside, inWord, valueClear above, above]
        · simp [inside, inWord, valueClear above, bitsClear (Nat.le_of_not_lt inWord)]
  | high =>
      have sixteen : UInt32.toNat 16 % 32 = 16 := rfl
      have lower : UInt32.toNat 0x0000FFFF = 2 ^ 16 - 1 := rfl
      have byteOfWord : UInt32.toNat 0xFF = 2 ^ 8 - 1 := rfl
      have byteOfHalf : UInt16.toNat 0x00FF = 2 ^ 8 - 1 := rfl
      simp only [set, first, storedBits, UInt32.toNat_or, UInt32.toNat_and,
        UInt16.toNat_toUInt32, UInt32.toNat_shiftLeft, UInt16.toNat_and, sixteen, lower,
        byteOfWord, byteOfHalf, Nat.testBit_or, Nat.testBit_and, Nat.testBit_mod_two_pow,
        Nat.testBit_shiftLeft, Nat.testBit_two_pow_sub_one]
      by_cases inside : bit < 16
      · simp [inside, Nat.not_le_of_lt inside]
      · by_cases inWord : bit < 32
        · simp [inside, inWord, Nat.le_of_not_lt inside]
        · simp [inside, inWord, bitsClear (Nat.le_of_not_lt inWord)]

/-- A half reads back what was set, as far as there are voices. -/
theorem get_set_self (half : VoiceHalf) (bits : UInt32) (value : UInt16) :
    half.get (half.set bits value) = value &&& half.storedBits := by
  apply UInt16.toNat_inj.mp
  apply Nat.eq_of_testBit_eq
  intro bit
  rw [testBit_get, testBit_set]
  by_cases inside : bit < 16
  · simp [inside]
  · have clear : (value &&& half.storedBits).toNat.testBit bit = false :=
      Nat.testBit_lt_two_pow
        (Nat.lt_of_lt_of_le (UInt16.toNat_lt _)
          (Nat.pow_le_pow_right (by decide) (Nat.le_of_not_lt inside)))
    simp only [inside, decide_false, Bool.false_and, clear]

/-- Setting one half leaves the other. -/
theorem get_set_of_ne
    {half other : VoiceHalf}
    (differs : other ≠ half)
    (bits : UInt32)
    (value : UInt16) :
    half.get (other.set bits value) = half.get bits := by
  apply UInt16.toNat_inj.mp
  apply Nat.eq_of_testBit_eq
  intro bit
  rw [testBit_get, testBit_get, testBit_set]
  by_cases inside : bit < 16
  · have outside :
        ¬ (other.first ≤ half.first + bit ∧ half.first + bit < other.first + 16) := by
      cases half <;> cases other <;>
        simp only [first, ne_eq, not_true_eq_false] at differs ⊢ <;>
        omega
    rw [if_neg outside]
  · simp [inside]

end VoiceHalf

namespace Envelope

/-- The first word of the envelope reads back what was set. -/
theorem lowWord_setLowWord (envelope : Envelope) (value : UInt16) :
    (envelope.setLowWord value).lowWord = value := by
  simp only [lowWord, setLowWord]
  rw [flag_putBack value 15 0x8000 (by decide) (by decide),
    field_putBack value 8 0x7F 0x7F00 0x7F (by decide) (by decide) (by decide),
    field_putBack value 4 0xF 0xF0 0xF (by decide) (by decide) (by decide),
    lowField_putBack value 0xF 0xF (by decide), and_or_and, and_or_and, and_or_and]
  exact and_ones value

/-- No field holds bit 13 of the second settings word. -/
theorem highWord_setHighWord (envelope : Envelope) (value : UInt16) :
    (envelope.setHighWord value).highWord = value &&& 0xDFFF := by
  simp only [highWord, setHighWord]
  rw [flag_putBack value 15 0x8000 (by decide) (by decide),
    flag_putBack value 14 0x4000 (by decide) (by decide),
    field_putBack value 6 0x7F 0x1FC0 0x7F (by decide) (by decide) (by decide),
    flag_putBack value 5 0x20 (by decide) (by decide),
    lowField_putBack value 0x1F 0x1F (by decide),
    and_or_and, and_or_and, and_or_and, and_or_and]
  rfl

end Envelope

namespace VoiceRegister

/-- Place of a register in the block of its voice. -/
def offset : VoiceRegister → Nat
  | .volumeLeft => 0x0
  | .volumeRight => 0x2
  | .pitch => 0x4
  | .startAddress => 0x6
  | .envelopeLow => 0x8
  | .envelopeHigh => 0xA
  | .currentLevel => 0xC
  | .loopAddress => 0xE

end VoiceRegister

namespace SoundRegister

/-- The bits of a written value that a storage register keeps; no other register stores. -/
def storedBits? : SoundRegister → Option UInt16
  | .voice _ .currentLevel => none
  | .voice _ .envelopeHigh => some 0xDFFF
  | .voice _ _ => some 0xFFFF
  | .mainVolumeLeft | .mainVolumeRight => some 0xFFFF
  | .reverbDepthLeft | .reverbDepthRight => some 0xFFFF
  | .modulation half | .noise half | .reverb half => some half.storedBits
  | .workArea | .transferAddress | .control | .reverbParameter _ => some 0xFFFF
  | .keyOn _ | .keyOff _ | .channelOn _ | .transferFifo | .status | .plain => none

/-- Place of a register that is not plain. -/
def offset : SoundRegister → Nat
  | .voice index register => 16 * index + register.offset
  | .mainVolumeLeft => 0x180
  | .mainVolumeRight => 0x182
  | .reverbDepthLeft => 0x184
  | .reverbDepthRight => 0x186
  | .keyOn .low => 0x188
  | .keyOn .high => 0x18A
  | .keyOff .low => 0x18C
  | .keyOff .high => 0x18E
  | .modulation .low => 0x190
  | .modulation .high => 0x192
  | .noise .low => 0x194
  | .noise .high => 0x196
  | .reverb .low => 0x198
  | .reverb .high => 0x19A
  | .channelOn .low => 0x19C
  | .channelOn .high => 0x19E
  | .workArea => 0x1A2
  | .transferAddress => 0x1A6
  | .transferFifo => 0x1A8
  | .control => 0x1AA
  | .status => 0x1AE
  | .reverbParameter index => 0x1C0 + 2 * index.val
  | .plain => 0

/-- The halfwords of the register block are numbered. -/
theorem exists_offsetOf_eq (address : UInt32) :
    ∃ half : Fin 256, offsetOf address = 2 * half.val := by
  have masked : offsetOf address = (address - soundBase).toNat &&& 0x1FE := UInt32.toNat_and _ _
  have even : offsetOf address % 2 = 0 := by
    rw [masked, ← Nat.pow_one 2, Nat.and_mod_two_pow]
    exact Nat.and_zero _
  have small : offsetOf address < 512 := by
    rw [masked]
    exact Nat.and_lt_two_pow _ (by decide : 0x1FE < 2 ^ 9)
  exact ⟨⟨offsetOf address / 2, by omega⟩, by simp only; omega⟩

/-- Every register but the plain ones has a place of its own. -/
theorem offset_ofOffset (half : Fin 256) :
    ofOffset (2 * half.val) = .plain ∨ (ofOffset (2 * half.val)).offset = 2 * half.val := by
  revert half
  decide +kernel

/-- A register stands at the offset that its address has. -/
theorem offset_ofAddress
    {address : UInt32}
    (notPlain : ofAddress address ≠ .plain) :
    (ofAddress address).offset = offsetOf address := by
  obtain ⟨half, placed⟩ := exists_offsetOf_eq address
  unfold ofAddress at notPlain ⊢
  rw [placed] at notPlain ⊢
  exact (offset_ofOffset half).resolve_left notPlain

/-- Registers that are not plain are the same only in the same halfword. -/
theorem offsetOf_eq_of_ofAddress_eq
    {first second : UInt32}
    (same : ofAddress first = ofAddress second)
    (notPlain : ofAddress first ≠ .plain) :
    offsetOf first = offsetOf second := by
  rw [← offset_ofAddress notPlain, same, offset_ofAddress (same ▸ notPlain)]

/-- Only voices that exist have registers. -/
theorem index_lt_of_ofAddress
    {address : UInt32}
    {index : Nat}
    {register : VoiceRegister}
    (found : ofAddress address = .voice index register) :
    index < voiceCount := by
  unfold ofAddress ofOffset at found
  split at found
  · next below => exact (SoundRegister.voice.inj found).1 ▸ below
  · split at found
    · cases found
    · split at found <;> cases found

end SoundRegister

/-- What the storage registers of a voice show. -/
structure VoiceSettings where
  volumeLeft : UInt16
  volumeRight : UInt16
  pitch : UInt16
  startAddress : UInt16
  envelopeLow : UInt16
  envelopeHigh : UInt16
  loopAddress : UInt16
  deriving DecidableEq, Repr

namespace VoiceSettings

def get (settings : VoiceSettings) : VoiceRegister → UInt16
  | .volumeLeft => settings.volumeLeft
  | .volumeRight => settings.volumeRight
  | .pitch => settings.pitch
  | .startAddress => settings.startAddress
  | .envelopeLow => settings.envelopeLow
  | .envelopeHigh => settings.envelopeHigh
  | .currentLevel => 0
  | .loopAddress => settings.loopAddress

end VoiceSettings

namespace Envelope

/-- An envelope moves only its phase and its level. -/
theorem words_tick (envelope : Envelope) :
    envelope.tick.lowWord = envelope.lowWord ∧ envelope.tick.highWord = envelope.highWord := by
  unfold tick
  split
  · exact ⟨rfl, rfl⟩
  · unfold tickAttack
    dsimp only
    split <;> exact ⟨rfl, rfl⟩
  · unfold tickDecay
    dsimp only
    split <;> exact ⟨rfl, rfl⟩
  · exact ⟨rfl, rfl⟩
  · unfold tickRelease
    dsimp only
    split <;> exact ⟨rfl, rfl⟩

end Envelope

namespace Voice

def settings (voice : Voice) : VoiceSettings where
  volumeLeft := voice.volumeLeft.raw
  volumeRight := voice.volumeRight.raw
  pitch := voice.pitch
  startAddress := voice.startAddress
  envelopeLow := voice.envelope.lowWord
  envelopeHigh := voice.envelope.highWord
  loopAddress := voice.loopAddress

/-- Starting a note leaves the registers of the voice. -/
theorem settings_keyOn (voice : Voice) (bank : SoundBank) (ram : ByteArray) :
    (voice.keyOn bank ram).1.settings = voice.settings :=
  rfl

/-- Releasing a note leaves the registers of the voice. -/
theorem settings_keyOff (voice : Voice) : voice.keyOff.settings = voice.settings := by
  unfold keyOff Envelope.keyOff
  split <;> rfl

/-- Taking a sample leaves the registers of the voice. -/
theorem settings_next (voice : Voice) (bank : SoundBank) (ram : ByteArray) :
    (voice.next bank ram).voice.settings = voice.settings := by
  have taken (voice : Voice) (bank : SoundBank) :
      (voice.take bank).voice.settings = voice.settings := by
    unfold take
    split <;> rfl
  unfold next
  split
  · rfl
  · split
    · exact taken _ _
    · split
      · refine (taken _ _).trans ?_
        split <;> rfl
      · rfl

theorem settings_moveTo (voice : Voice) (position : Nat) :
    { voice with position := position }.settings = voice.settings :=
  rfl

/-- Taking in samples leaves the registers of the voice. -/
theorem settings_takeIn (count : Nat) (voice : Voice) (bank : SoundBank) (ram : ByteArray) :
    (takeIn count voice bank ram).voice.settings = voice.settings := by
  induction count generalizing voice bank with
  | zero => rfl
  | succ count inductionHypothesis =>
      have kept :=
        (settings_next { voice with position := voice.position - positionOne } bank ram).trans
          (settings_moveTo voice _)
      simp only [takeIn]
      split
      · next found =>
          rw [found] at kept
          rw [inductionHypothesis]
          exact kept
      · next found =>
          rw [found] at kept
          exact kept

/-- Sounding leaves the registers of the voice. -/
theorem settings_sound (voice : Voice) (input : VoiceInput) :
    (voice.sound input).2.settings = voice.settings := by
  obtain ⟨sameLow, sameHigh⟩ := voice.envelope.words_tick
  simp only [settings, sound, sameLow, sameHigh]

/-- Playing changes no storage register of a voice. -/
theorem settings_render
    (voice : Voice)
    (bank : SoundBank)
    (ram : ByteArray)
    (input : VoiceInput) :
    (voice.render bank ram input).voice.settings = voice.settings := by
  have kept := settings_takeIn (voice.position / positionOne) voice bank ram
  unfold render
  split
  · rfl
  · split
    · next found =>
        rw [found] at kept
        exact (settings_sound _ _).trans kept
    · next found =>
        rw [found] at kept
        exact kept

/-- A volume sweep moves the level, and not the register that set it off. -/
theorem settings_tickVolumes (voice : Voice) : voice.tickVolumes.settings = voice.settings := by
  simp only [settings, tickVolumes, Volume.raw_tick]

end Voice

namespace SoundProcessor

/-- A voice register reads as the setting it was written to. -/
theorem readVoice_eq
    (voice : Voice)
    {register : VoiceRegister}
    (stores : register ≠ .currentLevel) :
    readVoice voice register = voice.settings.get register := by
  cases register <;> first | rfl | contradiction

/-- A written register of a voice shows the value, and no other register changes. -/
theorem settings_writeVoice
    (voice : Voice)
    (value : UInt16)
    (written register : VoiceRegister) :
    (writeVoice voice value written).settings.get register =
      if written = register then
        match register with
        | .currentLevel => 0
        | .envelopeHigh => value &&& 0xDFFF
        | _ => value
      else
        voice.settings.get register := by
  cases written <;> cases register <;>
    simp only [writeVoice, Voice.settings, VoiceSettings.get, Volume.raw_set,
      Envelope.lowWord_setLowWord, Envelope.highWord_setHighWord, if_true, if_false,
      reduceCtorEq] <;>
    rfl

/-- Mixing a frame leaves the registers of all voices. -/
theorem settings_mixVoices
    (frame : FrameInput)
    (ram : ByteArray)
    (index : Nat)
    (previous : Int)
    (bank : SoundBank)
    (voices : List Voice) :
    (mixVoices frame ram index previous bank voices).voices.map Voice.settings =
      voices.map Voice.settings := by
  induction voices generalizing index previous bank with
  | nil => rfl
  | cons voice rest inductionHypothesis =>
      have kept := voice.settings_render bank ram (frame.voiceInput index previous)
      simp only [mixVoices, List.map_cons, Voice.settings_tickVolumes, kept,
        inductionHypothesis]

/-- What a storage register shows, by its name. -/
def held (sound : SoundProcessor) : SoundRegister → UInt16
  | .voice index register => (sound.voiceOrSilent index).settings.get register
  | .mainVolumeLeft => sound.mainLeft.raw
  | .mainVolumeRight => sound.mainRight.raw
  | .reverbDepthLeft => sound.reverbDepthLeft
  | .reverbDepthRight => sound.reverbDepthRight
  | .modulation half => half.get sound.modulated
  | .noise half => half.get sound.noisy
  | .reverb half => half.get sound.reverberant
  | .workArea => sound.reverbRegisters.workArea
  | .transferAddress => UInt16.ofNat (sound.transferAddress / 8)
  | .control => sound.control
  | .reverbParameter index => sound.reverbRegisters.values.get index
  | .keyOn _ | .keyOff _ | .channelOn _ | .transferFifo | .status | .plain => 0

/-- A storage register reads as what is held for it. -/
theorem read_eq_held
    {address : UInt32}
    {bits : UInt16}
    (stores : (SoundRegister.ofAddress address).storedBits? = some bits)
    (sound : SoundProcessor) :
    sound.read address = sound.held (SoundRegister.ofAddress address) := by
  unfold read
  generalize SoundRegister.ofAddress address = register at stores
  cases register with
  | voice index register =>
      refine readVoice_eq _ ?_
      rintro rfl
      cases stores
  | _ => first | rfl | cases stores

section

variable {sound : SoundProcessor} {register written : SoundRegister}

/-- A voice that has been replaced is the new one. -/
theorem voiceOrSilent_setVoice_self
    {index : Nat}
    (exists_ : index < sound.voices.length)
    (voice : Voice) :
    (sound.setVoice index voice).voiceOrSilent index = voice := by
  simp [voiceOrSilent, setVoice, exists_]

/-- Replacing a voice leaves the others. -/
theorem voiceOrSilent_setVoice_of_ne
    {index other : Nat}
    (differs : index ≠ other)
    (voice : Voice) :
    (sound.setVoice index voice).voiceOrSilent other = sound.voiceOrSilent other := by
  simp [voiceOrSilent, setVoice, differs]

/-- A voice with the same settings in place of another changes no storage register. -/
theorem held_setVoice
    {index : Nat}
    {voice : Voice}
    (same : voice.settings = (sound.voiceOrSilent index).settings) :
    (sound.setVoice index voice).held register = sound.held register := by
  cases register with
  | voice other voiceRegister =>
      by_cases isSame : index = other
      · subst isSame
        by_cases inside : index < sound.voices.length
        · rw [held, voiceOrSilent_setVoice_self inside, same, held]
        · have unchanged : sound.setVoice index voice = sound := by
            simp [setVoice, List.set_eq_of_length_le (Nat.le_of_not_lt inside)]
          rw [unchanged]
      · rw [held, voiceOrSilent_setVoice_of_ne isSame, held]
  | _ => rfl

/-- A written storage register shows what it keeps of the value. -/
theorem held_applyWrite_self
    {bits : UInt16}
    (voices :
      ∀ index voiceRegister,
        register = .voice index voiceRegister → index < sound.voices.length)
    (stores : register.storedBits? = some bits)
    (value : UInt16) :
    (sound.applyWrite register value).held register = value &&& bits := by
  cases register with
  | voice index voiceRegister =>
      have inside := voices index voiceRegister rfl
      rw [applyWrite, held, voiceOrSilent_setVoice_self inside, settings_writeVoice, if_pos rfl]
      cases voiceRegister <;> cases stores <;> first | rfl | exact (and_ones value).symm
  | mainVolumeLeft | mainVolumeRight =>
      cases stores
      exact (Volume.raw_set _ _).trans (and_ones value).symm
  | modulation half | noise half | reverb half =>
      cases stores
      exact half.get_set_self _ value
  | transferAddress =>
      cases stores
      have inUnits : UInt16.ofNat (value.toNat * 8 / 8) = value := by
        rw [Nat.mul_div_cancel _ (by decide), UInt16.ofNat_toNat]
      exact inUnits.trans (and_ones value).symm
  | reverbParameter index =>
      cases stores
      have kept :
          (sound.reverbRegisters.values.setIfInBounds index value).get index = value := by
        exact Vector.getElem_setIfInBounds_self index.isLt
      exact kept.trans (and_ones value).symm
  | reverbDepthLeft | reverbDepthRight | workArea | control =>
      cases stores
      exact (and_ones value).symm
  | _ => cases stores

/-- A write to another register leaves a storage register alone. -/
theorem held_applyWrite_of_ne
    (differs : written ≠ register)
    (notMoved : register = .transferAddress → written ≠ .transferFifo)
    (value : UInt16) :
    (sound.applyWrite written value).held register = sound.held register := by
  cases written with
  | voice index target =>
      cases register with
      | voice other voiceRegister =>
          by_cases isSame : index = other
          · subst isSame
            by_cases inside : index < sound.voices.length
            · have targetDiffers : target ≠ voiceRegister := by
                rintro rfl
                exact differs rfl
              rw [applyWrite, held, voiceOrSilent_setVoice_self inside, settings_writeVoice,
                if_neg targetDiffers, held]
            · rw [applyWrite, setVoice, List.set_eq_of_length_le (Nat.le_of_not_lt inside)]
          · rw [applyWrite, held, voiceOrSilent_setVoice_of_ne isSame, held]
      | _ => rfl
  | modulation half =>
      cases register with
      | modulation other =>
          exact VoiceHalf.get_set_of_ne (mt (congrArg SoundRegister.modulation) differs) _ _
      | _ => rfl
  | noise half =>
      cases register with
      | noise other =>
          exact VoiceHalf.get_set_of_ne (mt (congrArg SoundRegister.noise) differs) _ _
      | _ => rfl
  | reverb half =>
      cases register with
      | reverb other =>
          exact VoiceHalf.get_set_of_ne (mt (congrArg SoundRegister.reverb) differs) _ _
      | _ => rfl
  | reverbParameter index =>
      cases register with
      | reverbParameter other =>
          have apart : index.val ≠ other.val := by
            intro same
            exact differs (congrArg _ (Fin.ext same))
          exact Vector.getElem_setIfInBounds_ne other.isLt apart
      | _ => rfl
  | transferFifo =>
      cases register with
      | transferAddress => exact absurd rfl (notMoved rfl)
      | _ => rfl
  | _ => cases register <;> first | rfl | exact absurd rfl differs

/-- Mixing a frame changes no storage register. -/
theorem held_mixFrame : sound.mixFrame.2.held register = sound.held register := by
  have ofReverb (sound : SoundProcessor) (input : Stereo) :
      (sound.runReverb input).2.held register = sound.held register := by
    unfold runReverb
    split
    · cases register <;> rfl
    · rfl
  have voicesKept :
      sound.mixedVoices.voices.map Voice.settings = sound.voices.map Voice.settings :=
    settings_mixVoices _ _ _ _ _ _
  rw [mixFrame_snd, ofReverb]
  cases register with
  | voice index voiceRegister =>
      have shown (voices : List Voice) :
          (voices[index]?.getD .initial).settings =
            (voices.map Voice.settings)[index]?.getD Voice.initial.settings := by
        rw [List.getElem?_map, Option.getD_map]
      have sameSettings :
          (sound.afterVoices.voiceOrSilent index).settings =
            (sound.voiceOrSilent index).settings := by
        unfold voiceOrSilent
        rw [shown, shown, ← voicesKept]
        rfl
      rw [held, sameSettings, held]
  | mainVolumeLeft => exact Volume.raw_tick _
  | mainVolumeRight => exact Volume.raw_tick _
  | _ => rfl

/-- A transfer into sound RAM moves its address and leaves every other register. -/
theorem held_pushFrom
    (notMoved : register ≠ .transferAddress)
    (address : Nat)
    (data : ByteArray)
    (first : Nat) :
    (sound.pushFrom address data first).held register = sound.held register := by
  fun_induction SoundProcessor.pushFrom sound address data first with
  | case1 sound address first room length next inductionHypothesis =>
      rw [inductionHypothesis]
      cases register <;> rfl
  | case2 sound address first noRoom =>
      cases register <;> first | rfl | exact absurd rfl notMoved

end

/--
A command spares the register at an address if it does not write that halfword.  The
transfer address is spared only if no data is moved.
-/
def Command.Spares (address : UInt32) : Command → Prop
  | .write other _ =>
      SoundRegister.offsetOf other ≠ SoundRegister.offsetOf address ∧
        (SoundRegister.ofAddress address = .transferAddress →
          SoundRegister.ofAddress other ≠ .transferFifo)
  | .pushHalf _ | .popHalf | .pushBlock _ | .popBlock _ =>
      SoundRegister.ofAddress address ≠ .transferAddress
  | .keyOn _ | .keyOff _ | .overrideLoop _ | .enableReverb _ | .mixFrame => True

theorem voiceOrSilent_of_voice
    {sound : SoundProcessor}
    {index : Nat}
    {voice : Voice}
    (found : sound.voice index = .ok voice) :
    sound.voiceOrSilent index = voice := by
  unfold SoundProcessor.voice at found
  unfold voiceOrSilent
  split at found
  · next present =>
      rw [present]
      exact Except.ok.inj found
  · cases found

/-- A command that spares a storage register leaves it as it is. -/
theorem read_obey_of_spares
    {address : UInt32}
    {bits : UInt16}
    {command : Command}
    (stores : (SoundRegister.ofAddress address).storedBits? = some bits)
    (spared : command.Spares address)
    (sound : SoundProcessor) :
    (sound.obey command).read address = sound.read address := by
  rw [read_eq_held stores, read_eq_held stores]
  have atVoice {index : Nat} {before after : Voice}
      (found : sound.voice index = .ok before)
      (same : after.settings = before.settings) :
      (sound.setVoice index after).held (.ofAddress address) =
        sound.held (.ofAddress address) := by
    rw [held_setVoice]
    rw [same, voiceOrSilent_of_voice found]
  cases command with
  | write other value =>
      have differs : SoundRegister.ofAddress other ≠ SoundRegister.ofAddress address := by
        intro same
        apply spared.1
        refine SoundRegister.offsetOf_eq_of_ofAddress_eq same ?_
        intro plain
        rw [← same, plain] at stores
        cases stores
      refine (held_applyWrite_of_ne differs spared.2 value).trans ?_
      cases SoundRegister.ofAddress address <;> rfl
  | keyOn index =>
      simp only [obey, accept, SoundProcessor.keyOn]
      cases found : sound.voice index with
      | error fault => rfl
      | ok voice => exact atVoice found (voice.settings_keyOn sound.bank sound.ram)
  | keyOff index =>
      simp only [obey, accept, SoundProcessor.keyOff]
      cases found : sound.voice index with
      | error fault => rfl
      | ok voice => exact atVoice found voice.settings_keyOff
  | overrideLoop index =>
      simp only [obey, accept, SoundProcessor.overrideLoop]
      cases found : sound.voice index with
      | error fault => rfl
      | ok voice => exact atVoice found rfl
  | pushHalf value =>
      cases named : SoundRegister.ofAddress address <;>
        first
        | rfl
        | exact absurd named spared
  | popHalf =>
      cases named : SoundRegister.ofAddress address <;>
        first
        | rfl
        | exact absurd named spared
  | pushBlock data => exact held_pushFrom spared _ _ _
  | popBlock length =>
      cases named : SoundRegister.ofAddress address <;>
        first
        | rfl
        | exact absurd named spared
  | enableReverb enabled => cases SoundRegister.ofAddress address <;> rfl
  | mixFrame => exact held_mixFrame

/-- Commands that spare a register leave what it reads as. -/
theorem read_obeyAll_of_spares
    {address : UInt32}
    {bits : UInt16}
    {commands : List Command}
    (stores : (SoundRegister.ofAddress address).storedBits? = some bits)
    (spared : ∀ command, command ∈ commands → command.Spares address)
    (sound : SoundProcessor) :
    (sound.obeyAll commands).read address = sound.read address := by
  induction commands generalizing sound with
  | nil => rfl
  | cons command rest inductionHypothesis =>
      have later :=
        inductionHypothesis (fun command member => spared command (.tail _ member))
          (sound.obey command)
      exact later.trans (read_obey_of_spares stores (spared command (.head _)) sound)

/-- A transfer into sound RAM adds no voice. -/
theorem length_voices_pushFrom
    (sound : SoundProcessor)
    (address : Nat)
    (data : ByteArray)
    (first : Nat) :
    (sound.pushFrom address data first).voices.length = sound.voices.length := by
  fun_induction SoundProcessor.pushFrom sound address data first with
  | case1 sound address first room length next inductionHypothesis => exact inductionHypothesis
  | case2 sound address first noRoom => rfl

/-- A command adds and removes no voice. -/
theorem length_voices_obey (sound : SoundProcessor) (command : Command) :
    (sound.obey command).voices.length = sound.voices.length := by
  cases command with
  | write address value =>
      simp only [obey, write]
      cases SoundRegister.ofAddress address with
      | voice index register => exact List.length_set
      | _ => rfl
  | keyOn index =>
      simp only [obey, accept, SoundProcessor.keyOn]
      cases sound.voice index with
      | error fault => rfl
      | ok voice => exact List.length_set
  | keyOff index =>
      simp only [obey, accept, SoundProcessor.keyOff]
      cases sound.voice index with
      | error fault => rfl
      | ok voice => exact List.length_set
  | overrideLoop index =>
      simp only [obey, accept, SoundProcessor.overrideLoop]
      cases sound.voice index with
      | error fault => rfl
      | ok voice => exact List.length_set
  | pushBlock data => exact length_voices_pushFrom _ _ _ _
  | mixFrame =>
      have ofReverb (sound : SoundProcessor) (input : Stereo) :
          (sound.runReverb input).2.voices = sound.voices := by
        unfold runReverb
        split <;> rfl
      rw [obey, mixFrame_snd, ofReverb]
      exact length_mixVoices _ _ _ _ _ _
  | _ => rfl

/-- However many commands come, there are as many voices as before. -/
theorem length_voices_obeyAll (sound : SoundProcessor) (commands : List Command) :
    (sound.obeyAll commands).voices.length = sound.voices.length := by
  induction commands generalizing sound with
  | nil => rfl
  | cons command rest inductionHypothesis =>
      exact (inductionHypothesis (sound.obey command)).trans (length_voices_obey sound command)

/-- A register reads back what is written to it, in the bits that it stores. -/
theorem read_write_self
    {sound : SoundProcessor}
    {address written : UInt32}
    {bits : UInt16}
    (allVoices : sound.voices.length = voiceCount)
    (stores : (SoundRegister.ofAddress address).storedBits? = some bits)
    (sameHalf : SoundRegister.offsetOf written = SoundRegister.offsetOf address)
    (value : UInt16) :
    (sound.write written value).read address = value &&& bits := by
  have named : SoundRegister.ofAddress written = SoundRegister.ofAddress address :=
    congrArg SoundRegister.ofOffset sameHalf
  rw [read_eq_held stores]
  unfold write
  rw [named]
  refine held_applyWrite_self ?_ stores value
  intro index register found
  exact Nat.lt_of_lt_of_eq (SoundRegister.index_lt_of_ofAddress found) allVoices.symm

/--
A storage register shows the bits that it keeps of the value last written to it.  What
came before that write makes no difference, and nothing that spares the register changes
what it shows.
-/
theorem read_eq_lastWritten
    {sound : SoundProcessor}
    {address written : UInt32}
    {value bits : UInt16}
    {earlier later : List Command}
    (allVoices : sound.voices.length = voiceCount)
    (stores : (SoundRegister.ofAddress address).storedBits? = some bits)
    (sameHalf : SoundRegister.offsetOf written = SoundRegister.offsetOf address)
    (spared : ∀ command, command ∈ later → command.Spares address) :
    (sound.obeyAll (earlier ++ .write written value :: later)).read address = value &&& bits ∧
      (sound.obeyAll later).read address = sound.read address := by
  refine ⟨?_, read_obeyAll_of_spares stores spared sound⟩
  have stillAll : (sound.obeyAll earlier).voices.length = voiceCount :=
    (length_voices_obeyAll sound earlier).trans allVoices
  rw [obeyAll_append]
  refine (read_obeyAll_of_spares stores spared _).trans ?_
  exact read_write_self stillAll stores sameHalf value

/-- The second settings word of voice 0 through a note, a frame and another write. -/
theorem read_envelopeHigh_lastWritten :
    initial.voices.length = voiceCount ∧
      (SoundRegister.ofAddress 0x1F801C0A).storedBits? = some 0xDFFF ∧
      (initial.obeyAll
          ([.write 0x1F801C0A 1, .keyOn 0] ++
            .write 0x1F801C0A 0xE2E5 :: [.write 0x1F801C08 0x8F3A, .mixFrame])).read
        0x1F801C0A = 0xE2E5 &&& 0xDFFF ∧
      (initial.obeyAll [.write 0x1F801C08 0x8F3A, .mixFrame]).read 0x1F801C0A =
        initial.read 0x1F801C0A := by
  refine ⟨rfl, rfl, read_eq_lastWritten rfl rfl rfl ?_⟩
  intro command member
  rcases List.mem_cons.mp member with rfl | last
  · exact ⟨by decide, by decide⟩
  · obtain rfl := List.mem_singleton.mp last
    trivial

/-- Bit 13 of the second settings word is lost. -/
theorem envelopeHigh_losesBit :
    (initial.obeyAll [.write 0x1F801C0A 0xFFFF]).read 0x1F801C0A ≠ 0xFFFF := by
  decide

end SoundProcessor

end PsxPlayer
