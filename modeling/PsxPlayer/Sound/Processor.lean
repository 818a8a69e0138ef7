import PsxPlayer.Fault
import PsxPlayer.Sound.Noise
import PsxPlayer.Sound.Register
import PsxPlayer.Sound.Reverb
import PsxPlayer.Sound.Voice

namespace PsxPlayer

/-!
# Sound processor

Sound RAM, 24 voices, the noise source and the reverb. `mixFrame` produces one
stereo output sample; the rest gives access to the registers and to sound RAM.
-/

/-- The sound processor. -/
structure SoundProcessor where
  ram : ByteArray
  /-- The voices in order. -/
  voices : List Voice
  bank : SoundBank
  control : UInt16
  mainLeft : Volume
  mainRight : Volume
  reverbDepthLeft : UInt16
  reverbDepthRight : UInt16
  /-- A bit for each voice whose pitch the voice before modulates. -/
  modulated : UInt32
  /-- A bit for each voice that plays noise. -/
  noisy : UInt32
  /-- A bit for each voice that feeds the reverb. -/
  reverberant : UInt32
  reverbRegisters : ReverbRegisters
  reverb : Reverb
  noise : NoiseSource
  /-- Byte address of the next transfer. -/
  transferAddress : Nat
  /-- Every register as last written, by half its offset. -/
  written : Vector UInt16 256
  filter : Filter
  /-- Whether the player wants the reverb. -/
  reverbEnabled : Bool
  /-- Frames mixed since power-on. -/
  frames : Nat

namespace SoundProcessor

/-- Bits of the control register. -/
def unmuteBit : UInt16 := 0x4000

def reverbMasterBit : UInt16 := 0x0080

/-- The state after power-on. -/
def initial : SoundProcessor where
  ram := zeroBytes soundRamSize
  voices := List.replicate voiceCount .initial
  bank := .empty
  control := 0
  mainLeft := .initial
  mainRight := .initial
  reverbDepthLeft := 0
  reverbDepthRight := 0
  modulated := 0
  noisy := 0
  reverberant := 0
  reverbRegisters := .initial
  reverb := .initial
  noise := .initial
  transferAddress := 0
  written := Vector.replicate 256 0
  filter := .gaussian
  reverbEnabled := true
  frames := 0

/-- The state after a reset, which keeps the player's filter and reverb choice. -/
def reset (sound : SoundProcessor) : SoundProcessor :=
  { initial with
    filter := sound.filter
    reverbEnabled := sound.reverbEnabled }

/-- Shift field of the noise clock in a control value. -/
def noiseShift (control : UInt16) : Nat :=
  ((control >>> 10) &&& 0xF).toNat

/-- Step field of the noise clock in a control value. -/
def noiseStep (control : UInt16) : Nat :=
  ((control >>> 8) &&& 0x3).toNat

/-- The status register shows the low bits of the control register. -/
def statusBits (control : UInt16) : UInt16 :=
  control &&& 0x3F

/-- The voice with this number. -/
def voice (sound : SoundProcessor) (index : Nat) : Except Fault Voice :=
  match sound.voices[index]? with
  | some voice => .ok voice
  | none => .error (.invalidVoice index)

/-- The voice with this number; a silent one when there is none. -/
def voiceOrSilent (sound : SoundProcessor) (index : Nat) : Voice :=
  sound.voices[index]?.getD .initial

/-- Replace a voice. -/
def setVoice (sound : SoundProcessor) (index : Nat) (voice : Voice) : SoundProcessor :=
  { sound with voices := sound.voices.set index voice }

/-- Start a note. -/
def keyOn (sound : SoundProcessor) (index : Nat) : Except Fault SoundProcessor := do
  let voice ← sound.voice index
  let (voice, bank) := voice.keyOn sound.bank sound.ram
  return { sound.setVoice index voice with bank := bank }

/-- Release a note. -/
def keyOff (sound : SoundProcessor) (index : Nat) : Except Fault SoundProcessor := do
  let voice ← sound.voice index
  return sound.setVoice index voice.keyOff

/-- Make a voice go on at its loop address register. -/
def overrideLoop (sound : SoundProcessor) (index : Nat) : Except Fault SoundProcessor := do
  let voice ← sound.voice index
  return sound.setVoice index voice.overrideLoop

/-- A bit for each voice that sounds. -/
def channelOn (sound : SoundProcessor) : UInt32 :=
  (sound.voices.zipIdx.filter fun (voice, _) => !voice.isOff).foldl
    (fun bits (_, index) => bits ||| (1 <<< UInt32.ofNat index)) 0

/-- The value of a voice register. -/
def readVoice (voice : Voice) : VoiceRegister → UInt16
  | .volumeLeft => voice.volumeLeft.raw
  | .volumeRight => voice.volumeRight.raw
  | .pitch => voice.pitch
  | .startAddress => voice.startAddress
  | .envelopeLow => voice.envelope.lowWord
  | .envelopeHigh => voice.envelope.highWord
  | .currentLevel => (wordOfInt (voice.envelope.audible * 32)).toUInt16
  | .loopAddress => voice.loopAddress

/-- The register at `address` as last written. -/
def lastWritten (sound : SoundProcessor) (address : UInt32) : UInt16 :=
  sound.written[Fin.ofNat 256 (SoundRegister.offsetOf address / 2)]

/-- Read a register. -/
def read (sound : SoundProcessor) (address : UInt32) : UInt16 :=
  match SoundRegister.ofAddress address with
  | .voice index register => readVoice (sound.voiceOrSilent index) register
  | .mainVolumeLeft => sound.mainLeft.raw
  | .mainVolumeRight => sound.mainRight.raw
  | .reverbDepthLeft => sound.reverbDepthLeft
  | .reverbDepthRight => sound.reverbDepthRight
  | .modulation half => half.get sound.modulated
  | .noise half => half.get sound.noisy
  | .reverb half => half.get sound.reverberant
  | .channelOn half => half.get sound.channelOn
  | .workArea => sound.reverbRegisters.workArea
  | .transferAddress => UInt16.ofNat (sound.transferAddress / 8)
  | .control => sound.control
  | .status => statusBits sound.control
  | .reverbParameter index => sound.reverbRegisters.values.get index
  | .keyOn _ | .keyOff _ | .transferFifo | .plain => sound.lastWritten address

/-- Write a voice register. -/
def writeVoice (voice : Voice) (value : UInt16) : VoiceRegister → Voice
  | .volumeLeft => { voice with volumeLeft := voice.volumeLeft.set value }
  | .volumeRight => { voice with volumeRight := voice.volumeRight.set value }
  | .pitch => { voice with pitch := value }
  | .startAddress => { voice with startAddress := value }
  | .envelopeLow => { voice with envelope := voice.envelope.setLowWord value }
  | .envelopeHigh => { voice with envelope := voice.envelope.setHighWord value }
  | .currentLevel => voice
  | .loopAddress => { voice with loopAddress := value }

/-- Write one halfword of sound RAM at the transfer address. -/
def pushHalf (sound : SoundProcessor) (value : UInt16) : SoundProcessor :=
  let address := sound.transferAddress % soundRamSize / 2 * 2
  { sound with
    ram := setLittle sound.ram address value.toUInt32 .half
    bank := sound.bank.invalidate address (address + 2)
    transferAddress := (address + 2) % soundRamSize }

/-- Read one halfword of sound RAM at the transfer address. -/
def popHalf (sound : SoundProcessor) : UInt16 × SoundProcessor :=
  let address := sound.transferAddress % soundRamSize / 2 * 2
  ((getLittle sound.ram address .half).toUInt16,
    { sound with transferAddress := (address + 2) % soundRamSize })

/-- Write the control register, which sets the noise clock. -/
def writeControl (sound : SoundProcessor) (value : UInt16) : SoundProcessor :=
  { sound with
    control := value
    noise := sound.noise.setFrequency (noiseShift value) (noiseStep value) }

/-- The effect of writing a register, apart from keeping the value. -/
def applyWrite
    (sound : SoundProcessor)
    (register : SoundRegister)
    (value : UInt16) :
    SoundProcessor :=
  match register with
  | .voice index register =>
      sound.setVoice index (writeVoice (sound.voiceOrSilent index) value register)
  | .mainVolumeLeft => { sound with mainLeft := sound.mainLeft.set value }
  | .mainVolumeRight => { sound with mainRight := sound.mainRight.set value }
  | .reverbDepthLeft => { sound with reverbDepthLeft := value }
  | .reverbDepthRight => { sound with reverbDepthRight := value }
  | .modulation half => { sound with modulated := half.set sound.modulated value }
  | .noise half => { sound with noisy := half.set sound.noisy value }
  | .reverb half => { sound with reverberant := half.set sound.reverberant value }
  | .workArea =>
      { sound with reverbRegisters := { sound.reverbRegisters with workArea := value } }
  | .transferAddress => { sound with transferAddress := value.toNat * 8 }
  | .transferFifo => sound.pushHalf value
  | .control => sound.writeControl value
  | .reverbParameter index =>
      { sound with
        reverbRegisters :=
          { sound.reverbRegisters with
            values := sound.reverbRegisters.values.setIfInBounds index value } }
  | .keyOn _ | .keyOff _ | .channelOn _ | .status | .plain => sound

/--
Write a register. The key registers only keep their value here: the notes are
started and released by the sound worker.
-/
def write (sound : SoundProcessor) (address : UInt32) (value : UInt16) : SoundProcessor :=
  let index := Fin.ofNat 256 (SoundRegister.offsetOf address / 2)
  { sound with written := sound.written.set index value }.applyWrite
    (.ofAddress address) value

/-- Bytes of a block transfer that fit before the end of sound RAM. -/
def transferRun (address remaining : Nat) : Nat :=
  min remaining (soundRamSize - address)

/-- Copy `data` from index `first` on into sound RAM at `address`, wrapping at the end. -/
def pushFrom
    (sound : SoundProcessor)
    (address : Nat)
    (data : ByteArray)
    (first : Nat) :
    SoundProcessor :=
  if first < data.size ∧ address < soundRamSize then
    let length := transferRun address (data.size - first)
    let sound :=
      { sound with
        ram := data.copySlice first sound.ram address length
        bank := sound.bank.invalidate address (address + length) }
    pushFrom sound ((address + length) % soundRamSize) data (first + length)
  else
    { sound with transferAddress := address }
termination_by data.size - first
decreasing_by
  unfold transferRun
  omega

/-- Copy a block into sound RAM at the transfer address. -/
def pushBlock (sound : SoundProcessor) (data : ByteArray) : SoundProcessor :=
  sound.pushFrom (sound.transferAddress % soundRamSize) data 0

/-- Append `remaining` bytes of sound RAM from `address` on, wrapping at the end. -/
def popFrom
    (ram : ByteArray)
    (address remaining : Nat)
    (taken : ByteArray) :
    ByteArray × Nat :=
  if 0 < remaining ∧ address < soundRamSize then
    let length := transferRun address remaining
    popFrom ram ((address + length) % soundRamSize) (remaining - length)
      (taken ++ ram.extract address (address + length))
  else
    (taken, address)
termination_by remaining
decreasing_by
  unfold transferRun
  omega

/-- Copy a block of `length` bytes out of sound RAM at the transfer address. -/
def popBlock (sound : SoundProcessor) (length : Nat) : ByteArray × SoundProcessor :=
  let (bytes, address) :=
    popFrom sound.ram (sound.transferAddress % soundRamSize) length ByteArray.empty
  (bytes, { sound with transferAddress := address })

/-- Sums of the voices of one frame. -/
structure VoiceMix where
  dry : Stereo
  wet : Stereo
  deriving DecidableEq, Repr

namespace VoiceMix

/-- The sum of no voice. -/
def silent : VoiceMix := ⟨⟨0, 0⟩, ⟨0, 0⟩⟩

/-- Add a voice's output, to the reverb's input too when it feeds the reverb. -/
def add (mix : VoiceMix) (left right : Int) (isWet : Bool) : VoiceMix :=
  { dry := ⟨mix.dry.left + left, mix.dry.right + right⟩
    wet :=
      if isWet then
        ⟨mix.wet.left + left, mix.wet.right + right⟩
      else
        mix.wet }

end VoiceMix

/-- What is the same for all voices of a frame. -/
structure FrameInput where
  filter : Filter
  noiseLevel : Int
  modulated : UInt32
  noisy : UInt32
  reverberant : UInt32

namespace FrameInput

/-- Whether voice `index` has its bit set. -/
def hasBit (bits : UInt32) (index : Nat) : Bool :=
  bits &&& (1 <<< UInt32.ofNat index) != 0

/-- The input of voice `index`, after a voice with output `previous`. -/
def voiceInput (frame : FrameInput) (index : Nat) (previous : Int) : VoiceInput where
  filter := frame.filter
  modulator? := if 0 < index ∧ hasBit frame.modulated index then some previous else none
  noise? := if hasBit frame.noisy index then some frame.noiseLevel else none

end FrameInput

/-- Progress through the voices of one frame. -/
structure MixState where
  mix : VoiceMix
  bank : SoundBank
  voices : List Voice

/-- Render the voices from number `index` on, and sum them. -/
def mixVoices
    (frame : FrameInput)
    (ram : ByteArray) :
    Nat → Int → SoundBank → List Voice → MixState
  | _, _, bank, [] => ⟨.silent, bank, []⟩
  | index, previous, bank, voice :: rest =>
      let ⟨output, voice, bank⟩ := voice.render bank ram (frame.voiceInput index previous)
      let voice := voice.tickVolumes
      let ⟨mix, bank, voices⟩ := mixVoices frame ram (index + 1) output bank rest
      let mix :=
        if output = 0 then
          mix
        else
          mix.add (voice.volumeLeft.apply output) (voice.volumeRight.apply output)
            (FrameInput.hasBit frame.reverberant index)
      ⟨mix, bank, voice :: voices⟩

/-- Whether the reverb runs. -/
def reverbRuns (sound : SoundProcessor) : Bool :=
  sound.reverbEnabled && sound.control &&& reverbMasterBit != 0

/-- Feed the reverb, if it runs; otherwise nothing comes out of it. -/
def runReverb (sound : SoundProcessor) (input : Stereo) : Stereo × SoundProcessor :=
  if sound.reverbRuns then
    let ram := sound.ram
    let sound := { sound with ram := ByteArray.empty }
    let (output, reverb, ram) := sound.reverb.process sound.reverbRegisters ram input
    let sound :=
      { sound with
        ram := ram
        reverb := reverb }
    (⟨scaled output.left (signedHalf sound.reverbDepthLeft),
        scaled output.right (signedHalf sound.reverbDepthRight)⟩,
      sound)
  else
    (⟨0, 0⟩, sound)

/-- Produce one stereo output sample. -/
def mixFrame (sound : SoundProcessor) : Stereo × SoundProcessor :=
  let noise := sound.noise.tick
  let frame : FrameInput :=
    { filter := sound.filter
      noiseLevel := noise.output
      modulated := sound.modulated
      noisy := sound.noisy
      reverberant := sound.reverberant }
  let ⟨mix, bank, voices⟩ := mixVoices frame sound.ram 0 0 sound.bank sound.voices
  let mainLeft := sound.mainLeft.tick
  let mainRight := sound.mainRight.tick
  let left := clamp16 (mainLeft.apply mix.dry.left)
  let right := clamp16 (mainRight.apply mix.dry.right)
  let sound :=
    { sound with
      noise := noise
      bank := bank
      voices := voices
      mainLeft := mainLeft
      mainRight := mainRight
      frames := sound.frames + 1 }
  let (wet, sound) := sound.runReverb ⟨clamp16 mix.wet.left, clamp16 mix.wet.right⟩
  if sound.control &&& unmuteBit = 0 then
    (⟨0, 0⟩, sound)
  else
    (⟨clamp16 (left + wet.left), clamp16 (right + wet.right)⟩, sound)

/-- Append `count` frames to a run of interleaved samples. -/
def render (sound : SoundProcessor) : Nat → Array Int → Array Int × SoundProcessor
  | 0, samples => (samples, sound)
  | count + 1, samples =>
      let (frame, sound) := sound.mixFrame
      render sound count ((samples.push frame.left).push frame.right)

end SoundProcessor

end PsxPlayer
