import PsxPlayer.Sound.Envelope
import PsxPlayer.Sound.Instrument
import PsxPlayer.Sound.Interpolation
import PsxPlayer.Sound.Volume

namespace PsxPlayer

/-!
# Voices

A voice plays an instrument at a pitch. Its position counts in 65536ths of a
sample; each whole step takes the next sample of the instrument into the ring
that the filter works on. The envelope scales the result, and the two volumes
place it between left and right.
-/

/-- One whole sample of the playback position. -/
def positionOne : Nat := 0x10000

/-- The largest pitch. -/
def pitchMax : Int := 0x3FFF

/-- What a voice needs from outside for one output sample. -/
structure VoiceInput where
  filter : Filter
  /-- Output of the voice before, when it modulates this one's pitch. -/
  modulator? : Option Int
  /-- The noise level, when the voice plays noise. -/
  noise? : Option Int
  deriving DecidableEq, Repr

/-- One voice with its registers. -/
structure Voice where
  volumeLeft : Volume
  volumeRight : Volume
  /-- Pitch register; 0x1000 plays one sample per output sample. -/
  pitch : UInt16
  /-- Start address register, in units of 8 bytes. -/
  startAddress : UInt16
  /-- Loop address register, in units of 8 bytes. -/
  loopAddress : UInt16
  envelope : Envelope
  ring : SampleRing
  position : Nat
  instrument? : Option Instrument
  /-- Index of the next sample to take. -/
  cursor : Nat
  /-- Byte address of the instrument to go on with, set by the loop register. -/
  loopOverride? : Option Nat
  /-- Latest output, which may modulate the next voice. -/
  lastOutput : Int
  deriving DecidableEq, Repr

/-- A result with the voice and the bank after it. -/
structure Played (α : Type) where
  value : α
  voice : Voice
  bank : SoundBank

namespace Voice

/-- A silent voice. -/
def initial : Voice where
  volumeLeft := .initial
  volumeRight := .initial
  pitch := 0
  startAddress := 0
  loopAddress := 0
  envelope := .initial
  ring := .silent
  position := 0
  instrument? := none
  cursor := 0
  loopOverride? := none
  lastOutput := 0

/-- Whether the voice is silent. -/
def isOff (voice : Voice) : Bool :=
  voice.envelope.phase == .off

/--
Start a note at the start address. The position begins one whole sample ahead,
so that the first output takes in sample 0.
-/
def keyOn (voice : Voice) (bank : SoundBank) (ram : ByteArray) : Voice × SoundBank :=
  let (instrument, bank) := bank.fetch ram (voice.startAddress.toNat * 8)
  ({ voice with
      instrument? := some instrument
      cursor := 0
      ring := .silent
      position := positionOne
      loopOverride? := none
      lastOutput := 0
      envelope := voice.envelope.keyOn },
    bank)

/-- Release the note. -/
def keyOff (voice : Voice) : Voice :=
  { voice with envelope := voice.envelope.keyOff }

/-- From now on go on at the loop address register when the instrument repeats. -/
def overrideLoop (voice : Voice) : Voice :=
  { voice with loopOverride? := some (voice.loopAddress.toNat * 8) }

/-- The sample under the cursor. -/
def sample? (voice : Voice) : Option Int :=
  voice.instrument?.bind fun instrument => instrument.samples[voice.cursor]?

/-- Move the cursor to where a repeating instrument goes on. -/
def rewind
    (voice : Voice)
    (bank : SoundBank)
    (ram : ByteArray)
    (instrument : Instrument) :
    Voice × SoundBank :=
  match voice.loopOverride? with
  | some address =>
      let (next, bank) := bank.fetch ram address
      ({ voice with
          instrument? := some next
          cursor := 0 },
        bank)
  | none => ({ voice with cursor := instrument.loopOffset }, bank)

/-- Take the sample under the cursor, if there is one. -/
def take (voice : Voice) (bank : SoundBank) : Played (Option Int) :=
  match voice.sample? with
  | some sample => ⟨some sample, { voice with cursor := voice.cursor + 1 }, bank⟩
  | none => ⟨none, voice, bank⟩

/--
The next sample of the instrument. Behind the last sample a repeating instrument
goes on at its loop point and any other has ended.
-/
def next (voice : Voice) (bank : SoundBank) (ram : ByteArray) : Played (Option Int) :=
  match voice.instrument? with
  | none => ⟨none, voice, bank⟩
  | some instrument =>
      if voice.cursor < instrument.samples.size then
        voice.take bank
      else if instrument.isRepeat then
        let (voice, bank) := voice.rewind bank ram instrument
        voice.take bank
      else
        ⟨none, voice, bank⟩

/-- The voice after its instrument has ended. -/
def stop (voice : Voice) : Voice :=
  { voice with
    envelope := voice.envelope.silence
    instrument? := none
    lastOutput := 0 }

/--
Take in `count` samples, one for each whole step of the position. The answer
says whether the voice still sounds.
-/
def takeIn : Nat → Voice → SoundBank → ByteArray → Played Bool
  | 0, voice, bank, _ => ⟨true, voice, bank⟩
  | count + 1, voice, bank, ram =>
      let voice := { voice with position := voice.position - positionOne }
      match voice.next bank ram with
      | ⟨some sample, voice, bank⟩ =>
          takeIn count { voice with ring := voice.ring.push sample } bank ram
      | ⟨none, voice, bank⟩ => ⟨false, voice.stop, bank⟩

/-- How far the position moves per output sample. -/
def positionStep (voice : Voice) (modulator? : Option Int) : Nat :=
  let pitch : Int := min (voice.pitch.toNat : Int) pitchMax
  let pitch :=
    match modulator? with
    | some modulator =>
        max 1 (min (Int.tdiv ((0x8000 + modulator) * pitch) 0x8000) pitchMax)
    | none => pitch
  pitch.toNat * 16

/-- The output of a sounding voice, once its samples are taken in. -/
def sound (voice : Voice) (input : VoiceInput) : Int × Voice :=
  let sample :=
    match input.noise? with
    | some level => level
    | none => input.filter.apply voice.ring voice.position
  let envelope := voice.envelope.tick
  let output := Int.tdiv (sample * envelope.audible) 1023
  (output,
    { voice with
      envelope := envelope
      lastOutput := output
      position := voice.position + voice.positionStep input.modulator? })

/-- One output sample, before the volumes. -/
def render
    (voice : Voice)
    (bank : SoundBank)
    (ram : ByteArray)
    (input : VoiceInput) :
    Played Int :=
  if voice.isOff then
    ⟨0, { voice with lastOutput := 0 }, bank⟩
  else
    match takeIn (voice.position / positionOne) voice bank ram with
    | ⟨true, voice, bank⟩ =>
        let (output, voice) := voice.sound input
        ⟨output, voice, bank⟩
    | ⟨false, voice, bank⟩ => ⟨0, voice, bank⟩

/-- Advance the volume sweeps. -/
def tickVolumes (voice : Voice) : Voice :=
  { voice with
    volumeLeft := voice.volumeLeft.tick
    volumeRight := voice.volumeRight.tick }

end Voice

end PsxPlayer
