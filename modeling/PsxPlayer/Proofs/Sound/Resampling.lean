import Mathlib.Algebra.GroupWithZero.Nat
import PsxPlayer.Proofs.Sound.Coherence
import PsxPlayer.Proofs.Sound.Voice

namespace PsxPlayer

/-!
# Playing at a constant pitch

Unrolled, an instrument is one stream: its samples and, if it repeats, the samples from
its loop point on, again and again.  A voice at a constant pitch reads this stream at
evenly spaced places, whichever way its position and its cursor get there.
-/

namespace Instrument

/-! ## The stream -/

/-- The index in the instrument of number `index` of the stream. -/
def unrolled
    (instrument : Instrument)
    (index : Nat) :
    Nat :=
  let size := instrument.samples.size
  if index < size then
    index
  else
    instrument.loopOffset + (index - size) % (size - instrument.loopOffset)

/-- Number `index` of the stream. -/
def stream
    (instrument : Instrument)
    (index : Nat) :
    Int :=
  instrument.samples.getD (instrument.unrolled index) 0

/-- What comes `distance` before number `index` of the stream; silence before its start. -/
def streamBefore
    (instrument : Instrument)
    (index distance : Nat) :
    Int :=
  if distance ≤ index then instrument.stream (index - distance) else 0

/-- The four latest samples when the stream has been read up to number `index`. -/
def window
    (instrument : Instrument)
    (index : Nat) :
    SampleRing where
  oldest := instrument.streamBefore index 3
  older := instrument.streamBefore index 2
  newer := instrument.streamBefore index 1
  newest := instrument.stream index

/-- The stream has at least `count` samples. -/
def HasSamples
    (instrument : Instrument)
    (count : Nat) :
    Prop :=
  instrument.isRepeat = true ∨ count ≤ instrument.samples.size

/-- A repeating instrument goes on at one of its samples. -/
def RepeatsWithin (instrument : Instrument) : Prop :=
  instrument.isRepeat = true → instrument.loopOffset < instrument.samples.size

/-- The instrument has been decoded, from whatever was in sound RAM at the time. -/
def IsDecoded (instrument : Instrument) : Prop :=
  ∃ ram address, instrument = decode ram address

/-- Only a block asks to repeat, so an instrument without one does not. -/
theorem IsDecoded.repeatsWithin
    {instrument : Instrument}
    (isDecoded : instrument.IsDecoded) :
    instrument.RepeatsWithin := by
  obtain ⟨ram, address, rfl⟩ := isDecoded
  intro repeats
  have isMadeFrom := isMadeFrom_decode ram address
  obtain ⟨last, count, -⟩ := isMadeFrom.endsFlagged repeats
  refine isMadeFrom.loopOffset_lt (isMadeFrom.nonempty_iff.mpr ?_)
  rw [count]
  exact Nat.succ_pos last

section

variable {instrument : Instrument}

/-- An instrument that has so many samples has fewer, too. -/
theorem HasSamples.mono
    {count less : Nat}
    (hasSamples : instrument.HasSamples count)
    (le : less ≤ count) :
    instrument.HasSamples less :=
  hasSamples.imp_right (Nat.le_trans le)

/-- Before its end an instrument plays its samples in order. -/
theorem unrolled_of_lt
    {index : Nat}
    (below : index < instrument.samples.size) :
    instrument.unrolled index = index :=
  if_pos below

/-- Whatever is played next is a sample of the instrument. -/
theorem unrolled_lt
    {index : Nat}
    (repeatsWithin : instrument.RepeatsWithin)
    (hasSamples : instrument.HasSamples (index + 1)) :
    instrument.unrolled index < instrument.samples.size := by
  by_cases below : index < instrument.samples.size
  · exact (unrolled_of_lt below).symm ▸ below
  · have within := repeatsWithin (hasSamples.resolve_right below)
    have rest :=
      Nat.mod_lt (index - instrument.samples.size) (Nat.sub_pos_of_lt within)
    rw [unrolled, if_neg below]
    exact Nat.add_lt_of_lt_sub' rest

/-- Behind the last sample the stream goes on at the loop point. -/
theorem unrolled_succ
    (within : instrument.loopOffset < instrument.samples.size)
    (index : Nat) :
    instrument.unrolled (index + 1) =
      if instrument.unrolled index + 1 < instrument.samples.size then
        instrument.unrolled index + 1
      else
        instrument.loopOffset := by
  rcases Nat.lt_trichotomy (index + 1) instrument.samples.size with below | last | beyond
  · rw [unrolled_of_lt below, unrolled_of_lt (Nat.lt_of_succ_lt below), if_pos below]
  · have inside : index < instrument.samples.size := last ▸ Nat.lt_succ_self index
    rw [unrolled_of_lt inside, last, if_neg (Nat.lt_irrefl _), unrolled,
      if_neg (Nat.lt_irrefl _), Nat.sub_self, Nat.zero_mod, Nat.add_zero]
  · have outside : ¬ index < instrument.samples.size :=
      Nat.not_lt_of_le (Nat.le_of_lt_succ beyond)
    have further :
        index + 1 - instrument.samples.size = index - instrument.samples.size + 1 :=
      Nat.succ_sub (Nat.le_of_not_lt outside)
    have positive := Nat.sub_pos_of_lt within
    have wraps :=
      Nat.mod_add_mod (index - instrument.samples.size)
        (instrument.samples.size - instrument.loopOffset) 1
    have rest := Nat.mod_lt (index - instrument.samples.size) positive
    simp only [unrolled, if_neg outside, if_neg (Nat.lt_asymm beyond), further, ← wraps]
    split
    · next inside =>
        rw [Nat.mod_eq_of_lt (by omega), Nat.add_assoc]
    · next atEnd =>
        have full :
            (index - instrument.samples.size) %
                (instrument.samples.size - instrument.loopOffset) + 1 =
              instrument.samples.size - instrument.loopOffset := by
          omega
        rw [full, Nat.mod_self, Nat.add_zero]

/-! ## Reading the stream -/

/-- The index in the instrument of the sample to take next, after `taken` ones. -/
def cursorAfter (instrument : Instrument) : Nat → Nat
  | 0 => 0
  | taken + 1 => instrument.unrolled taken + 1

/-- The four latest samples, after `taken` ones. -/
def ringAfter (instrument : Instrument) : Nat → SampleRing
  | 0 => .silent
  | taken + 1 => instrument.window taken

/-- Up to the end the cursor counts the samples that have been taken. -/
theorem cursorAfter_of_le
    {taken : Nat}
    (within : taken ≤ instrument.samples.size) :
    instrument.cursorAfter taken = taken := by
  cases taken with
  | zero => rfl
  | succ taken => exact congrArg (· + 1) (unrolled_of_lt within)

/-- The cursor is on the next sample, or it stands at the end and has to go back for it. -/
theorem unrolled_eq_ite
    (within : instrument.loopOffset < instrument.samples.size)
    (taken : Nat) :
    instrument.unrolled taken =
      if instrument.cursorAfter taken < instrument.samples.size then
        instrument.cursorAfter taken
      else
        instrument.loopOffset := by
  cases taken with
  | zero =>
      have nonempty : 0 < instrument.samples.size := Nat.zero_lt_of_lt within
      rw [cursorAfter, if_pos nonempty, unrolled_of_lt nonempty]
  | succ taken => exact unrolled_succ within taken

/-- What lay so far before a sample lies one further before the next. -/
theorem streamBefore_succ
    (instrument : Instrument)
    (index distance : Nat) :
    instrument.streamBefore (index + 1) (distance + 1) =
      instrument.streamBefore index distance := by
  simp only [streamBefore, Nat.add_le_add_iff_right, Nat.add_sub_add_right]

/-- With each sample taken the window moves on by one. -/
theorem ringAfter_succ
    (instrument : Instrument)
    (taken : Nat) :
    instrument.ringAfter (taken + 1) =
      (instrument.ringAfter taken).push (instrument.stream taken) := by
  cases taken with
  | zero => rfl
  | succ index =>
      simp only [ringAfter, window, SampleRing.push, streamBefore_succ]
      simp [streamBefore]

end

end Instrument

namespace SoundBank

/-- Every instrument in the bank has been decoded. -/
def IsDecoded (bank : SoundBank) : Prop :=
  ∀ instrument, instrument ∈ bank.instruments → instrument.IsDecoded

theorem isDecoded_empty : SoundBank.empty.IsDecoded :=
  fun _ member => nomatch member

/-- What is fetched has been decoded, now or before. -/
theorem IsDecoded.fetch
    {bank : SoundBank}
    (isDecoded : bank.IsDecoded)
    (ram : ByteArray)
    (address : Nat) :
    (bank.fetch ram address).1.IsDecoded ∧ (bank.fetch ram address).2.IsDecoded := by
  unfold SoundBank.fetch
  split
  · next instrument found =>
      exact ⟨isDecoded instrument (mem_and_start_of_find? found).1, isDecoded⟩
  · refine ⟨⟨ram, address, rfl⟩, ?_⟩
    intro instrument member
    rcases List.mem_cons.mp member with rfl | inBank
    · exact ⟨ram, address, rfl⟩
    · exact isDecoded instrument inBank

/-- Forgetting instruments changes none of the others. -/
theorem IsDecoded.invalidate
    {bank : SoundBank}
    (isDecoded : bank.IsDecoded)
    (first last : Nat) :
    (bank.invalidate first last).IsDecoded := by
  intro instrument member
  exact isDecoded instrument (List.mem_filter.mp member).1

/-- However many instruments are fetched, all have been decoded. -/
theorem IsDecoded.fetched
    {ram : ByteArray}
    {bank later : SoundBank}
    (isDecoded : bank.IsDecoded)
    (fetched : Fetched ram bank later) :
    later.IsDecoded := by
  induction fetched with
  | none bank => exact isDecoded
  | fetch address rest inductionHypothesis =>
      exact inductionHypothesis (isDecoded.fetch ram address).2

end SoundBank

namespace SoundProcessor

/-- A transfer into sound RAM forgets instruments and changes none. -/
theorem isDecoded_pushFrom
    {sound : SoundProcessor}
    (isDecoded : sound.bank.IsDecoded)
    (address : Nat)
    (data : ByteArray)
    (first : Nat) :
    (sound.pushFrom address data first).bank.IsDecoded := by
  fun_induction SoundProcessor.pushFrom sound address data first with
  | case1 sound address first room length next inductionHypothesis =>
      exact inductionHypothesis (isDecoded.invalidate _ _)
  | case2 sound address first noRoom => exact isDecoded

/-- Commands fetch instruments and forget them, but never change one. -/
theorem isDecoded_obey
    {sound : SoundProcessor}
    (isDecoded : sound.bank.IsDecoded)
    (command : Command) :
    (sound.obey command).bank.IsDecoded := by
  cases command with
  | write address value =>
      simp only [obey, write]
      generalize SoundRegister.ofAddress address = register
      cases register <;>
        first
        | exact isDecoded.invalidate _ _
        | exact isDecoded
  | keyOn voice =>
      simp only [obey, accept, keyOn]
      cases sound.voice voice with
      | error fault => exact isDecoded
      | ok found => exact (isDecoded.fetch _ _).2
  | keyOff voice =>
      simp only [obey, accept, keyOff]
      cases sound.voice voice with
      | error fault => exact isDecoded
      | ok found => exact isDecoded
  | overrideLoop voice =>
      simp only [obey, accept, overrideLoop]
      cases sound.voice voice with
      | error fault => exact isDecoded
      | ok found => exact isDecoded
  | pushHalf value => exact isDecoded.invalidate _ _
  | popHalf => exact isDecoded
  | pushBlock data => exact isDecoded_pushFrom isDecoded _ data 0
  | popBlock length => exact isDecoded
  | enableReverb enabled => exact isDecoded
  | mixFrame => exact isDecoded.fetched sound.mixFrame_fetched

end SoundProcessor

namespace Voice

/-! ## Taking in samples -/

/-- A voice that has taken in `taken` samples of an instrument and keeps to its loop point. -/
structure Reads
    (instrument : Instrument)
    (taken : Nat)
    (voice : Voice) :
    Prop where
  attached : voice.instrument? = some instrument
  notOverridden : voice.loopOverride? = none
  cursor : voice.cursor = instrument.cursorAfter taken
  ring : voice.ring = instrument.ringAfter taken
  hasSamples : instrument.HasSamples taken

/-- The voice at a position, when it has taken in `taken` samples. -/
def readTo
    (voice : Voice)
    (instrument : Instrument)
    (taken position : Nat) :
    Voice :=
  { voice with
    position := position
    cursor := instrument.cursorAfter taken
    ring := instrument.ringAfter taken }

namespace Reads

variable {instrument : Instrument} {taken : Nat} {voice : Voice}

/-- The position alone does not say which samples have been taken. -/
theorem moveTo
    (reads : Reads instrument taken voice)
    (position : Nat) :
    Reads instrument taken { voice with position := position } :=
  { reads with }

theorem readTo_self (reads : Reads instrument taken voice) :
    voice.readTo instrument taken voice.position = voice := by
  rw [readTo, ← reads.cursor, ← reads.ring]

/-- A voice that is read on has taken more samples of the same instrument. -/
theorem readTo
    {more : Nat}
    (reads : Reads instrument taken voice)
    (hasSamples : instrument.HasSamples more)
    (position : Nat) :
    Reads instrument more (voice.readTo instrument more position) where
  attached := reads.attached
  notOverridden := reads.notOverridden
  cursor := rfl
  ring := rfl
  hasSamples := hasSamples

/-- Without an override a voice goes on at the loop point. -/
theorem rewind
    (reads : Reads instrument taken voice)
    (bank : SoundBank)
    (ram : ByteArray) :
    voice.rewind bank ram instrument = ({ voice with cursor := instrument.loopOffset }, bank) := by
  unfold Voice.rewind
  split
  · next address overridden => exact nomatch reads.notOverridden.symm.trans overridden
  · rfl

/-- The next sample is under the cursor, or at the loop point behind the end. -/
theorem next_eq_ite
    (reads : Reads instrument taken voice)
    (bank : SoundBank)
    (ram : ByteArray) :
    voice.next bank ram =
      if instrument.cursorAfter taken < instrument.samples.size then
        voice.take bank
      else if instrument.isRepeat then
        { voice with cursor := instrument.loopOffset }.take bank
      else
        ⟨none, voice, bank⟩ := by
  unfold Voice.next
  split
  · next missing => exact nomatch reads.attached.symm.trans missing
  · next found attached =>
      obtain rfl : instrument = found := Option.some.inj (reads.attached.symm.trans attached)
      rw [← reads.cursor, reads.rewind]

/-- What is taken next is the next sample of the stream. -/
theorem next
    (reads : Reads instrument taken voice)
    (repeatsWithin : instrument.RepeatsWithin)
    (hasNext : instrument.HasSamples (taken + 1))
    (bank : SoundBank)
    (ram : ByteArray) :
    voice.next bank ram =
      ⟨some (instrument.stream taken),
        { voice with cursor := instrument.cursorAfter (taken + 1) },
        bank⟩ := by
  have inside := Instrument.unrolled_lt repeatsWithin hasNext
  have takes {cursor : Nat} (onNext : cursor = instrument.unrolled taken) :
      { voice with cursor := cursor }.take bank =
        ⟨some (instrument.stream taken),
          { voice with cursor := instrument.cursorAfter (taken + 1) },
          bank⟩ := by
    simp [take, sample?, reads.attached, onNext, inside, Instrument.stream,
      Instrument.cursorAfter, Array.getD]
  rw [reads.next_eq_ite]
  split
  · next below =>
      apply takes
      rw [reads.cursor]
      rcases hasNext with repeats | within
      · rw [Instrument.unrolled_eq_ite (repeatsWithin repeats), if_pos below]
      · rw [Instrument.cursorAfter_of_le (Nat.le_of_lt within),
          Instrument.unrolled_of_lt within]
  · next atEnd =>
      have repeats : instrument.isRepeat = true := by
        refine hasNext.resolve_right fun within => atEnd ?_
        rwa [Instrument.cursorAfter_of_le (Nat.le_of_lt within)]
      rw [if_pos repeats]
      apply takes
      rw [Instrument.unrolled_eq_ite (repeatsWithin repeats), if_neg atEnd]

/-- Behind the last sample there is nothing to take. -/
theorem next_of_end
    (reads : Reads instrument taken voice)
    (ended : ¬ instrument.HasSamples (taken + 1))
    (bank : SoundBank)
    (ram : ByteArray) :
    voice.next bank ram = ⟨none, voice, bank⟩ := by
  obtain ⟨notRepeating, notBelow⟩ := not_or.mp ended
  have within := reads.hasSamples.resolve_left notRepeating
  rw [reads.next_eq_ite, Instrument.cursorAfter_of_le within,
    if_neg (Nat.not_lt_of_ge (Nat.le_of_not_lt notBelow)), if_neg notRepeating]

/-- Taking in one sample more reads the voice on by one. -/
theorem takeIn_succ
    (reads : Reads instrument taken voice)
    (repeatsWithin : instrument.RepeatsWithin)
    (hasNext : instrument.HasSamples (taken + 1))
    (count : Nat)
    (bank : SoundBank)
    (ram : ByteArray) :
    Voice.takeIn (count + 1) voice bank ram =
      Voice.takeIn count
        (voice.readTo instrument (taken + 1) (voice.position - positionOne)) bank ram := by
  have moved := reads.moveTo (voice.position - positionOne)
  simp only [Voice.takeIn, moved.next repeatsWithin hasNext]
  rw [Voice.readTo, Instrument.ringAfter_succ, ← reads.ring]

/-- So many samples taken in read the voice on by as many. -/
theorem takeIn
    (reads : Reads instrument taken voice)
    (repeatsWithin : instrument.RepeatsWithin)
    {count : Nat}
    (hasSamples : instrument.HasSamples (taken + count))
    (bank : SoundBank)
    (ram : ByteArray) :
    Voice.takeIn count voice bank ram =
      ⟨true,
        voice.readTo instrument (taken + count) (voice.position - count * positionOne),
        bank⟩ := by
  induction count generalizing voice taken with
  | zero =>
      rw [Nat.zero_mul, Nat.sub_zero, Nat.add_zero, reads.readTo_self]
      rfl
  | succ count inductionHypothesis =>
      have hasNext : instrument.HasSamples (taken + 1) :=
        hasSamples.mono (Nat.add_le_add_left (Nat.le_add_left 1 count) taken)
      have order : taken + (count + 1) = taken + 1 + count :=
        (Nat.succ_add_eq_add_succ taken count).symm
      rw [order] at hasSamples ⊢
      rw [reads.takeIn_succ repeatsWithin hasNext,
        inductionHypothesis (reads.readTo hasNext _) hasSamples]
      simp only [Voice.readTo, Nat.add_one_mul, Nat.sub_sub, Nat.add_comm positionOne]

/-- The voice is silent once it wants more samples than there are. -/
theorem takeIn_of_end
    (reads : Reads instrument taken voice)
    (repeatsWithin : instrument.RepeatsWithin)
    {count : Nat}
    (ended : ¬ instrument.HasSamples (taken + count))
    (bank : SoundBank)
    (ram : ByteArray) :
    ∃ after,
      Voice.takeIn count voice bank ram = ⟨false, after, bank⟩ ∧ after.isOff = true := by
  induction count generalizing voice taken with
  | zero => exact absurd reads.hasSamples ended
  | succ count inductionHypothesis =>
      by_cases hasNext : instrument.HasSamples (taken + 1)
      · rw [← Nat.succ_add_eq_add_succ] at ended
        rw [reads.takeIn_succ repeatsWithin hasNext]
        exact inductionHypothesis (reads.readTo hasNext _) ended
      · have moved := reads.moveTo (voice.position - positionOne)
        simp only [Voice.takeIn, moved.next_of_end hasNext]
        exact ⟨_, rfl, rfl⟩

end Reads

/-! ## Rendering -/

/-- How far the position moves at a pitch, in 65536ths of a sample. -/
def stride (pitch : UInt16) : Nat :=
  min pitch.toNat 0x3FFF * 16

/-- Without a modulator the position moves by the stride of the pitch. -/
theorem positionStep_none (voice : Voice) : voice.positionStep none = stride voice.pitch := by
  unfold positionStep stride pitchMax
  dsimp only
  omega

/-- A voice that has rendered `renders` times at its pitch since its note was keyed on. -/
structure Plays
    (instrument : Instrument)
    (pitch : UInt16)
    (renders : Nat)
    (voice : Voice) :
    Prop where
  samePitch : voice.pitch = pitch
  reads :
    ∃ taken,
      Reads instrument taken voice ∧
        voice.position + taken * positionOne = positionOne + renders * stride pitch

/-- A note starts at the first sample of the instrument at the start address. -/
theorem plays_keyOn
    (voice : Voice)
    (bank : SoundBank)
    (ram : ByteArray) :
    Plays (bank.fetch ram (voice.startAddress.toNat * 8)).1 voice.pitch 0
      (voice.keyOn bank ram).1 where
  samePitch := rfl
  reads := by
    refine ⟨0, ⟨rfl, rfl, rfl, rfl, .inr (Nat.zero_le _)⟩, ?_⟩
    rw [Nat.zero_mul, Nat.zero_mul]
    rfl

namespace Plays

variable {instrument : Instrument} {pitch : UInt16} {renders : Nat} {voice : Voice}

/-- The voice when it has taken in what the next render needs, at a distance from its start. -/
def heard
    (voice : Voice)
    (instrument : Instrument)
    (distance : Nat) :
    Voice :=
  voice.readTo instrument (distance / positionOne + 1) (distance % positionOne)

/-- The whole steps of the position are the samples that are missing. -/
theorem whole_steps
    {position taken done : Nat}
    (balance : position + taken * positionOne = positionOne + done) :
    taken + position / positionOne = done / positionOne + 1 ∧
      position - position / positionOne * positionOne = done % positionOne := by
  have positive : 0 < positionOne := by decide
  constructor
  · have quotient := congrArg (· / positionOne) balance
    simp only [Nat.add_mul_div_right _ _ positive, Nat.add_div_left _ positive] at quotient
    rw [Nat.add_comm, quotient]
  · have remainder := congrArg (· % positionOne) balance
    simp only [Nat.add_mul_mod_self_right, Nat.add_mod_left] at remainder
    rw [← remainder, Nat.mod_eq_sub, Nat.mul_comm]

/-- What is rendered is what the filter makes of the samples taken so far. -/
theorem render
    (plays : Plays instrument pitch renders voice)
    (repeatsWithin : instrument.RepeatsWithin)
    (sounds : voice.isOff = false)
    (hasNext : instrument.HasSamples (renders * stride pitch / positionOne + 1))
    (bank : SoundBank)
    (ram : ByteArray)
    (input : VoiceInput) :
    let heard := heard voice instrument (renders * stride pitch)
    voice.render bank ram input = ⟨(heard.sound input).1, (heard.sound input).2, bank⟩ := by
  obtain ⟨-, taken, reads, balance⟩ := plays
  obtain ⟨count, rest⟩ := whole_steps balance
  rw [← count] at hasNext
  rw [Voice.render, sounds, reads.takeIn repeatsWithin hasNext, count, rest]
  rfl

/-- Behind the last sample a voice falls silent. -/
theorem render_of_end
    (plays : Plays instrument pitch renders voice)
    (repeatsWithin : instrument.RepeatsWithin)
    (sounds : voice.isOff = false)
    (ended : ¬ instrument.HasSamples (renders * stride pitch / positionOne + 1))
    (bank : SoundBank)
    (ram : ByteArray)
    (input : VoiceInput) :
    (voice.render bank ram input).value = 0 ∧
      (voice.render bank ram input).voice.isOff = true := by
  obtain ⟨-, taken, reads, balance⟩ := plays
  rw [← (whole_steps balance).1] at ended
  obtain ⟨after, tookIn, isOff⟩ := reads.takeIn_of_end repeatsWithin ended bank ram
  rw [Voice.render, sounds, tookIn]
  exact ⟨rfl, isOff⟩

/-- One more render of a voice that still sounds. -/
theorem rendered
    (plays : Plays instrument pitch renders voice)
    (repeatsWithin : instrument.RepeatsWithin)
    (sounds : voice.isOff = false)
    {bank : SoundBank}
    {ram : ByteArray}
    {filter : Filter}
    {noise? : Option Int}
    (stillSounds : (voice.render bank ram ⟨filter, none, noise?⟩).voice.isOff = false) :
    Plays instrument pitch (renders + 1)
      (voice.render bank ram ⟨filter, none, noise?⟩).voice := by
  by_cases hasNext : instrument.HasSamples (renders * stride pitch / positionOne + 1)
  · rw [plays.render repeatsWithin sounds hasNext]
    obtain ⟨samePitch, taken, reads, -⟩ := plays
    refine ⟨samePitch, renders * stride pitch / positionOne + 1, ?_, ?_⟩
    · exact { reads.readTo hasNext (renders * stride pitch % positionOne) with }
    · have split := Nat.mod_add_div' (renders * stride pitch) positionOne
      have step : voice.positionStep none = stride pitch := by
        rw [positionStep_none, samePitch]
      change renders * stride pitch % positionOne + voice.positionStep none + _ = _
      rw [step, Nat.add_one_mul, Nat.add_one_mul]
      omega
  · have silent := (plays.render_of_end repeatsWithin sounds hasNext bank ram
      ⟨filter, none, noise?⟩).2
    rw [silent] at stillSounds
    cases stillSounds

/-- What does not touch the playing itself leaves it as it is. -/
theorem of_same
    {after : Voice}
    (plays : Plays instrument pitch renders voice)
    (samePitch : after.pitch = voice.pitch)
    (sameInstrument : after.instrument? = voice.instrument?)
    (sameOverride : after.loopOverride? = voice.loopOverride?)
    (sameCursor : after.cursor = voice.cursor)
    (sameRing : after.ring = voice.ring)
    (samePosition : after.position = voice.position) :
    Plays instrument pitch renders after := by
  obtain ⟨isPitch, taken, reads, balance⟩ := plays
  refine ⟨samePitch.trans isPitch, taken, ?_, samePosition ▸ balance⟩
  exact
    { reads with
      attached := sameInstrument.trans reads.attached
      notOverridden := sameOverride.trans reads.notOverridden
      cursor := sameCursor.trans reads.cursor
      ring := sameRing.trans reads.ring }

end Plays

/-! ## A note -/

/-- What may happen to a voice in the course of a note at one pitch and one loop point. -/
inductive Command where
  | render (bank : SoundBank) (ram : ByteArray) (filter : Filter) (noise? : Option Int)
  | keyOff
  | write (register : VoiceRegister) (value : UInt16) (keepsPitch : register ≠ .pitch)
  | tickVolumes

/-- Carry out a command. -/
def obey (voice : Voice) : Command → Voice
  | .render bank ram filter noise? => (voice.render bank ram ⟨filter, none, noise?⟩).voice
  | .keyOff => voice.keyOff
  | .write register value _ => SoundProcessor.writeVoice voice value register
  | .tickVolumes => voice.tickVolumes

/-- Carry out commands one after the other. -/
def obeyAll
    (voice : Voice)
    (commands : List Command) :
    Voice :=
  commands.foldl obey voice

/-- The number of output samples that a command makes. -/
def Command.renders : Command → Nat
  | .render .. => 1
  | .keyOff | .write .. | .tickVolumes => 0

/-- The number of output samples that commands make. -/
def rendersOf (commands : List Command) : Nat :=
  (commands.map Command.renders).sum

/-- Only a new note ends the silence. -/
theorem isOff_obey
    {voice : Voice}
    (silent : voice.isOff = true)
    (command : Command) :
    (voice.obey command).isOff = true := by
  cases command with
  | render bank ram filter noise? =>
      rw [obey, render, if_pos silent]
      exact silent
  | keyOff =>
      have off : voice.envelope.phase = .off := eq_of_beq silent
      simp [obey, Voice.keyOff, Envelope.keyOff, isOff, off]
  | write register value keepsPitch => cases register <;> exact silent
  | tickVolumes => exact silent

/-- No command but a new note makes a silent voice sound. -/
theorem sounded_of_obey
    {voice : Voice}
    {command : Command}
    (sounds : (voice.obey command).isOff = false) :
    voice.isOff = false := by
  cases off : voice.isOff with
  | false => rfl
  | true => exact (isOff_obey off command).symm.trans sounds

/-- A voice that sounds in the end has sounded all along. -/
theorem sounded_of_obeyAll
    {voice : Voice}
    {commands : List Command}
    (sounds : (voice.obeyAll commands).isOff = false) :
    voice.isOff = false := by
  induction commands generalizing voice with
  | nil => exact sounds
  | cons command rest inductionHypothesis =>
      exact sounded_of_obey (inductionHypothesis sounds)

namespace Plays

variable {instrument : Instrument} {pitch : UInt16} {renders : Nat} {voice : Voice}

/-- A command that lets the voice sound keeps it at its place in the instrument. -/
theorem obey
    (plays : Plays instrument pitch renders voice)
    (repeatsWithin : instrument.RepeatsWithin)
    {command : Command}
    (sounds : (voice.obey command).isOff = false) :
    Plays instrument pitch (renders + command.renders) (voice.obey command) := by
  cases command with
  | render bank ram filter noise? =>
      exact plays.rendered repeatsWithin (sounded_of_obey sounds) sounds
  | keyOff => exact plays.of_same rfl rfl rfl rfl rfl rfl
  | write register value keepsPitch =>
      cases register with
      | pitch => exact absurd rfl keepsPitch
      | _ => exact plays.of_same rfl rfl rfl rfl rfl rfl
  | tickVolumes => exact plays.of_same rfl rfl rfl rfl rfl rfl

/-- Commands that let the voice sound keep it at its place in the instrument. -/
theorem obeyAll
    (plays : Plays instrument pitch renders voice)
    (repeatsWithin : instrument.RepeatsWithin)
    {commands : List Command}
    (sounds : (voice.obeyAll commands).isOff = false) :
    Plays instrument pitch (renders + rendersOf commands) (voice.obeyAll commands) := by
  induction commands generalizing voice renders with
  | nil => exact plays
  | cons command rest inductionHypothesis =>
      have later :=
        inductionHypothesis (plays.obey repeatsWithin (sounded_of_obeyAll sounds)) sounds
      rwa [Nat.add_assoc] at later

end Plays

/--
A voice that still sounds reads its instrument's stream exactly: its next render takes
in the stream up to the whole part of the distance it has gone, and the filter places
the output by the fraction.  It ends when the stream does, or with the envelope.
-/
theorem render_followsStream
    {voice : Voice}
    {bank : SoundBank}
    {ram : ByteArray}
    {commands : List Command}
    (isDecoded : bank.IsDecoded)
    (sounds : ((voice.keyOn bank ram).1.obeyAll commands).isOff = false)
    (laterBank : SoundBank)
    (laterRam : ByteArray)
    (filter : Filter)
    (noise? : Option Int) :
    let instrument := (bank.fetch ram (voice.startAddress.toNat * 8)).1
    let before := (voice.keyOn bank ram).1.obeyAll commands
    let played := before.render laterBank laterRam ⟨filter, none, noise?⟩
    let done := rendersOf commands * (min voice.pitch.toNat 0x3FFF * 16)
    let index := done / 0x10000
    let fraction := done % 0x10000
    let sample := noise?.getD (filter.apply (instrument.window index) fraction)
    if instrument.isRepeat ∨ index < instrument.samples.size then
      instrument.unrolled index < instrument.samples.size ∧
        played.voice.ring = instrument.window index ∧
        played.voice.position = fraction + min voice.pitch.toNat 0x3FFF * 16 ∧
        played.value = Int.tdiv (sample * before.envelope.tick.audible) 1023 ∧
        played.voice.envelope = before.envelope.tick
    else
      played.value = 0 ∧ played.voice.isOff = true := by
  intro instrument before played done index fraction sample
  have repeatsWithin := (isDecoded.fetch ram (voice.startAddress.toNat * 8)).1.repeatsWithin
  have plays : Plays instrument voice.pitch (rendersOf commands) before := by
    have later := (voice.plays_keyOn bank ram).obeyAll repeatsWithin sounds
    rwa [Nat.zero_add] at later
  split
  · next hasNext =>
      have rendered : played = _ :=
        plays.render repeatsWithin sounds hasNext laterBank laterRam ⟨filter, none, noise?⟩
      have step : before.positionStep none = stride voice.pitch := by
        rw [positionStep_none, plays.samePitch]
      rw [rendered]
      refine ⟨Instrument.unrolled_lt repeatsWithin hasNext, rfl, ?_, ?_, rfl⟩
      · exact congrArg (fraction + ·) step
      · cases noise? <;> rfl
  · next ended =>
      exact plays.render_of_end repeatsWithin sounds ended laterBank laterRam _

/-- A block that is its own loop. -/
def chimeBlock : ByteArray :=
  ⟨#[0x04, 0x07, 0x21, 0x43, 0, 0, 0, 0, 0, 0, 0, 0, 0, 0, 0, 0]⟩

/-- What the block decodes to. -/
def chime : Instrument where
  start := 0
  stop := 16
  samples := #[256, 512, 768, 1024] ++ Array.replicate 24 0
  loopStart? := some 0
  isRepeat := true

/-- The block decodes to the samples that are written out. -/
theorem decode_chimeBlock : Instrument.decode chimeBlock 0 = chime := by
  rw [Instrument.decode, Instrument.decodeFrom]
  decide +kernel

/-- At half pitch the fourth render lies half-way between samples 0 and 1. -/
theorem render_followsStream_atHalfPitch :
    let bank : SoundBank := ⟨[chime]⟩
    let again := Command.render bank chimeBlock .linear none
    let note := ({ initial with pitch := 0x0800 }.keyOn bank chimeBlock).1
    let before := note.obeyAll [again, again, again]
    let played := before.render bank chimeBlock ⟨.linear, none, none⟩
    bank.IsDecoded ∧
      before.isOff = false ∧
      played.voice.ring = ⟨0, 0, 256, 512⟩ ∧
      played.voice.position = 0x8000 + 0x8000 := by
  intro bank again note before played
  have isDecoded : bank.IsDecoded := by
    intro instrument member
    exact ⟨chimeBlock, 0, (List.mem_singleton.mp member).trans decode_chimeBlock.symm⟩
  have sounds : before.isOff = false := by decide +kernel
  obtain ⟨-, ring, position, -⟩ :=
    render_followsStream isDecoded sounds bank chimeBlock .linear none
  exact
    ⟨isDecoded, sounds, ring.trans (by decide +kernel), position.trans (by decide +kernel)⟩

end Voice

end PsxPlayer
