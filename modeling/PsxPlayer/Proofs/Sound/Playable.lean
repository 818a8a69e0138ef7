import PsxPlayer.Proofs.Sound.Interpolation
import PsxPlayer.Proofs.Sound.Span

namespace PsxPlayer

/-!
# Playable instruments

Every sample of a block is limited to 16 bits.  So an instrument that starts at
least one block before the end of sound RAM is not empty, holds nothing but samples
and goes on at one of its own, whatever the bytes are.
-/

namespace SampleHistory

/-- Both samples of the history are samples. -/
structure InRange (history : SampleHistory) : Prop where
  latest : IsSample history.latest
  previous : IsSample history.previous

end SampleHistory

namespace SampleRun

/-- Everything decoded so far is a sample. -/
structure InRange (run : SampleRun) : Prop where
  history : run.history.InRange
  samples : ∀ sample, sample ∈ run.samples → IsSample sample

theorem inRange_empty : empty.InRange where
  history := ⟨isSample_zero, isSample_zero⟩
  samples := by
    intro sample member
    simp [empty] at member

theorem InRange.decodeStep
    {run : SampleRun}
    (inRange : run.InRange)
    (shift filter nibble : Nat) :
    (run.decodeStep shift filter nibble).InRange := by
  have limited (value : Int) : IsSample (max (-32768) (min value 32767)) :=
    isSample_clamp16 value
  refine ⟨⟨limited _, inRange.history.latest⟩, ?_⟩
  intro sample member
  rcases Array.mem_push.mp member with earlier | new
  · exact inRange.samples sample earlier
  · exact new ▸ limited _

theorem InRange.decodeByte
    {run : SampleRun}
    (inRange : run.InRange)
    (shift filter : Nat)
    (byte : UInt8) :
    (run.decodeByte shift filter byte).InRange :=
  (inRange.decodeStep shift filter _).decodeStep shift filter _

theorem InRange.decodeBlock
    {run : SampleRun}
    (inRange : run.InRange)
    (bytes : ByteArray)
    (address : Nat) :
    (run.decodeBlock bytes address).1.InRange := by
  unfold SampleRun.decodeBlock
  generalize List.range 14 = indices
  induction indices generalizing run with
  | nil => exact inRange
  | cons index rest inductionHypothesis =>
      exact inductionHypothesis (inRange.decodeByte _ _ _)

end SampleRun

namespace Instrument

/-- There is something to play, also when the instrument repeats. -/
structure IsPlayable (instrument : Instrument) : Prop where
  nonempty : 0 < instrument.samples.size
  loopOffset_lt : instrument.loopOffset < instrument.samples.size
  samples : ∀ sample, sample ∈ instrument.samples → IsSample sample

/-- However many blocks are decoded, they decode to samples. -/
theorem inRange_decodedThrough
    (ram : ByteArray)
    (start blocks : Nat) :
    (decodedThrough ram start blocks).InRange := by
  induction blocks with
  | zero => exact SampleRun.inRange_empty
  | succ blocks inductionHypothesis => exact inductionHypothesis.decodeBlock _ _

/-- Whatever sound RAM holds, an instrument that starts with a whole block is playable. -/
theorem isPlayable_decode
    {ram : ByteArray}
    {address : Nat}
    (room : blockStart address + blockSize ≤ ram.size) :
    (decode ram address).IsPlayable := by
  have isMadeFrom := isMadeFrom_decode ram address
  have nonempty := isMadeFrom.nonempty ((start_decode ram address).symm ▸ room)
  refine ⟨nonempty, isMadeFrom.loopOffset_lt nonempty, ?_⟩
  rw [isMadeFrom.samples]
  exact (inRange_decodedThrough ram _ _).samples

end Instrument

namespace SoundBank

/-- Every instrument in the bank is playable. -/
def IsPlayable (bank : SoundBank) : Prop :=
  ∀ instrument, instrument ∈ bank.instruments → instrument.IsPlayable

theorem isPlayable_empty : SoundBank.empty.IsPlayable := by
  intro instrument member
  simp [SoundBank.empty] at member

namespace IsPlayable

/-- Forgetting instruments leaves playable ones. -/
theorem invalidate
    {bank : SoundBank}
    (isPlayable : bank.IsPlayable)
    (first last : Nat) :
    (bank.invalidate first last).IsPlayable := by
  intro instrument member
  exact isPlayable instrument (List.mem_filter.mp member).1

theorem fetch
    {bank : SoundBank}
    {ram : ByteArray}
    {address : Nat}
    (isPlayable : bank.IsPlayable)
    (room : Instrument.blockStart address + blockSize ≤ ram.size) :
    (bank.fetch ram address).1.IsPlayable ∧ (bank.fetch ram address).2.IsPlayable := by
  unfold SoundBank.fetch
  split
  · next instrument found =>
      exact ⟨isPlayable instrument (mem_and_start_of_find? found).1, isPlayable⟩
  · have decoded := Instrument.isPlayable_decode room
    refine ⟨decoded, ?_⟩
    intro instrument member
    rcases List.mem_cons.mp member with isNew | inBank
    · exact isNew ▸ decoded
    · exact isPlayable instrument inBank

end IsPlayable

end SoundBank

end PsxPlayer
