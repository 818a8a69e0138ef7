import PsxPlayer.Proofs.Sound.Instrument

namespace PsxPlayer

/-!
# The blocks of an instrument

An instrument is made of the whole blocks from its start on, up to the first one
with the end flag or to the last one that sound RAM holds.  Every block decodes to
28 samples that build on the ones before, and the loop point is the start of a
block.
-/

namespace SampleRun

@[simp]
theorem size_decodeByte
    (run : SampleRun)
    (shift filter : Nat)
    (byte : UInt8) :
    (run.decodeByte shift filter byte).samples.size = run.samples.size + 2 := by
  simp [decodeByte, decodeStep]

@[simp]
theorem size_decodeBlock
    (run : SampleRun)
    (bytes : ByteArray)
    (address : Nat) :
    (run.decodeBlock bytes address).1.samples.size = run.samples.size + samplesPerBlock := by
  have steps (indices : List Nat) (run : SampleRun) (shift filter : Nat) :
      (indices.foldl
          (fun run index =>
            run.decodeByte shift filter (bytes.get! (address + 2 + index))) run).samples.size =
        run.samples.size + 2 * indices.length := by
    induction indices generalizing run with
    | nil => rfl
    | cons index rest inductionHypothesis =>
        rw [List.foldl_cons, inductionHypothesis, size_decodeByte, List.length_cons]
        omega
  exact (steps (List.range 14) run _ _).trans (by rw [List.length_range]; rfl)

end SampleRun

namespace Instrument

/-- So many blocks from `start` on, decoded one after the other. -/
def decodedThrough (ram : ByteArray) (start : Nat) : Nat → SampleRun
  | 0 => .empty
  | blocks + 1 =>
      ((decodedThrough ram start blocks).decodeBlock ram (start + blocks * blockSize)).1

@[simp]
theorem size_decodedThrough
    (ram : ByteArray)
    (start blocks : Nat) :
    (decodedThrough ram start blocks).samples.size = blocks * samplesPerBlock := by
  induction blocks with
  | zero => rfl
  | succ blocks inductionHypothesis =>
      rw [decodedThrough, SampleRun.size_decodeBlock, inductionHypothesis, Nat.add_one_mul]

/-- The flags of a block, counted from the one at `start`. -/
def flagsAt (ram : ByteArray) (start index : Nat) : BlockFlags :=
  .ofByte (ram.get! (start + index * blockSize + 1))

/-- The last of so many blocks has the end flag. -/
def EndsFlagged (ram : ByteArray) (start blocks : Nat) : Prop :=
  ∃ last, blocks = last + 1 ∧ (flagsAt ram start last).isEnd = true

/-- The block is the last of so many that is flagged as loop point. -/
structure IsLoopPoint (ram : ByteArray) (start blocks index : Nat) : Prop where
  below : index < blocks
  flagged : (flagsAt ram start index).isLoopStart = true
  isLast :
    ∀ later,
      index < later →
      later < blocks →
      (flagsAt ram start later).isLoopStart = false

/-- A block with the loop flag is the loop point of the blocks up to it. -/
theorem isLoopPoint_succ_of_flagged
    {ram : ByteArray}
    {start blocks index : Nat}
    (flagged : (flagsAt ram start blocks).isLoopStart = true) :
    IsLoopPoint ram start (blocks + 1) index ↔ index = blocks := by
  constructor
  · rintro ⟨below, -, isLast⟩
    rcases Nat.lt_succ_iff_lt_or_eq.mp below with earlier | same
    · have unflagged := isLast blocks earlier (Nat.lt_succ_self blocks)
      rw [flagged] at unflagged
      cases unflagged
    · exact same
  · rintro rfl
    exact ⟨Nat.lt_succ_self _, flagged, fun later above below => by omega⟩

/-- A block without it leaves the loop point where it is. -/
theorem isLoopPoint_succ_of_not_flagged
    {ram : ByteArray}
    {start blocks index : Nat}
    (unflagged : (flagsAt ram start blocks).isLoopStart = false) :
    IsLoopPoint ram start (blocks + 1) index ↔ IsLoopPoint ram start blocks index := by
  constructor
  · rintro ⟨below, flagged, isLast⟩
    have differs : index ≠ blocks := by
      rintro rfl
      rw [unflagged] at flagged
      cases flagged
    exact ⟨by omega, flagged, fun later above inside => isLast later above (by omega)⟩
  · rintro ⟨below, flagged, isLast⟩
    refine ⟨by omega, flagged, ?_⟩
    intro later above inside
    rcases Nat.lt_succ_iff_lt_or_eq.mp inside with earlier | rfl
    · exact isLast later above earlier
    · exact unflagged

/-- Decoding has taken in so many blocks from `start` on. -/
structure Taken
    (ram : ByteArray)
    (start blocks : Nat)
    (run : SampleRun)
    (loopStart? : Option Nat) :
    Prop where
  decoded : run = decodedThrough ram start blocks
  inside : ∀ index, index < blocks → start + (index + 1) * blockSize ≤ ram.size
  loops :
    ∀ offset,
      loopStart? = some offset ↔
        ∃ index, IsLoopPoint ram start blocks index ∧ offset = index * samplesPerBlock

/-- At first no block has been taken in. -/
theorem taken_zero
    (ram : ByteArray)
    (start : Nat) :
    Taken ram start 0 .empty none where
  decoded := rfl
  inside := fun index below => absurd below (Nat.not_lt_zero index)
  loops := by
    intro offset
    constructor
    · rintro ⟨⟩
    · rintro ⟨index, loopPoint, -⟩
      exact absurd loopPoint.below (Nat.not_lt_zero index)

/-- Decoding a block adds it to the ones decoded before. -/
theorem Taken.decodeBlock
    {ram : ByteArray}
    {start blocks : Nat}
    {run : SampleRun}
    {loopStart? : Option Nat}
    (taken : Taken ram start blocks run loopStart?)
    (room : start + blocks * blockSize + blockSize ≤ ram.size) :
    Taken ram start (blocks + 1)
      (run.decodeBlock ram (start + blocks * blockSize)).1
      (if (flagsAt ram start blocks).isLoopStart then
        some (sampleIndex start (start + blocks * blockSize)) else loopStart?) where
  decoded := by
    rw [taken.decoded]
    rfl
  inside := by
    intro index below
    rcases Nat.lt_succ_iff_lt_or_eq.mp below with earlier | rfl
    · exact taken.inside index earlier
    · rwa [Nat.add_one_mul, ← Nat.add_assoc]
  loops := by
    intro offset
    have place : sampleIndex start (start + blocks * blockSize) = blocks * samplesPerBlock := by
      rw [sampleIndex, Nat.add_sub_cancel_left, Nat.mul_div_cancel blocks (by decide)]
    split
    · next flagged =>
        simp only [isLoopPoint_succ_of_flagged flagged, exists_eq_left, place,
          Option.some.injEq]
        exact eq_comm
    · next unflagged =>
        simp only [isLoopPoint_succ_of_not_flagged (Bool.not_eq_true _ ▸ unflagged)]
        exact taken.loops offset

/-- An instrument made of whole blocks of sound RAM, the first ones from its start on. -/
structure IsMadeFrom (instrument : Instrument) (ram : ByteArray) : Prop where
  stop : instrument.stop = instrument.start + instrument.blocks * blockSize
  size : instrument.samples.size = instrument.blocks * samplesPerBlock
  samples :
    instrument.samples = (decodedThrough ram instrument.start instrument.blocks).samples
  /-- Every block is a whole one. -/
  inside :
    ∀ index,
      index < instrument.blocks →
      instrument.start + (index + 1) * blockSize ≤ ram.size
  /-- No block but the last has the end flag. -/
  goesOn :
    ∀ index,
      index + 1 < instrument.blocks →
      (flagsAt ram instrument.start index).isEnd = false
  /-- The last one has it, or no whole block is left. -/
  stops :
    EndsFlagged ram instrument.start instrument.blocks ∨
      ram.size < instrument.stop + blockSize
  /-- The loop point is the last block that is flagged as one. -/
  loops :
    ∀ offset,
      instrument.loopStart? = some offset ↔
        ∃ index,
          IsLoopPoint ram instrument.start instrument.blocks index ∧
            offset = index * samplesPerBlock
  /-- Only a last block with the end flag can ask to repeat. -/
  repeats :
    instrument.isRepeat = true ↔
      ∃ last,
        instrument.blocks = last + 1 ∧
          (flagsAt ram instrument.start last).isEnd = true ∧
          (flagsAt ram instrument.start last).isRepeat = true

/-- The blocks decoded so far make an instrument, if decoding stops with the last of them. -/
theorem Taken.isMadeFrom
    {ram : ByteArray}
    {start blocks : Nat}
    {run : SampleRun}
    {loopStart? : Option Nat}
    {isRepeat : Bool}
    (taken : Taken ram start blocks run loopStart?)
    (goesOn : ∀ index, index + 1 < blocks → (flagsAt ram start index).isEnd = false)
    (stops :
      EndsFlagged ram start blocks ∨ ram.size < start + blocks * blockSize + blockSize)
    (repeats :
      isRepeat = true ↔
        ∃ last,
          blocks = last + 1 ∧
            (flagsAt ram start last).isEnd = true ∧
            (flagsAt ram start last).isRepeat = true) :
    IsMadeFrom ⟨start, start + blocks * blockSize, run.samples, loopStart?, isRepeat⟩ ram := by
  have counted :
      Instrument.blocks
          ⟨start, start + blocks * blockSize, run.samples, loopStart?, isRepeat⟩ =
        blocks := by
    rw [Instrument.blocks, taken.decoded, size_decodedThrough,
      Nat.mul_div_cancel blocks (by decide)]
  constructor
  case stop => rw [counted]
  case size => rw [counted, taken.decoded, size_decodedThrough]
  case samples => rw [counted, taken.decoded]
  case inside => rw [counted]; exact taken.inside
  case goesOn => rw [counted]; exact goesOn
  case stops => rw [counted]; exact stops
  case loops => rw [counted]; exact taken.loops
  case repeats => rw [counted]; exact repeats

/-- Decoding has come to `address` without a block that has the end flag. -/
def GoesOn
    (ram : ByteArray)
    (start address : Nat)
    (run : SampleRun)
    (loopStart? : Option Nat) :
    Prop :=
  ∃ blocks,
    address = start + blocks * blockSize ∧
      Taken ram start blocks run loopStart? ∧
      ∀ index, index < blocks → (flagsAt ram start index).isEnd = false

/-- Decoding goes on to an instrument made of blocks. -/
theorem GoesOn.isMadeFrom_decodeFrom
    {ram : ByteArray}
    {start address : Nat}
    {run : SampleRun}
    {loopStart? : Option Nat}
    (goesOn : GoesOn ram start address run loopStart?) :
    (decodeFrom ram start address run loopStart?).IsMadeFrom ram := by
  fun_induction decodeFrom ram start address run loopStart? with
  | case1 address run loopStart? room next flags block loop isEnd =>
      -- The block with the end flag still counts, for its samples and as a loop point.
      obtain ⟨blocks, rfl, taken, unended⟩ := goesOn
      have longer := taken.decodeBlock room
      have read : flagsAt ram start blocks = flags := congrArg Prod.snd block
      rw [block, read] at longer
      rw [Nat.add_assoc, ← Nat.add_one_mul]
      refine longer.isMadeFrom ?_ (.inl ⟨blocks, rfl, read ▸ isEnd⟩) ?_
      · intro index below
        exact unended index (Nat.lt_of_succ_lt_succ below)
      · constructor
        · intro repeats
          exact ⟨blocks, rfl, read ▸ isEnd, read ▸ repeats⟩
        · rintro ⟨last, same, -, repeats⟩
          cases same
          rwa [read] at repeats
  | case2 address run loopStart? room next flags block loop notEnd
      inductionHypothesis =>
      obtain ⟨blocks, rfl, taken, unended⟩ := goesOn
      have longer := taken.decodeBlock room
      have read : flagsAt ram start blocks = flags := congrArg Prod.snd block
      rw [block, read] at longer
      refine inductionHypothesis ⟨blocks + 1, ?_, longer, ?_⟩
      · rw [Nat.add_assoc, ← Nat.add_one_mul]
      · intro index below
        rcases Nat.lt_succ_iff_lt_or_eq.mp below with earlier | rfl
        · exact unended index earlier
        · rw [read]
          exact Bool.not_eq_true _ ▸ notEnd
  | case3 address run loopStart? noRoom =>
      obtain ⟨blocks, rfl, taken, unended⟩ := goesOn
      refine taken.isMadeFrom ?_ (.inr (Nat.lt_of_not_le noRoom)) ?_
      · intro index below
        exact unended index (Nat.lt_of_succ_lt below)
      · constructor
        · intro repeats
          cases repeats
        · rintro ⟨last, rfl, isEnd, -⟩
          rw [unended last (Nat.lt_succ_self last)] at isEnd
          cases isEnd

/-- Whatever sound RAM holds, an instrument is made of whole blocks of it. -/
theorem isMadeFrom_decode
    (ram : ByteArray)
    (address : Nat) :
    (decode ram address).IsMadeFrom ram := by
  have goesOn : GoesOn ram (blockStart address) (blockStart address) .empty none := by
    refine ⟨0, ?_, taken_zero ram (blockStart address), ?_⟩
    · rw [Nat.zero_mul, Nat.add_zero]
    · intro index below
      exact absurd below (Nat.not_lt_zero index)
  exact goesOn.isMadeFrom_decodeFrom

/-- Playback goes on where one of the blocks starts. -/
theorem IsMadeFrom.loopOffset_eq
    {instrument : Instrument}
    {ram : ByteArray}
    (isMadeFrom : instrument.IsMadeFrom ram) :
    ∃ index,
      instrument.loopOffset = index * samplesPerBlock ∧
        (0 < instrument.blocks → index < instrument.blocks) := by
  cases found : instrument.loopStart? with
  | none =>
      refine ⟨0, ?_, id⟩
      rw [loopOffset, found, Nat.zero_mul]
      rfl
  | some offset =>
      obtain ⟨index, loopPoint, place⟩ := (isMadeFrom.loops offset).mp found
      refine ⟨index, ?_, fun _ => loopPoint.below⟩
      rw [loopOffset, found]
      exact place

/-- There is something to play as soon as there is a block. -/
theorem IsMadeFrom.nonempty_iff
    {instrument : Instrument}
    {ram : ByteArray}
    (isMadeFrom : instrument.IsMadeFrom ram) :
    0 < instrument.samples.size ↔ 0 < instrument.blocks := by
  rw [isMadeFrom.size]
  exact Nat.mul_pos_iff_of_pos_right (by decide)

/-- Where a whole block fits, there is one. -/
theorem IsMadeFrom.nonempty
    {instrument : Instrument}
    {ram : ByteArray}
    (isMadeFrom : instrument.IsMadeFrom ram)
    (room : instrument.start + blockSize ≤ ram.size) :
    0 < instrument.samples.size := by
  rw [isMadeFrom.nonempty_iff]
  rcases isMadeFrom.stops with ⟨last, count, -⟩ | noRoom
  · rw [count]
    exact Nat.succ_pos last
  · rw [isMadeFrom.stop] at noRoom
    refine Nat.pos_of_ne_zero fun noBlock => ?_
    rw [noBlock, Nat.zero_mul] at noRoom
    omega

/-- Playback goes on at one of the samples, if there are any. -/
theorem IsMadeFrom.loopOffset_lt
    {instrument : Instrument}
    {ram : ByteArray}
    (isMadeFrom : instrument.IsMadeFrom ram)
    (nonempty : 0 < instrument.samples.size) :
    instrument.loopOffset < instrument.samples.size := by
  obtain ⟨index, place, below⟩ := isMadeFrom.loopOffset_eq
  rw [isMadeFrom.nonempty_iff] at nonempty
  rw [isMadeFrom.size, place]
  exact Nat.mul_lt_mul_of_pos_right (below nonempty) (by decide)

/-- An instrument that repeats has a block with the end flag. -/
theorem IsMadeFrom.endsFlagged
    {instrument : Instrument}
    {ram : ByteArray}
    (isMadeFrom : instrument.IsMadeFrom ram)
    (repeats : instrument.isRepeat = true) :
    EndsFlagged ram instrument.start instrument.blocks := by
  obtain ⟨last, count, isEnd, -⟩ := isMadeFrom.repeats.mp repeats
  exact ⟨last, count, isEnd⟩

/-- The start of an instrument is its address rounded down to a block. -/
theorem blockStart_eq_sub_mod (address : Nat) :
    blockStart address = address - address % blockSize := by
  unfold blockStart blockSize
  omega

end Instrument

end PsxPlayer
