import PsxPlayer.Sound.Instrument

namespace PsxPlayer

/-!
# What an instrument is decoded from

An instrument depends on the bytes of its own blocks and on nothing else in
sound RAM.  A bank is coherent when every instrument in it is what sound RAM
still decodes to; fetching keeps a bank coherent, and so does a store after
which the instruments that it touches are forgotten.
-/

namespace SampleRun

/-- A block decodes from its own bytes alone. -/
theorem decodeBlock_congr
    {first second : ByteArray}
    {address : Nat}
    (run : SampleRun)
    (same :
      ∀ index,
        address ≤ index →
        index < address + blockSize →
        first.get! index = second.get! index) :
    run.decodeBlock first address = run.decodeBlock second address := by
  have steps :
      (List.range 14).map (fun index => first.get! (address + 2 + index)) =
        (List.range 14).map (fun index => second.get! (address + 2 + index)) := by
    apply List.map_congr_left
    intro index member
    have below : index < 14 := List.mem_range.mp member
    exact same _ (by omega) (by unfold blockSize; omega)
  have header : first.get! address = second.get! address :=
    same _ (by omega) (by unfold blockSize; omega)
  have flags : first.get! (address + 1) = second.get! (address + 1) :=
    same _ (by omega) (by unfold blockSize; omega)
  have decoded (bytes : ByteArray) :
      run.decodeBlock bytes address =
        (((List.range 14).map fun index => bytes.get! (address + 2 + index)).foldl
            (decodeByte (blockShift (bytes.get! address).toNat)
              (blockFilter (bytes.get! address).toNat))
            run,
          .ofByte (bytes.get! (address + 1))) := by
    rw [List.foldl_map]
    rfl
  rw [decoded, decoded, steps, header, flags]

end SampleRun

namespace Instrument

/-- Decoding never stops before the block it starts with. -/
theorem le_stop_decodeFrom
    (ram : ByteArray)
    (start address : Nat)
    (run : SampleRun)
    (loopStart? : Option Nat) :
    address ≤ (decodeFrom ram start address run loopStart?).stop := by
  fun_induction decodeFrom ram start address run loopStart? with
  | case1 => simp
  | case2 address run loopStart? room next flags decoded loop notEnd
      inductionHypothesis =>
      exact Nat.le_trans (Nat.le_add_right _ _) inductionHypothesis
  | case3 => simp

/-- Decoding stops inside sound RAM, if it starts there. -/
theorem stop_decodeFrom_le
    {ram : ByteArray}
    {address : Nat}
    (start : Nat)
    (run : SampleRun)
    (loopStart? : Option Nat)
    (inside : address ≤ ram.size) :
    (decodeFrom ram start address run loopStart?).stop ≤ ram.size := by
  fun_induction decodeFrom ram start address run loopStart? with
  | case1 address run loopStart? room => exact room
  | case2 address run loopStart? room next flags decoded loop notEnd
      inductionHypothesis =>
      exact inductionHypothesis room
  | case3 => exact inside

/-- Decoding goes at least over the first whole block. -/
theorem add_blockSize_le_stop_decodeFrom
    {ram : ByteArray}
    {address : Nat}
    (start : Nat)
    (run : SampleRun)
    (loopStart? : Option Nat)
    (room : address + blockSize ≤ ram.size) :
    address + blockSize ≤ (decodeFrom ram start address run loopStart?).stop := by
  rw [decodeFrom]
  simp only [room, ↓reduceIte]
  split
  · exact Nat.le_refl _
  · exact le_stop_decodeFrom _ _ _ _ _

/-- The flags of a block are in its second byte. -/
@[simp]
theorem decodeBlock_flags
    (run : SampleRun)
    (ram : ByteArray)
    (address : Nat) :
    (run.decodeBlock ram address).2 = .ofByte (ram.get! (address + 1)) :=
  rfl

/-- A block with the end flag is the last one. -/
theorem stop_decodeFrom_of_isEnd
    {ram : ByteArray}
    {address : Nat}
    (start : Nat)
    (run : SampleRun)
    (loopStart? : Option Nat)
    (room : address + blockSize ≤ ram.size)
    (isEnd : (BlockFlags.ofByte (ram.get! (address + 1))).isEnd = true) :
    (decodeFrom ram start address run loopStart?).stop = address + blockSize := by
  rw [decodeFrom]
  simp [room, isEnd]

/-- A block without the end flag is followed by the next whole block. -/
theorem lt_stop_decodeFrom_of_not_isEnd
    {ram : ByteArray}
    {address : Nat}
    (start : Nat)
    (run : SampleRun)
    (loopStart? : Option Nat)
    (room : address + 2 * blockSize ≤ ram.size)
    (notEnd : (BlockFlags.ofByte (ram.get! (address + 1))).isEnd = false) :
    address + blockSize < (decodeFrom ram start address run loopStart?).stop := by
  have first : address + blockSize ≤ ram.size := by
    unfold blockSize at *
    omega
  have second : address + blockSize + blockSize ≤ ram.size := by omega
  have later := fun run loop =>
    add_blockSize_le_stop_decodeFrom start run loop second
  rw [decodeFrom]
  simp only [first, ↓reduceIte, decodeBlock_flags, notEnd, Bool.false_eq_true]
  refine Nat.lt_of_lt_of_le ?_ (later _ _)
  unfold blockSize
  omega

@[simp]
theorem start_decodeFrom
    (ram : ByteArray)
    (start address : Nat)
    (run : SampleRun)
    (loopStart? : Option Nat) :
    (decodeFrom ram start address run loopStart?).start = start := by
  fun_induction decodeFrom ram start address run loopStart? with
  | case1 => rfl
  | case2 => assumption
  | case3 => rfl

/-- Blocks decode from the bytes up to where they stop, and from no others. -/
theorem decodeFrom_congr
    {first second : ByteArray}
    (start address : Nat)
    (run : SampleRun)
    (loopStart? : Option Nat)
    (sameSize : first.size = second.size)
    (same :
      ∀ index,
        address ≤ index →
        index < (decodeFrom first start address run loopStart?).stop →
        first.get! index = second.get! index) :
    decodeFrom first start address run loopStart? =
      decodeFrom second start address run loopStart? := by
  fun_induction decodeFrom first start address run loopStart? with
  | case1 address run loopStart? room next flags decoded loop isEnd =>
      rw [SampleRun.decodeBlock_congr run same] at decoded
      rw [sameSize] at room
      rw [decodeFrom.eq_def second]
      simp [room, decoded, isEnd, loop]
  | case2 address run loopStart? room next flags decoded loop notEnd
      inductionHypothesis =>
      have reaches :=
        le_stop_decodeFrom first start (address + blockSize) next loop
      rw [SampleRun.decodeBlock_congr run
        fun index low high => same index low (by omega)] at decoded
      rw [sameSize] at room
      rw [decodeFrom.eq_def second]
      simp only [room, ↓reduceIte, decoded, notEnd]
      exact inductionHypothesis
        fun index low high => same index (by omega) high
  | case3 address run loopStart? noRoom =>
      rw [sameSize] at noRoom
      rw [decodeFrom.eq_def second]
      simp [noRoom]

/-- An instrument of one block decodes from it, however much sound RAM is behind it. -/
theorem decode_eq_of_isEnd
    {first second : ByteArray}
    {address : Nat}
    (firstRoom : blockStart address + blockSize ≤ first.size)
    (secondRoom : blockStart address + blockSize ≤ second.size)
    (same :
      ∀ index,
        blockStart address ≤ index →
        index < blockStart address + blockSize →
        first.get! index = second.get! index)
    (isEnd : (BlockFlags.ofByte (second.get! (blockStart address + 1))).isEnd = true) :
    decode first address = decode second address := by
  unfold decode
  simp only
  rw [decodeFrom.eq_def first, decodeFrom.eq_def second, if_pos firstRoom, if_pos secondRoom,
    SampleRun.decodeBlock_congr _ same]
  simp only [decodeBlock_flags, isEnd, ↓reduceIte]

/-- The start of a decoded instrument is the start of a block. -/
@[simp]
theorem start_decode
    (ram : ByteArray)
    (address : Nat) :
    (decode ram address).start = blockStart address := by
  simp [decode]

@[simp]
theorem blockStart_blockStart (address : Nat) :
    blockStart (blockStart address) = blockStart address := by
  unfold blockStart blockSize
  omega

/-- An instrument decodes the same from any address of its first block. -/
@[simp]
theorem decode_blockStart
    (ram : ByteArray)
    (address : Nat) :
    decode ram (blockStart address) = decode ram address := by
  simp [decode]

/-- An instrument decodes from the bytes of its own blocks alone. -/
theorem decode_congr
    {first second : ByteArray}
    {address : Nat}
    (sameSize : first.size = second.size)
    (same :
      ∀ index,
        (decode first address).start ≤ index →
        index < (decode first address).stop →
        first.get! index = second.get! index) :
    decode first address = decode second address := by
  apply decodeFrom_congr _ _ _ _ sameSize
  intro index low high
  exact same index (by simpa using low) high

end Instrument

namespace SoundBank

/-- Every instrument in the bank is what sound RAM decodes to at its start. -/
def Coherent
    (bank : SoundBank)
    (ram : ByteArray) :
    Prop :=
  ∀ instrument,
    instrument ∈ bank.instruments →
    Instrument.decode ram instrument.start = instrument

/-- A later bank that an earlier one has become by fetching instruments. -/
inductive Fetched (ram : ByteArray) : SoundBank → SoundBank → Prop where
  | none (bank : SoundBank) : Fetched ram bank bank
  | fetch
      {bank later : SoundBank}
      (address : Nat)
      (rest : Fetched ram (bank.fetch ram address).2 later) :
      Fetched ram bank later

/-- An instrument found in a bank is in it and has the start asked for. -/
theorem mem_and_start_of_find?
    {bank : SoundBank}
    {start : Nat}
    {instrument : Instrument}
    (found : bank.find? start = some instrument) :
    instrument ∈ bank.instruments ∧ instrument.start = start := by
  refine ⟨List.mem_of_find?_eq_some found, ?_⟩
  have matching := List.find?_some found
  simpa using matching

theorem coherent_empty (ram : ByteArray) :
    SoundBank.empty.Coherent ram := by
  intro instrument member
  simp [SoundBank.empty] at member

namespace Coherent

/-- A coherent bank gives out what sound RAM decodes to. -/
theorem fetch_eq_decode
    {bank : SoundBank}
    {ram : ByteArray}
    (coherent : bank.Coherent ram)
    (address : Nat) :
    (bank.fetch ram address).1 = Instrument.decode ram address := by
  unfold fetch
  split
  · next instrument found =>
      obtain ⟨member, startSame⟩ := mem_and_start_of_find? found
      rw [← coherent instrument member, startSame]
      simp
  · rfl

/-- Fetching keeps a bank coherent. -/
theorem fetch
    {bank : SoundBank}
    {ram : ByteArray}
    (coherent : bank.Coherent ram)
    (address : Nat) :
    (bank.fetch ram address).2.Coherent ram := by
  unfold SoundBank.fetch
  split
  · exact coherent
  · intro instrument member
    rcases List.mem_cons.mp member with isNew | inBank
    · subst instrument
      simp
    · exact coherent instrument inBank

/-- Any number of fetches keeps a bank coherent. -/
theorem fetched
    {bank later : SoundBank}
    {ram : ByteArray}
    (coherent : bank.Coherent ram)
    (fetched : Fetched ram bank later) :
    later.Coherent ram := by
  induction fetched with
  | none => exact coherent
  | fetch address rest inductionHypothesis =>
      exact inductionHypothesis (coherent.fetch address)

/-- A store keeps a bank coherent that forgets the instruments it touches. -/
theorem invalidate
    {bank : SoundBank}
    {before after : ByteArray}
    {first last : Nat}
    (coherent : bank.Coherent before)
    (sameSize : before.size = after.size)
    (same :
      ∀ index,
        index < first ∨ last ≤ index →
        before.get! index = after.get! index) :
    (bank.invalidate first last).Coherent after := by
  intro instrument member
  obtain ⟨inBank, outside⟩ := List.mem_filter.mp member
  have decoded := coherent instrument inBank
  rw [← Instrument.decode_congr sameSize, decoded]
  intro index low high
  rw [decoded] at low high
  simp only [Instrument.isOutside, Bool.or_eq_true, decide_eq_true_eq] at outside
  exact same index (by omega)

end Coherent

namespace Fetched

theorem trans
    {bank middle later : SoundBank}
    {ram : ByteArray}
    (first : Fetched ram bank middle)
    (second : Fetched ram middle later) :
    Fetched ram bank later := by
  induction first with
  | none => exact second
  | fetch address rest inductionHypothesis =>
      exact .fetch address (inductionHypothesis second)

/-- Fetching forgets no instrument. -/
theorem mem
    {bank later : SoundBank}
    {ram : ByteArray}
    {instrument : Instrument}
    (fetched : Fetched ram bank later)
    (member : instrument ∈ bank.instruments) :
    instrument ∈ later.instruments := by
  induction fetched with
  | none => exact member
  | fetch address rest inductionHypothesis =>
      apply inductionHypothesis
      unfold SoundBank.fetch
      split
      · exact member
      · exact List.mem_cons_of_mem _ member

end Fetched

end SoundBank

end PsxPlayer
