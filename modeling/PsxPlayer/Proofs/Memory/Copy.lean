import PsxPlayer.Proofs.Memory.Mirror

namespace PsxPlayer

/-!
# Copies of runs of bytes

A block of bytes is known by its size and its bytes.  A run cut out of a block, put behind
another one or copied over one keeps its bytes, so a copy is the same as two copies, one of the
first bytes and one of the rest.
-/

/-- Blocks of one size with the same bytes are the same. -/
theorem eq_of_get!_eq
    {first second : ByteArray}
    (sameSize : first.size = second.size)
    (same : ∀ index, index < first.size → first.get! index = second.get! index) :
    first = second := by
  apply ByteArray.ext
  apply Array.ext sameSize
  intro index inFirst inSecond
  have found := same index inFirst
  rwa [get!_eq_getElem!, get!_eq_getElem!, getElem!_pos first.data index inFirst,
    getElem!_pos second.data index inSecond] at found

/-- A block behind another one keeps its bytes. -/
theorem get!_append_add
    (first second : ByteArray)
    (index : Nat) :
    (first ++ second).get! (first.size + index) = second.get! index := by
  simp only [get!_eq_getElem!, getElem!_def, ByteArray.data_append]
  have firstSize : first.data.size = first.size := rfl
  rw [Array.getElem?_append_right (by omega), firstSize, Nat.add_sub_cancel_left]

/-- A block before another one keeps its bytes. -/
theorem get!_append_of_lt
    {first : ByteArray}
    {index : Nat}
    (inside : index < first.size)
    (second : ByteArray) :
    (first ++ second).get! index = first.get! index := by
  simp only [get!_eq_getElem!, getElem!_def, ByteArray.data_append]
  rw [Array.getElem?_append_left inside]

/-- A cut-out run has the bytes of its place. -/
theorem get!_extract
    {bytes : ByteArray}
    {first length index : Nat}
    (inside : index < length) :
    (bytes.extract first (first + length)).get! index = bytes.get! (first + index) := by
  simp only [get!_eq_getElem!, getElem!_def, ByteArray.data_extract, Array.getElem?_extract]
  have dataSize : bytes.data.size = bytes.size := rfl
  by_cases inBytes : first + index < bytes.size
  · rw [if_pos (by omega)]
  · rw [if_neg (by omega), Array.getElem?_eq_none (by omega)]

/-- A copied run puts its bytes where it goes. -/
theorem get!_copySlice_of_inside
    {source target : ByteArray}
    {first offset length lane : Nat}
    (inSource : first + length ≤ source.size)
    (inTarget : offset + length ≤ target.size)
    (inside : lane < length) :
    (source.copySlice first target offset length).get! (offset + lane) =
      source.get! (first + lane) := by
  have sourceSize : source.data.size = source.size := rfl
  have targetSize : target.data.size = target.size := rfl
  simp only [get!_eq_getElem!, ByteArray.copySlice, getElem!_def,
    Array.getElem?_append, Array.getElem?_extract]
  simp only [Array.size_append, Array.size_extract, sourceSize, targetSize, Nat.sub_zero]
  rw [if_pos (by omega), if_neg (by omega), if_pos (by omega)]
  congr 2
  omega

/-- Only the bytes of a copied run count. -/
theorem copySlice_congr
    {source other target : ByteArray}
    {first otherFirst offset length : Nat}
    (inSource : first + length ≤ source.size)
    (inOther : otherFirst + length ≤ other.size)
    (inTarget : offset + length ≤ target.size)
    (same : ∀ lane, lane < length → source.get! (first + lane) = other.get! (otherFirst + lane)) :
    source.copySlice first target offset length =
      other.copySlice otherFirst target offset length := by
  apply eq_of_get!_eq
  · rw [size_copySlice inSource inTarget, size_copySlice inOther inTarget]
  · intro index _
    by_cases outside : index < offset ∨ offset + length ≤ index
    · rw [get!_copySlice_of_outside inSource inTarget outside,
        get!_copySlice_of_outside inOther inTarget outside]
    · obtain ⟨lane, rfl⟩ := Nat.exists_eq_add_of_le (show offset ≤ index by omega)
      rw [get!_copySlice_of_inside inSource inTarget (by omega),
        get!_copySlice_of_inside inOther inTarget (by omega), same lane (by omega)]

theorem copySlice_zero
    {source target : ByteArray}
    {first offset : Nat}
    (inSource : first ≤ source.size)
    (inTarget : offset ≤ target.size) :
    source.copySlice first target offset 0 = target :=
  eq_of_get!_eq (size_copySlice inSource inTarget) fun index _ =>
    get!_copySlice_of_outside inSource inTarget (Nat.lt_or_ge index offset)

/-- A cut-out run is copied as it lies in the block. -/
theorem overwrite_extract
    {data target : ByteArray}
    {first length offset : Nat}
    (inData : first + length ≤ data.size)
    (inTarget : offset + length ≤ target.size) :
    overwrite target offset (data.extract first (first + length)) =
      data.copySlice first target offset length := by
  have size : (data.extract first (first + length)).size = length := by
    rw [ByteArray.size_extract]
    omega
  rw [overwrite, size]
  refine copySlice_congr (by omega) inData inTarget fun lane inside => ?_
  rw [Nat.zero_add, get!_extract inside]

/--
What a block has become when bytes have gone into it one after the other, from `source` into
the places that `place` gives.
-/
structure Copied
    (length : Nat)
    (place : Nat → Nat)
    (source : Nat → UInt8)
    (before after : ByteArray) :
    Prop where
  sameSize : after.size = before.size
  /-- A byte is found in its place if no later one came there. -/
  stored :
    ∀ index,
      index < length →
      (∀ later, index < later → later < length → place later ≠ place index) →
      after.get! (place index) = source index
  /-- A place that no byte came to keeps its own. -/
  kept :
    ∀ other,
      (∀ index, index < length → place index ≠ other) →
      after.get! other = before.get! other

namespace Copied

variable {length rest : Nat} {place : Nat → Nat} {source : Nat → UInt8}
  {before between after : ByteArray}

theorem nothing : Copied 0 place source before before where
  sameSize := rfl
  stored index inside := absurd inside (Nat.not_lt_zero index)
  kept _ _ := rfl

/-- Bytes that go in after others are all of them, one after the other. -/
theorem append
    (first : Copied length place source before between)
    (second :
      Copied rest (fun index => place (length + index)) (fun index => source (length + index))
        between after) :
    Copied (length + rest) place source before after where
  sameSize := second.sameSize.trans first.sameSize
  stored index inside isLast := by
    by_cases isLater : length ≤ index
    · obtain ⟨later, rfl⟩ := Nat.exists_eq_add_of_le isLater
      exact second.stored later (by omega) fun other after inRest =>
        isLast (length + other) (by omega) (by omega)
    · rw [second.kept (place index) fun later inRest =>
        isLast (length + later) (by omega) (by omega)]
      exact first.stored index (by omega) fun later after inside =>
        isLast later after (by omega)
  kept other notHit := by
    rw [second.kept other fun index inRest => notHit (length + index) (by omega),
      first.kept other fun index inFirst => notHit index (by omega)]

/-- Only the places and the bytes of the run itself count. -/
theorem congr
    {otherPlace : Nat → Nat}
    {otherSource : Nat → UInt8}
    (copied : Copied length place source before after)
    (samePlace : ∀ index, index < length → otherPlace index = place index)
    (sameSource : ∀ index, index < length → otherSource index = source index) :
    Copied length otherPlace otherSource before after where
  sameSize := copied.sameSize
  stored index inside isLast := by
    rw [samePlace index inside, sameSource index inside]
    refine copied.stored index inside fun later after inRun => ?_
    rw [← samePlace later inRun, ← samePlace index inside]
    exact isLast later after inRun
  kept other notHit :=
    copied.kept other fun index inside => samePlace index inside ▸ notHit index inside

end Copied

section

variable {source target : ByteArray} {first offset : Nat}

/-- A copied run goes in byte by byte. -/
theorem copied_copySlice
    {length : Nat}
    (inSource : first + length ≤ source.size)
    (inTarget : offset + length ≤ target.size) :
    Copied length (fun index => offset + index) (fun index => source.get! (first + index)) target
      (source.copySlice first target offset length) where
  sameSize := size_copySlice inSource inTarget
  stored _ inside _ := get!_copySlice_of_inside inSource inTarget inside
  kept other notHit := by
    refine get!_copySlice_of_outside inSource inTarget ?_
    by_contra inside
    exact notHit (other - offset) (by omega) (by omega)

/-- A run may be copied in two parts. -/
theorem copySlice_copySlice
    {length rest : Nat}
    (inSource : first + (length + rest) ≤ source.size)
    (inTarget : offset + (length + rest) ≤ target.size) :
    source.copySlice (first + length) (source.copySlice first target offset length)
        (offset + length) rest =
      source.copySlice first target offset (length + rest) := by
  have partInSource : first + length ≤ source.size := by omega
  have partInTarget : offset + length ≤ target.size := by omega
  have partSize := size_copySlice partInSource partInTarget
  have restInSource : first + length + rest ≤ source.size := by omega
  have restInTarget :
      offset + length + rest ≤ (source.copySlice first target offset length).size := by
    omega
  apply eq_of_get!_eq
  · rw [size_copySlice restInSource restInTarget, partSize, size_copySlice inSource inTarget]
  · intro index _
    by_cases outside : index < offset ∨ offset + (length + rest) ≤ index
    · rw [get!_copySlice_of_outside restInSource restInTarget (by omega),
        get!_copySlice_of_outside (by omega) (by omega) (by omega),
        get!_copySlice_of_outside inSource inTarget outside]
    · obtain ⟨lane, rfl⟩ := Nat.exists_eq_add_of_le (show offset ≤ index by omega)
      rw [get!_copySlice_of_inside inSource inTarget (by omega)]
      by_cases inPart : lane < length
      · rw [get!_copySlice_of_outside restInSource restInTarget (by omega),
          get!_copySlice_of_inside (by omega) (by omega) inPart]
      · obtain ⟨later, rfl⟩ := Nat.exists_eq_add_of_le (Nat.not_lt.mp inPart)
        rw [← Nat.add_assoc, ← Nat.add_assoc,
          get!_copySlice_of_inside restInSource restInTarget (by omega)]

/-- The bytes of a halfword. -/
theorem laneByte_getLittle_half
    (bytes : ByteArray)
    (offset : Nat)
    {lane : Nat}
    (inHalf : lane < 2) :
    laneByte (getLittle bytes offset .half).toUInt16.toUInt32 lane =
      bytes.get! (offset + lane) := by
  have lowest := (bytes.get! offset).toNat_lt
  have highest := (bytes.get! (offset + 1)).toNat_lt
  have joined :
      (getLittle bytes offset .half).toNat =
        (bytes.get! offset).toNat + 2 ^ 8 * (bytes.get! (offset + 1)).toNat :=
    toNat_or_byte (bytes.get! offset).toUInt32 _ 8 (by decide) lowest
  have kept :
      (getLittle bytes offset .half).toUInt16.toUInt32.toNat =
        (getLittle bytes offset .half).toNat := by
    rw [UInt16.toNat_toUInt32, UInt32.toNat_toUInt16]
    omega
  apply UInt8.toNat_inj.mp
  obtain rfl | rfl : lane = 0 ∨ lane = 1 := by omega
  · change (laneByte _ 0).toNat = (bytes.get! offset).toNat
    rw [laneByte_zero, UInt32.toNat_toUInt8, kept, joined]
    omega
  · have eight : (UInt32.ofNat (8 * 1)).toNat % 32 = 8 := rfl
    rw [laneByte, UInt32.toNat_toUInt8, UInt32.toNat_shiftRight, eight, kept, joined,
      Nat.shiftRight_eq_div_pow]
    omega

/-- Halfwords with the same bytes are the same. -/
theorem getLittle_half_congr
    {first second : ByteArray}
    {firstOffset secondOffset : Nat}
    (low : first.get! firstOffset = second.get! secondOffset)
    (high : first.get! (firstOffset + 1) = second.get! (secondOffset + 1)) :
    getLittle first firstOffset .half = getLittle second secondOffset .half := by
  simp only [getLittle, low, high]

/-- Storing a halfword copies its two bytes. -/
theorem setLittle_half_eq_copySlice
    (inSource : first + 2 ≤ source.size)
    (inTarget : offset + 2 ≤ target.size) :
    setLittle target offset (getLittle source first .half).toUInt16.toUInt32 .half =
      source.copySlice first target offset 2 := by
  apply eq_of_get!_eq
  · rw [size_setLittle, size_copySlice inSource inTarget]
  · intro index _
    by_cases outside : index < offset ∨ offset + 2 ≤ index
    · rw [get!_setLittle_of_outside outside, get!_copySlice_of_outside inSource inTarget outside]
    · obtain ⟨lane, rfl⟩ := Nat.exists_eq_add_of_le (show offset ≤ index by omega)
      have inHalf : lane < 2 := by omega
      rw [get!_setLittle_of_inside inTarget inHalf, laneByte_getLittle_half source first inHalf,
        get!_copySlice_of_inside inSource inTarget inHalf]

end

end PsxPlayer
