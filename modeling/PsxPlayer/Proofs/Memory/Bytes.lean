import PsxPlayer.Memory.Space

namespace PsxPlayer

/-!
# Blocks of bytes

What the stores into a block of bytes leave where: they keep its size and the
bytes outside the store, and a value reads back where it was stored.
-/

/-- Reading a byte looks it up in the underlying array. -/
theorem get!_eq_getElem!
    (bytes : ByteArray)
    (index : Nat) :
    bytes.get! index = bytes.data[index]! := by
  cases bytes
  rfl

/-- Storing a byte changes the underlying array. -/
theorem data_set!
    (bytes : ByteArray)
    (index : Nat)
    (value : UInt8) :
    (bytes.set! index value).data = bytes.data.set! index value := by
  cases bytes
  rfl

@[simp]
theorem get!_set!_self
    {bytes : ByteArray}
    {index : Nat}
    (inside : index < bytes.size)
    (value : UInt8) :
    (bytes.set! index value).get! index = value := by
  have insideData : index < bytes.data.size := inside
  rw [get!_eq_getElem!, data_set!, getElem!_def, Array.set!_eq_setIfInBounds,
    Array.getElem?_setIfInBounds_self_of_lt insideData]

theorem get!_set!_of_ne
    {bytes : ByteArray}
    {index other : Nat}
    (differs : index ≠ other)
    (value : UInt8) :
    (bytes.set! index value).get! other = bytes.get! other := by
  rw [get!_eq_getElem!, get!_eq_getElem!, data_set!, getElem!_def, getElem!_def,
    Array.set!_eq_setIfInBounds, Array.getElem?_setIfInBounds_ne differs]

@[simp]
theorem size_zeroBytes (size : Nat) : (zeroBytes size).size = size :=
  Array.size_replicate

@[simp]
theorem get!_zeroBytes (size index : Nat) : (zeroBytes size).get! index = 0 := by
  rw [get!_eq_getElem!]
  by_cases inside : index < size
  · simp [zeroBytes, inside]
  · simp [zeroBytes, inside]
    rfl

@[simp]
theorem size_setLittle
    (bytes : ByteArray)
    (offset : Nat)
    (value : UInt32)
    (width : Width) :
    (setLittle bytes offset value width).size = bytes.size := by
  cases width <;> simp [setLittle]

/-- A stored value keeps the bytes outside its own. -/
theorem get!_setLittle_of_outside
    {bytes : ByteArray}
    {offset index : Nat}
    {value : UInt32}
    {width : Width}
    (outside : index < offset ∨ offset + width.bytes ≤ index) :
    (setLittle bytes offset value width).get! index = bytes.get! index := by
  cases width <;>
    simp only [Width.bytes] at outside <;>
    simp only [setLittle] <;>
    repeat rw [get!_set!_of_ne (by omega)]

/-- The byte of a value that goes to a lane. -/
def laneByte (value : UInt32) (lane : Nat) : UInt8 :=
  (value >>> UInt32.ofNat (8 * lane)).toUInt8

@[simp]
theorem laneByte_zero (value : UInt32) : laneByte value 0 = value.toUInt8 :=
  congrArg UInt32.toUInt8 UInt32.shiftRight_zero

/-- A stored value puts its bytes into its lanes. -/
theorem get!_setLittle_of_inside
    {bytes : ByteArray}
    {offset : Nat}
    {width : Width}
    (inside : offset + width.bytes ≤ bytes.size)
    {lane : Nat}
    (inLane : lane < width.bytes)
    (value : UInt32) :
    (setLittle bytes offset value width).get! (offset + lane) = laneByte value lane := by
  cases width with
  | byte =>
      obtain rfl : lane = 0 := by simp only [Width.bytes] at inLane; omega
      rw [laneByte_zero]
      exact get!_set!_self inside value.toUInt8
  | half =>
      simp only [Width.bytes] at inside inLane
      simp only [setLittle]
      obtain rfl | rfl : lane = 0 ∨ lane = 1 := by omega
      · rw [get!_set!_of_ne (by omega), Nat.add_zero, get!_set!_self (by omega), laneByte_zero]
      · rw [get!_set!_self (by simp; omega)]
        rfl
  | word =>
      simp only [Width.bytes] at inside inLane
      simp only [setLittle]
      obtain rfl | rfl | rfl | rfl : lane = 0 ∨ lane = 1 ∨ lane = 2 ∨ lane = 3 := by omega
      · rw [get!_set!_of_ne (by omega), get!_set!_of_ne (by omega), get!_set!_of_ne (by omega),
          Nat.add_zero, get!_set!_self (by omega), laneByte_zero]
      · rw [get!_set!_of_ne (by omega), get!_set!_of_ne (by omega),
          get!_set!_self (by simp; omega)]
        rfl
      · rw [get!_set!_of_ne (by omega), get!_set!_self (by simp; omega)]
        rfl
      · rw [get!_set!_self (by simp; omega)]
        rfl

/-- Bytes that agree still do where the same value has been stored into both. -/
theorem get!_setLittle_congr
    {first second : ByteArray}
    {offset index : Nat}
    {value : UInt32}
    {width : Width}
    (firstRoom : offset + width.bytes ≤ first.size)
    (secondRoom : offset + width.bytes ≤ second.size)
    (same : first.get! index = second.get! index) :
    (setLittle first offset value width).get! index =
      (setLittle second offset value width).get! index := by
  by_cases outside : index < offset ∨ offset + width.bytes ≤ index
  · rw [get!_setLittle_of_outside outside, get!_setLittle_of_outside outside, same]
  · obtain ⟨lane, rfl⟩ := Nat.exists_eq_add_of_le (show offset ≤ index by omega)
    have inLane : lane < width.bytes := by omega
    rw [get!_setLittle_of_inside firstRoom inLane, get!_setLittle_of_inside secondRoom inLane]

/-- Values whose bytes agree are equal. -/
theorem getLittle_congr
    {first second : ByteArray}
    {offset : Nat}
    {width : Width}
    (same :
      ∀ index,
        offset ≤ index →
        index < offset + width.bytes →
        first.get! index = second.get! index) :
    getLittle first offset width = getLittle second offset width := by
  cases width with
  | byte =>
      simp only [getLittle]
      rw [same offset (by omega) (by simp [Width.bytes])]
  | half =>
      simp only [getLittle]
      rw [same offset (by omega) (by simp [Width.bytes]),
        same (offset + 1) (by omega) (by simp [Width.bytes])]
  | word =>
      simp only [getLittle]
      rw [same offset (by omega) (by simp [Width.bytes]),
        same (offset + 1) (by omega) (by simp [Width.bytes]),
        same (offset + 2) (by omega) (by simp [Width.bytes]),
        same (offset + 3) (by omega) (by simp [Width.bytes])]

/-- A stored value leaves the values outside its bytes alone. -/
theorem getLittle_setLittle_of_outside
    {bytes : ByteArray}
    {offset other : Nat}
    {value : UInt32}
    {width otherWidth : Width}
    (outside :
      other + otherWidth.bytes ≤ offset ∨ offset + width.bytes ≤ other) :
    getLittle (setLittle bytes offset value width) other otherWidth =
      getLittle bytes other otherWidth := by
  apply getLittle_congr
  intro index above below
  exact get!_setLittle_of_outside (by omega)

/-- The bits of a byte that is moved back up to where it was taken. -/
private theorem testBit_lane
    (value shift bit : Nat) :
    (decide (shift ≤ bit) &&
        (decide (bit - shift < 8) && value.testBit (shift + (bit - shift)))) =
      (decide (shift ≤ bit ∧ bit < shift + 8) && value.testBit bit) := by
  by_cases above : shift ≤ bit
  · rw [Nat.add_sub_of_le above]
    simp [above, Nat.sub_lt_iff_lt_add above, Nat.add_comm]
  · simp [above]

/-- A word has no bits from 32 on. -/
theorem testBit_outside (value : UInt32) {bit : Nat} (outside : 32 ≤ bit) :
    value.toNat.testBit bit = false :=
  Nat.testBit_lt_two_pow
    (Nat.lt_of_lt_of_le value.toNat_lt (Nat.pow_le_pow_right (by decide) outside))

/-- The four bytes of a word make up the word. -/
theorem joinBytes_word (value : UInt32) :
    value.toUInt8.toUInt32 |||
        ((value >>> 8).toUInt8.toUInt32 <<< 8) |||
        ((value >>> 16).toUInt8.toUInt32 <<< 16) |||
        ((value >>> 24).toUInt8.toUInt32 <<< 24) =
      value := by
  have eight : UInt32.toNat 8 % 32 = 8 := rfl
  have sixteen : UInt32.toNat 16 % 32 = 16 := rfl
  have twentyFour : UInt32.toNat 24 % 32 = 24 := rfl
  have inBits (count n bit : Nat) :
      (n % 2 ^ count).testBit bit = (decide (bit < count) && n.testBit bit) :=
    Nat.testBit_mod_two_pow n count bit
  apply UInt32.toNat_inj.mp
  apply Nat.eq_of_testBit_eq
  intro bit
  simp only [UInt32.toNat_or, UInt32.toNat_shiftLeft, UInt32.toNat_shiftRight,
    UInt8.toNat_toUInt32, UInt32.toNat_toUInt8, Nat.testBit_or, inBits,
    Nat.testBit_shiftLeft, Nat.testBit_shiftRight, eight, sixteen, twentyFour,
    ge_iff_le, testBit_lane]
  by_cases inside : bit < 32
  · cases value.toNat.testBit bit <;> simp [inside]
    omega
  · simp [testBit_outside value (Nat.le_of_not_lt inside)]

/-- A word reads back where it was stored. -/
theorem getLittle_setLittle_word
    {bytes : ByteArray}
    {offset : Nat}
    (inside : offset + 4 ≤ bytes.size)
    (value : UInt32) :
    getLittle (setLittle bytes offset value .word) offset .word = value := by
  have lane (index : Nat) (inWord : index < Width.word.bytes) :
      (setLittle bytes offset value .word).get! (offset + index) = laneByte value index :=
    get!_setLittle_of_inside inside inWord value
  have lowest : (setLittle bytes offset value .word).get! offset = value.toUInt8 :=
    (lane 0 (by decide)).trans (laneByte_zero value)
  simp only [getLittle, lowest, lane 1 (by decide), lane 2 (by decide), lane 3 (by decide)]
  exact joinBytes_word value

theorem size_copySlice
    {source target : ByteArray}
    {first offset length : Nat}
    (inSource : first + length ≤ source.size)
    (inTarget : offset + length ≤ target.size) :
    (source.copySlice first target offset length).size = target.size := by
  rw [ByteArray.copySlice_eq_append]
  simp only [ByteArray.size_append, ByteArray.size_extract, ByteArray.size_data]
  omega

/-- A copied run keeps the bytes outside of where it goes. -/
theorem get!_copySlice_of_outside
    {source target : ByteArray}
    {first offset length index : Nat}
    (inSource : first + length ≤ source.size)
    (inTarget : offset + length ≤ target.size)
    (outside : index < offset ∨ offset + length ≤ index) :
    (source.copySlice first target offset length).get! index =
      target.get! index := by
  have sourceSize : source.data.size = source.size := rfl
  have targetSize : target.data.size = target.size := rfl
  simp only [get!_eq_getElem!, ByteArray.copySlice, getElem!_def,
    Array.getElem?_append, Array.getElem?_extract]
  simp only [Array.size_append, Array.size_extract, sourceSize, targetSize, Nat.sub_zero]
  rcases outside with before | after
  · rw [if_pos (by omega), if_pos (by omega), if_pos (by omega), Nat.zero_add]
  · rw [if_neg (by omega)]
    by_cases inside : index < target.size
    · rw [if_pos (by omega)]
      congr 2
      omega
    · rw [if_neg (by omega), Array.getElem?_eq_none (by omega)]

end PsxPlayer
