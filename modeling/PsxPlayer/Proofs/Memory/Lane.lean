import PsxPlayer.Cpu.Access
import PsxPlayer.Proofs.Memory.Mirror

namespace PsxPlayer

/-!
# Lanes of a word

A word is known by the bytes in its four lanes.  An aligned read has them from the
addresses of the word, and a word that is pasted over one end of another one puts its
own bytes into the lanes there.
-/

/-! ## Bits -/

theorem testBit_not (value : UInt32) {bit : Nat} (inWord : bit < 32) :
    (~~~value).toNat.testBit bit = !value.toNat.testBit bit := by
  have complement : (~~~value).toNat = 2 ^ 32 - (value.toNat + 1) := by
    rw [UInt32.toNat_not, Nat.sub_sub, Nat.add_comm 1]
    rfl
  rw [complement, Nat.testBit_two_pow_sub_succ value.toNat_lt, decide_eq_true inWord,
    Bool.true_and]

theorem testBit_ones (bit : Nat) :
    (0xFFFFFFFF : UInt32).toNat.testBit bit = decide (bit < 32) :=
  Nat.testBit_two_pow_sub_one 32 bit

section

variable {shift : UInt32} (small : shift.toNat < 32)

include small

theorem testBit_shiftLeft (value : UInt32) {bit : Nat} (inWord : bit < 32) :
    (value <<< shift).toNat.testBit bit =
      (decide (shift.toNat ≤ bit) && value.toNat.testBit (bit - shift.toNat)) := by
  rw [UInt32.toNat_shiftLeft, Nat.mod_eq_of_lt small, Nat.testBit_mod_two_pow,
    Nat.testBit_shiftLeft, decide_eq_true inWord, Bool.true_and]

theorem testBit_shiftRight (value : UInt32) (bit : Nat) :
    (value >>> shift).toNat.testBit bit = value.toNat.testBit (shift.toNat + bit) := by
  rw [UInt32.toNat_shiftRight, Nat.mod_eq_of_lt small, Nat.testBit_shiftRight]

theorem testBit_pasteUp (old value : UInt32) {bit : Nat} (inWord : bit < 32) :
    (pasteUp shift old value).toNat.testBit bit =
      if shift.toNat ≤ bit then
        value.toNat.testBit (bit - shift.toNat)
      else
        old.toNat.testBit bit := by
  rw [pasteUp, UInt32.toNat_or, UInt32.toNat_and, Nat.testBit_or, Nat.testBit_and,
    testBit_not _ inWord, testBit_shiftLeft small _ inWord,
    testBit_shiftLeft small _ inWord, testBit_ones]
  by_cases above : shift.toNat ≤ bit
  · simp [above, show bit - shift.toNat < 32 by omega]
  · simp [above]

theorem testBit_pasteDown (old value : UInt32) {bit : Nat} (inWord : bit < 32) :
    (pasteDown shift old value).toNat.testBit bit =
      if shift.toNat + bit < 32 then
        value.toNat.testBit (shift.toNat + bit)
      else
        old.toNat.testBit bit := by
  rw [pasteDown, UInt32.toNat_or, UInt32.toNat_and, Nat.testBit_or, Nat.testBit_and,
    testBit_not _ inWord, testBit_shiftRight small, testBit_shiftRight small, testBit_ones]
  by_cases inside : shift.toNat + bit < 32
  · simp [inside]
  · simp [inside, testBit_outside value (Nat.le_of_not_lt inside)]

end

/-! ## Bytes -/

theorem testBit_laneByte
    {lane : Nat}
    (inWord : lane < 4)
    (value : UInt32)
    (bit : Nat) :
    (laneByte value lane).toNat.testBit bit =
      (decide (bit < 8) && value.toNat.testBit (8 * lane + bit)) := by
  have shift : (UInt32.ofNat (8 * lane)).toNat % 32 = 8 * lane := by
    rw [UInt32.toNat_ofNat']
    omega
  have inByte (number : Nat) :
      (number % 2 ^ 8).testBit bit = (decide (bit < 8) && number.testBit bit) :=
    Nat.testBit_mod_two_pow number 8 bit
  rw [laneByte, UInt32.toNat_toUInt8, inByte, UInt32.toNat_shiftRight, shift,
    Nat.testBit_shiftRight]

/-- Lanes with the same bits hold the same byte. -/
theorem laneByte_congr
    {first second : UInt32}
    {lane other : Nat}
    (inWord : lane < 4)
    (otherInWord : other < 4)
    (same :
      ∀ bit, bit < 8 →
        first.toNat.testBit (8 * lane + bit) = second.toNat.testBit (8 * other + bit)) :
    laneByte first lane = laneByte second other := by
  apply UInt8.toNat_inj.mp
  apply Nat.eq_of_testBit_eq
  intro bit
  rw [testBit_laneByte inWord, testBit_laneByte otherInWord]
  by_cases inByte : bit < 8
  · rw [same bit inByte]
  · simp [inByte]

/-- A word is known by its four bytes. -/
theorem eq_of_laneByte_eq
    {first second : UInt32}
    (same : ∀ lane, lane < 4 → laneByte first lane = laneByte second lane) :
    first = second := by
  apply UInt32.toNat_inj.mp
  apply Nat.eq_of_testBit_eq
  intro bit
  by_cases inWord : bit < 32
  · have inLane (value : UInt32) :
        value.toNat.testBit bit =
          (laneByte value (bit / 8)).toNat.testBit (bit % 8) := by
      rw [testBit_laneByte (by omega), decide_eq_true (Nat.mod_lt bit (by decide)),
        Nat.div_add_mod, Bool.true_and]
    rw [inLane, inLane, same (bit / 8) (by omega)]
  · rw [testBit_outside first (by omega), testBit_outside second (by omega)]

section

variable {shift : UInt32} {bytes lane : Nat} (amount : shift.toNat = 8 * bytes)
  (small : bytes < 4) (inWord : lane < 4) (old value : UInt32)

include amount small inWord

/-- A word that is moved up takes the upper lanes. -/
theorem laneByte_pasteUp :
    laneByte (pasteUp shift old value) lane =
      if bytes ≤ lane then laneByte value (lane - bytes) else laneByte old lane := by
  split
  · next above =>
      apply laneByte_congr inWord (by omega)
      intro bit inByte
      rw [testBit_pasteUp (by omega) old value (by omega), if_pos (by omega)]
      congr 1
      omega
  · next below =>
      apply laneByte_congr inWord inWord
      intro bit inByte
      rw [testBit_pasteUp (by omega) old value (by omega), if_neg (by omega)]

/-- A word that is moved down takes the lower lanes. -/
theorem laneByte_pasteDown :
    laneByte (pasteDown shift old value) lane =
      if lane + bytes < 4 then laneByte value (lane + bytes) else laneByte old lane := by
  split
  · next inside =>
      apply laneByte_congr inWord inside
      intro bit inByte
      rw [testBit_pasteDown (by omega) old value (by omega), if_pos (by omega)]
      congr 1
      omega
  · next outside =>
      apply laneByte_congr inWord inWord
      intro bit inByte
      rw [testBit_pasteDown (by omega) old value (by omega), if_neg (by omega)]

end

/-- A lane is a digit of the word to the base of 256. -/
theorem toNat_laneByte
    {lane : Nat}
    (inWord : lane < 4)
    (value : UInt32) :
    (laneByte value lane).toNat = value.toNat / 2 ^ (8 * lane) % 256 := by
  have shift : (UInt32.ofNat (8 * lane)).toNat % 32 = 8 * lane := by
    rw [UInt32.toNat_ofNat']
    omega
  rw [laneByte, UInt32.toNat_toUInt8, UInt32.toNat_shiftRight, shift,
    Nat.shiftRight_eq_div_pow]

/-- The byte at an address is that at its aliases. -/
theorem AddressSpace.readByte_congr
    (space : AddressSpace)
    {address other : UInt32}
    (same : storedAt? other = storedAt? address) :
    space.readByte address = space.readByte other := by
  cases found : storedAt? address with
  | none => rw [readByte_of_notStored found, readByte_of_notStored (same.trans found)]
  | some place =>
      rw [readByte_of_storedAt? found, readByte_of_storedAt? (same.trans found)]

/-- The lanes of an aligned read are the bytes at its addresses. -/
theorem AddressSpace.laneByte_read
    (space : AddressSpace)
    {address : UInt32}
    (aligned : Width.word.aligned address = true)
    {lane : Nat}
    (inWord : lane < 4) :
    laneByte (space.read .word address) lane =
      space.readByte (address + UInt32.ofNat lane) := by
  have joined := space.toNat_read aligned
  simp only [Width.bytes, List.range_succ, List.range_zero, List.nil_append,
    List.cons_append, List.map_cons, List.map_nil, Nat.ofDigits_cons, Nat.ofDigits_nil,
    Nat.add_zero, Nat.mul_zero] at joined
  have byte (index : Nat) := (space.readByte (address + UInt32.ofNat index)).toNat_lt
  have byte0 := byte 0
  have byte1 := byte 1
  have byte2 := byte 2
  have byte3 := byte 3
  apply UInt8.toNat_inj.mp
  rw [toNat_laneByte inWord, joined]
  obtain rfl | rfl | rfl | rfl : lane = 0 ∨ lane = 1 ∨ lane = 2 ∨ lane = 3 := by omega
  all_goals
    simp only [Nat.reduceMul, Nat.reducePow]
    omega

/-! ## Addresses -/

/-- The bytes of an aligned word are in RAM together. -/
theorem InRam.add
    {address : UInt32}
    (inRam : InRam address)
    (aligned : Width.word.aligned address = true)
    {lane : Nat}
    (inWord : lane < 4) :
    InRam (address + UInt32.ofNat lane) := by
  obtain ⟨physical, found, low⟩ := inRam
  have multiple := (aligned_iff .word address).mp aligned
  have small := address.toNat_lt
  have moved : (address + UInt32.ofNat lane).toNat = address.toNat + lane := by
    simp only [Width.bytes] at multiple
    rw [UInt32.toNat_add, UInt32.toNat_ofNat']
    omega
  simp only [physical?, Width.bytes, Option.ite_none_right_eq_some,
    Option.some.injEq] at found multiple
  refine ⟨physical + lane, ?_, by omega⟩
  rw [physical?, moved, if_pos (by omega)]
  exact congrArg some (by omega)

/-- There is no device in RAM. -/
theorem InRam.noPort
    {address : UInt32}
    (inRam : InRam address) :
    port? address = none := by
  obtain ⟨physical, found, low⟩ := inRam
  simp only [physical?, Option.ite_none_right_eq_some, Option.some.injEq] at found
  have isRam : regionAt address = .ram := by
    rw [regionAt, toNat_page, placeOfPage, pageInSegment?_eq, if_pos found.1]
    simp only [placeOfPhysicalPage]
    rw [if_pos (by omega)]
  simp [port?, isRam]

theorem toNat_bitsBelow (address : UInt32) :
    (bitsBelow address).toNat = 8 * (address.toNat % 4) := by
  have low : (address &&& 3).toNat = address.toNat % 4 := by
    rw [UInt32.toNat_and]
    exact Nat.and_two_pow_sub_one_eq_mod address.toNat 2
  have eight : (8 : UInt32).toNat = 8 := rfl
  rw [bitsBelow, UInt32.toNat_mul, low, eight]
  omega

theorem toNat_bitsAbove (address : UInt32) :
    (bitsAbove address).toNat = 8 * (3 - address.toNat % 4) := by
  have all : (24 : UInt32).toNat = 24 := rfl
  rw [bitsAbove, UInt32.toNat_sub, toNat_bitsBelow, all]
  omega

theorem toNat_alignedWord (address : UInt32) :
    (alignedWord address).toNat = address.toNat / 4 * 4 := by
  have small := address.toNat_lt
  have masked : (alignedWord address).toNat = address.toNat / 2 ^ 2 % 2 ^ 30 * 2 ^ 2 := by
    rw [← and_shiftedMask]
    exact UInt32.toNat_and _ _
  rw [masked]
  omega

end PsxPlayer
