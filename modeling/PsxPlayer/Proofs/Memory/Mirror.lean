import Mathlib.Data.Nat.Digits.Defs
import PsxPlayer.Proofs.Memory.Bytes

namespace PsxPlayer

/-!
# Mirrored memory

The address space is a memory of bytes that several addresses share: an aligned read joins the
bytes of its addresses, lowest first, and a write changes these bytes and no others, wherever
they are seen.  Four mirrors of RAM lie in each of the three segments.
-/

/-! ## What lies behind an address -/

/-- The segments KUSEG, KSEG0 and KSEG1 start 512 MB of physical memory each. -/
def physical? (address : UInt32) : Option Nat :=
  if address.toNat < 0x20000000 ∨ 0x80000000 ≤ address.toNat ∧ address.toNat < 0xC0000000 then
    some (address.toNat % 0x20000000)
  else
    none

/-- The byte behind a physical address. -/
def placeOfPhysical? (physical : Nat) : Option Place :=
  if physical < 0x800000 then some ⟨.ram, physical % 0x200000⟩
  else if 0x1F000000 ≤ physical ∧ physical < 0x1F010000 then
    some ⟨.parallel, physical - 0x1F000000⟩
  else if 0x1F800000 ≤ physical ∧ physical < 0x1F803000 then
    some ⟨.hardware, physical - 0x1F800000⟩
  else if 0x1FC00000 ≤ physical ∧ physical < 0x1FC80000 then
    some ⟨.rom, physical - 0x1FC00000⟩
  else
    none

/-- The byte behind an address; two addresses are aliases if it is the same. -/
def storedAt? (address : UInt32) : Option Place :=
  (physical? address).bind placeOfPhysical?

/-- A mask of bits side by side keeps them and the place they are in. -/
theorem and_shiftedMask (number width shift : Nat) :
    number &&& ((2 ^ width - 1) <<< shift) = number / 2 ^ shift % 2 ^ width * 2 ^ shift := by
  rw [← Nat.and_two_pow_sub_one_eq_mod, ← Nat.shiftRight_eq_div_pow, ← Nat.shiftLeft_eq]
  apply Nat.eq_of_testBit_eq
  intro bit
  rw [Nat.testBit_and, Nat.testBit_shiftLeft, Nat.testBit_shiftLeft, Nat.testBit_and,
    Nat.testBit_shiftRight]
  by_cases above : shift ≤ bit
  · rw [Nat.add_sub_of_le above]
    simp [above]
  · simp [above]

/-- The page of an address is its upper half. -/
theorem toNat_page (address : UInt32) : (address >>> 16).toNat = address.toNat / 0x10000 := by
  rw [UInt32.toNat_shiftRight, Nat.shiftRight_eq_div_pow]
  rfl

/-- The place in a page is the lower half of an address. -/
theorem toNat_inPage (address : UInt32) :
    (address &&& 0xFFFF).toNat = address.toNat % 0x10000 := by
  rw [UInt32.toNat_and]
  exact Nat.and_two_pow_sub_one_eq_mod _ 16

/-- An address is aligned if the width divides it. -/
theorem aligned_iff
    (width : Width)
    (address : UInt32) :
    width.aligned address = true ↔ address.toNat % width.bytes = 0 := by
  cases width with
  | byte => exact iff_of_true rfl (Nat.mod_one _)
  | half =>
      rw [Width.aligned, beq_iff_eq, ← UInt32.toNat_inj, UInt32.toNat_and]
      exact Eq.congr_left (Nat.and_two_pow_sub_one_eq_mod address.toNat 1)
  | word =>
      rw [Width.aligned, beq_iff_eq, ← UInt32.toNat_inj, UInt32.toNat_and]
      exact Eq.congr_left (Nat.and_two_pow_sub_one_eq_mod address.toNat 2)

/-- Three segments show the same pages. -/
theorem pageInSegment?_eq (address : Nat) :
    pageInSegment? (address / 0x10000) =
      if address < 0x20000000 ∨ 0x80000000 ≤ address ∧ address < 0xC0000000 then
        some (address % 0x20000000 / 0x10000)
      else
        none := by
  unfold pageInSegment?
  by_cases inUser : address < 0x20000000
  · rw [if_pos (by omega), if_pos (by omega)]
    exact congrArg some (by omega)
  by_cases belowKernel : address < 0x80000000
  · rw [if_neg (by omega), if_pos (by omega), if_neg (by omega)]
  by_cases inCached : address < 0xA0000000
  · rw [if_neg (by omega), if_neg (by omega), if_pos (by omega), if_pos (by omega)]
    exact congrArg some (by omega)
  by_cases inUncached : address < 0xC0000000
  · rw [if_neg (by omega), if_neg (by omega), if_neg (by omega), if_pos (by omega),
      if_pos (by omega)]
    exact congrArg some (by omega)
  · rw [if_neg (by omega), if_neg (by omega), if_neg (by omega), if_neg (by omega),
      if_neg (by omega)]

/-- An access that lies inside of its page is resolved by its physical address alone. -/
theorem placeInPage_eq
    {physical size : Nat}
    (positive : 0 < size)
    (inPage : physical % 0x10000 + size ≤ 0x10000)
    (inHardware :
      physical % 0x10000 < 0x3000 →
      physical % 0x10000 + size ≤ 0x3000) :
    (let start := placeOfPhysicalPage (physical / 0x10000)
     let offset := start.offset + physical % 0x10000
     if start.region ≠ .unmapped ∧ offset + size ≤ start.region.size then
       some (⟨start.region, offset⟩ : Place)
     else none) = placeOfPhysical? physical := by
  unfold placeOfPhysicalPage placeOfPhysical?
  by_cases ram : physical < 0x800000
  · have offset :
        physical / 0x10000 % 0x20 * 0x10000 + physical % 0x10000 = physical % 0x200000 := by
      omega
    rw [if_pos (show physical / 0x10000 < 0x80 by omega), if_pos ram]
    simp only [offset, Region.size]
    exact if_pos ⟨by decide, by omega⟩
  rw [if_neg (show ¬ physical / 0x10000 < 0x80 by omega), if_neg ram]
  by_cases parallel : 0x1F000000 ≤ physical ∧ physical < 0x1F010000
  · have offset : 0 + physical % 0x10000 = physical - 0x1F000000 := by omega
    rw [if_pos (show physical / 0x10000 = 0x1F00 by omega), if_pos parallel]
    simp only [offset, Region.size]
    exact if_pos ⟨by decide, by omega⟩
  rw [if_neg (show ¬ physical / 0x10000 = 0x1F00 by omega), if_neg parallel]
  by_cases hardwarePage : 0x1F800000 ≤ physical ∧ physical < 0x1F810000
  · have offset : 0 + physical % 0x10000 = physical - 0x1F800000 := by omega
    rw [if_pos (show physical / 0x10000 = 0x1F80 by omega)]
    simp only [offset, Region.size]
    by_cases hardware : physical < 0x1F803000
    · rw [if_pos (show 0x1F800000 ≤ physical ∧ physical < 0x1F803000 from
        ⟨hardwarePage.1, hardware⟩)]
      exact if_pos ⟨by decide, by omega⟩
    · rw [if_neg (show ¬ (0x1F800000 ≤ physical ∧ physical < 0x1F803000) by omega),
        if_neg (show ¬ (0x1FC00000 ≤ physical ∧ physical < 0x1FC80000) by omega)]
      exact if_neg fun mapped => by omega
  rw [if_neg (show ¬ physical / 0x10000 = 0x1F80 by omega),
    if_neg (show ¬ (0x1F800000 ≤ physical ∧ physical < 0x1F803000) by omega)]
  by_cases rom : 0x1FC00000 ≤ physical ∧ physical < 0x1FC80000
  · have offset :
        (physical / 0x10000 - 0x1FC0) * 0x10000 + physical % 0x10000 =
          physical - 0x1FC00000 := by
      omega
    rw [if_pos (show 0x1FC0 ≤ physical / 0x10000 ∧ physical / 0x10000 < 0x1FC8 by omega),
      if_pos rom]
    simp only [offset, Region.size]
    exact if_pos ⟨by decide, by omega⟩
  · rw [if_neg (show ¬ (0x1FC0 ≤ physical / 0x10000 ∧ physical / 0x10000 < 0x1FC8) by omega),
      if_neg rom]
    exact if_neg fun mapped => mapped.1 rfl

/-- An aligned access lies inside of its page and inside of the hardware page's storage. -/
theorem place?_eq_storedAt?
    {width : Width}
    {address : UInt32}
    (aligned : width.aligned address = true) :
    place? address width.bytes = storedAt? address := by
  have multiple := (aligned_iff width address).mp aligned
  unfold place? placeOfPage storedAt? physical?
  rw [toNat_page, toNat_inPage, pageInSegment?_eq]
  by_cases inSegment :
      address.toNat < 0x20000000 ∨ 0x80000000 ≤ address.toNat ∧ address.toNat < 0xC0000000
  · have samePage : address.toNat % 0x20000000 % 0x10000 = address.toNat % 0x10000 := by
      omega
    rw [if_pos inSegment, if_pos inSegment, ← samePage]
    exact placeInPage_eq (by cases width <;> decide)
      (by cases width <;> simp only [Width.bytes] at * <;> omega)
      (by cases width <;> simp only [Width.bytes] at * <;> omega)
  · rw [if_neg inSegment, if_neg inSegment]
    exact if_neg fun mapped => mapped.1 rfl

/-- A place, some bytes on. -/
def Place.advance (place : Place) (count : Nat) : Place :=
  { place with offset := place.offset + count }

/-- All windows start and end between words. -/
theorem placeOfPhysical?_add
    {physical lane : Nat}
    (sameWord : (physical + lane) / 4 = physical / 4) :
    placeOfPhysical? (physical + lane) =
      (placeOfPhysical? physical).map fun place => place.advance lane := by
  have below (bound : Nat) (even : bound % 4 = 0) :
      physical + lane < bound ↔ physical < bound := by
    omega
  have above (bound : Nat) (even : bound % 4 = 0) :
      bound ≤ physical + lane ↔ bound ≤ physical := by
    omega
  have inRam : (physical + lane) % 0x200000 = physical % 0x200000 + lane := by
    omega
  simp only [placeOfPhysical?, below _ (show 0x800000 % 4 = 0 from rfl),
    below _ (show 0x1F010000 % 4 = 0 from rfl), below _ (show 0x1F803000 % 4 = 0 from rfl),
    below _ (show 0x1FC80000 % 4 = 0 from rfl), above _ (show 0x1F000000 % 4 = 0 from rfl),
    above _ (show 0x1F800000 % 4 = 0 from rfl), above _ (show 0x1FC00000 % 4 = 0 from rfl),
    inRam]
  repeat' split
  · rfl
  · next inWindow => rw [Nat.sub_add_comm inWindow.1]; rfl
  · next inWindow => rw [Nat.sub_add_comm inWindow.1]; rfl
  · next inWindow => rw [Nat.sub_add_comm inWindow.1]; rfl
  · rfl

/-- The bytes of an aligned access are bytes of one word. -/
theorem sameWord_of_aligned
    {width : Width}
    {address : UInt32}
    (aligned : width.aligned address = true)
    {lane : Nat}
    (inside : lane < width.bytes) :
    (address.toNat + lane) / 4 = address.toNat / 4 := by
  have multiple := (aligned_iff width address).mp aligned
  cases width <;> simp only [Width.bytes] at multiple inside <;> omega

/-- The bytes of an aligned access lie next to each other. -/
theorem storedAt?_add
    {width : Width}
    {address : UInt32}
    (aligned : width.aligned address = true)
    {lane : Nat}
    (inside : lane < width.bytes) :
    storedAt? (address + UInt32.ofNat lane) =
      (storedAt? address).map fun place => place.advance lane := by
  have sameWord := sameWord_of_aligned aligned inside
  have moved : (address + UInt32.ofNat lane).toNat = address.toNat + lane := by
    have bound := address.toNat_lt
    rw [UInt32.toNat_add, UInt32.toNat_ofNat']
    omega
  unfold storedAt? physical?
  rw [moved]
  by_cases inSegment :
      address.toNat < 0x20000000 ∨ 0x80000000 ≤ address.toNat ∧ address.toNat < 0xC0000000
  · have sameSegment :
        (address.toNat + lane) % 0x20000000 = address.toNat % 0x20000000 + lane := by
      omega
    rw [if_pos (by omega), if_pos inSegment, sameSegment]
    exact placeOfPhysical?_add (by omega)
  · rw [if_neg (by omega), if_neg inSegment]
    rfl

/-! ## Bytes of a value -/

/-- A byte that is put above a value adds to it. -/
theorem toNat_or_byte
    (low : UInt32)
    (byte : UInt8)
    (shift : UInt32)
    (inWord : shift.toNat ≤ 24)
    (belowByte : low.toNat < 2 ^ shift.toNat) :
    (low ||| byte.toUInt32 <<< shift).toNat = low.toNat + 2 ^ shift.toNat * byte.toNat := by
  have small := byte.toNat_lt
  have fits : byte.toNat <<< shift.toNat < 2 ^ 32 := by
    rw [Nat.shiftLeft_eq]
    calc byte.toNat * 2 ^ shift.toNat < 2 ^ 8 * 2 ^ shift.toNat :=
          Nat.mul_lt_mul_of_pos_right small (Nat.two_pow_pos _)
      _ = 2 ^ (8 + shift.toNat) := (Nat.pow_add 2 8 _).symm
      _ ≤ 2 ^ 32 := Nat.pow_le_pow_right (by decide) (by omega)
  rw [UInt32.toNat_or, UInt32.toNat_shiftLeft, UInt8.toNat_toUInt32,
    Nat.mod_eq_of_lt (show shift.toNat < 32 by omega), Nat.mod_eq_of_lt fits, Nat.or_comm,
    ← Nat.shiftLeft_add_eq_or_of_lt belowByte, Nat.shiftLeft_eq, Nat.add_comm, Nat.mul_comm]

/-- A value is the number whose digits are its bytes, lowest first. -/
theorem toNat_getLittle
    (bytes : ByteArray)
    (offset : Nat)
    (width : Width) :
    (getLittle bytes offset width).toNat =
      Nat.ofDigits 256
        ((List.range width.bytes).map fun lane => (bytes.get! (offset + lane)).toNat) := by
  let low := (bytes.get! offset).toUInt32
  let half := getLittle bytes offset .half
  let three := half ||| (bytes.get! (offset + 2)).toUInt32 <<< 16
  have byte0 : low.toNat < 2 ^ 8 := (bytes.get! offset).toNat_lt
  have byte1 := (bytes.get! (offset + 1)).toNat_lt
  have byte2 := (bytes.get! (offset + 2)).toNat_lt
  have toHalf : half.toNat = low.toNat + 2 ^ 8 * (bytes.get! (offset + 1)).toNat :=
    toNat_or_byte low _ 8 (by decide) byte0
  have toThree : three.toNat = half.toNat + 2 ^ 16 * (bytes.get! (offset + 2)).toNat :=
    toNat_or_byte half _ 16 (by decide) (show half.toNat < 2 ^ 16 by omega)
  have toWord :
      (getLittle bytes offset .word).toNat =
        three.toNat + 2 ^ 24 * (bytes.get! (offset + 3)).toNat :=
    toNat_or_byte three _ 24 (by decide) (show three.toNat < 2 ^ 24 by omega)
  cases width with
  | byte => exact Nat.ofDigits_singleton.symm
  | half =>
      rw [show getLittle bytes offset .half = half from rfl, toHalf]
      simp only [Width.bytes, List.range_succ, List.range_zero, List.nil_append, List.cons_append,
        List.map_cons, List.map_nil, Nat.ofDigits_cons, Nat.ofDigits_nil]
      rfl
  | word =>
      rw [toWord, toThree, toHalf]
      simp only [Width.bytes, List.range_succ, List.range_zero, List.nil_append, List.cons_append,
        List.map_cons, List.map_nil, Nat.ofDigits_cons, Nat.ofDigits_nil,
        Nat.add_zero]
      change (bytes.get! offset).toNat + _ + _ + _ = _
      omega

/-! ## Accesses -/

namespace AddressSpace

/-- Each region has all of its bytes. -/
def IsSized (space : AddressSpace) : Prop :=
  ∀ region, (space.storage region).size = region.size

/-- The byte at a place. -/
def byteAt (space : AddressSpace) (place : Place) : UInt8 :=
  (space.storage place.region).get! place.offset

/-- Blank memory has all its regions. -/
theorem isSized_blank : blank.IsSized := by
  intro region
  cases region <;> first | exact size_zeroBytes _ | rfl

/-- Setting memory up keeps every region's size. -/
theorem IsSized.setUp
    {space : AddressSpace}
    (sized : space.IsSized) :
    space.setUp.IsSized := by
  intro region
  have same : space.setUp.storage region = space.storage region := by
    cases region <;> rfl
  rw [same]
  exact sized region

/-- A region that is changed stores what the change makes of it. -/
theorem storage_modifyStorage_self
    {region : Region}
    (mapped : region ≠ .unmapped)
    (space : AddressSpace)
    (change : ByteArray → ByteArray) :
    (space.modifyStorage region change).storage region = change (space.storage region) := by
  cases region with
  | unmapped => exact absurd rfl mapped
  | _ => rfl

/-- Changing a region leaves the others. -/
theorem storage_modifyStorage_of_ne
    {region other : Region}
    (differs : other ≠ region)
    (space : AddressSpace)
    (change : ByteArray → ByteArray) :
    (space.modifyStorage region change).storage other = space.storage other := by
  cases region <;> cases other <;> first | rfl | exact absurd rfl differs

/-- What a write leaves in each region. -/
theorem storage_write
    (space : AddressSpace)
    (width : Width)
    (address value : UInt32)
    (region : Region) :
    (space.write width address value).storage region = space.storage region ∨
      ∃ offset,
        (space.write width address value).storage region =
          setLittle (space.storage region) offset value width := by
  unfold write
  split
  · exact .inl rfl
  · next owner offset _ _ =>
      by_cases same : region = owner
      · subst same
        by_cases mapped : region = .unmapped
        · subst mapped
          exact .inl rfl
        · exact .inr ⟨offset, storage_modifyStorage_self mapped space _⟩
      · exact .inl (storage_modifyStorage_of_ne same space _)
  · exact .inl rfl

/-- A store keeps every region's size. -/
theorem IsSized.write
    {space : AddressSpace}
    (sized : space.IsSized)
    (width : Width)
    (address value : UInt32) :
    (space.write width address value).IsSized := by
  intro region
  rcases storage_write space width address value region with same | ⟨offset, stored⟩
  · rw [same]
    exact sized region
  · rw [stored, size_setLittle]
    exact sized region

/-- An aligned access that finds storage lies inside of it. -/
theorem inside_of_storedAt?
    {width : Width}
    {address : UInt32}
    (aligned : width.aligned address = true)
    {place : Place}
    (found : storedAt? address = some place) :
    place.region ≠ .unmapped ∧ place.offset + width.bytes ≤ place.region.size := by
  have resolved := (place?_eq_storedAt? aligned).trans found
  simp only [place?, Option.ite_none_right_eq_some, Option.some.injEq] at resolved
  obtain ⟨inside, rfl⟩ := resolved
  exact inside

/-- An address with a place reads what is stored there. -/
theorem readByte_of_storedAt?
    {address : UInt32}
    {place : Place}
    (found : storedAt? address = some place)
    (space : AddressSpace) :
    space.readByte address = space.byteAt place := by
  have resolved : place? address Width.byte.bytes = some place :=
    (place?_eq_storedAt? rfl).trans found
  simp only [readByte, read, resolved, getLittle, UInt8.toUInt8_toUInt32]
  rfl

/-- An address without a place reads as zero. -/
theorem readByte_of_notStored
    {address : UInt32}
    (notStored : storedAt? address = none)
    (space : AddressSpace) :
    space.readByte address = 0 := by
  have resolved : place? address Width.byte.bytes = none :=
    (place?_eq_storedAt? rfl).trans notStored
  simp only [readByte, read, resolved]
  rfl

/-- An address that accesses may write: it has storage, and not in the ROM. -/
def IsWritable (address : UInt32) : Prop :=
  ∃ place, storedAt? address = some place ∧ place.region ≠ .rom

/-- An aligned store to a place that is not ROM changes this place. -/
theorem write_of_storedAt?
    {width : Width}
    {address : UInt32}
    (aligned : width.aligned address = true)
    {place : Place}
    (found : storedAt? address = some place)
    (writable : place.region ≠ .rom)
    (space : AddressSpace)
    (value : UInt32) :
    space.write width address value =
      space.modifyStorage place.region fun bytes => setLittle bytes place.offset value width := by
  obtain ⟨region, offset⟩ := place
  have resolved := (place?_eq_storedAt? aligned).trans found
  unfold write
  rw [resolved]
  cases region with
  | rom => exact absurd rfl writable
  | _ => rfl

/-- A store to ROM or to no place is dropped. -/
theorem write_of_notWritable
    {width : Width}
    {address : UInt32}
    (aligned : width.aligned address = true)
    (dropped : ¬ IsWritable address)
    (space : AddressSpace)
    (value : UInt32) :
    space.write width address value = space := by
  have resolved := place?_eq_storedAt? aligned
  unfold write
  rw [resolved]
  split
  · rfl
  · next region offset notRom found =>
      exact absurd ⟨⟨region, offset⟩, found, notRom⟩ dropped
  · rfl

/-- A write puts each of its bytes at its place. -/
theorem byteAt_write_self
    {space : AddressSpace}
    (sized : space.IsSized)
    {width : Width}
    {address : UInt32}
    (aligned : width.aligned address = true)
    {place : Place}
    (found : storedAt? address = some place)
    (writable : place.region ≠ .rom)
    {lane : Nat}
    (inside : lane < width.bytes)
    (value : UInt32) :
    (space.write width address value).byteAt (place.advance lane) = laneByte value lane := by
  obtain ⟨mapped, inStorage⟩ := inside_of_storedAt? aligned found
  rw [write_of_storedAt? aligned found writable]
  unfold byteAt
  rw [show (place.advance lane).region = place.region from rfl,
    storage_modifyStorage_self mapped]
  exact get!_setLittle_of_inside (by rwa [sized place.region]) inside value

/-- A write leaves every other place alone. -/
theorem byteAt_write_of_apart
    (space : AddressSpace)
    {width : Width}
    {address : UInt32}
    (aligned : width.aligned address = true)
    {place : Place}
    (found : storedAt? address = some place)
    (writable : place.region ≠ .rom)
    {other : Place}
    (apart : ∀ lane, lane < width.bytes → other ≠ place.advance lane)
    (value : UInt32) :
    (space.write width address value).byteAt other = space.byteAt other := by
  obtain ⟨mapped, -⟩ := inside_of_storedAt? aligned found
  rw [write_of_storedAt? aligned found writable]
  unfold byteAt
  by_cases sameRegion : other.region = place.region
  · rw [sameRegion, storage_modifyStorage_self mapped, get!_setLittle_of_outside]
    by_cases before : other.offset < place.offset
    · exact .inl before
    · right
      apply Nat.le_of_not_lt
      intro inside
      apply apart (other.offset - place.offset) (by omega)
      obtain ⟨region, offset⟩ := other
      obtain rfl : region = place.region := sameRegion
      have above : place.offset ≤ offset := Nat.le_of_not_lt before
      exact congrArg (Place.mk place.region) (Nat.add_sub_of_le above).symm
  · rw [storage_modifyStorage_of_ne sameRegion]

/-- An aligned read joins the bytes that its addresses show one by one. -/
theorem toNat_read
    (space : AddressSpace)
    {width : Width}
    {address : UInt32}
    (aligned : width.aligned address = true) :
    (space.read width address).toNat =
      Nat.ofDigits 256
        ((List.range width.bytes).map fun lane =>
          (space.readByte (address + UInt32.ofNat lane)).toNat) := by
  unfold read
  rw [place?_eq_storedAt? aligned]
  cases found : storedAt? address with
  | none =>
      have zero (lane : Nat) (member : lane ∈ List.range width.bytes) :
          (space.readByte (address + UInt32.ofNat lane)).toNat = 0 := by
        have atLane : storedAt? (address + UInt32.ofNat lane) = none := by
          rw [storedAt?_add aligned (List.mem_range.mp member), found]
          rfl
        rw [readByte_of_notStored atLane]
        rfl
      rw [List.map_congr_left zero]
      cases width <;> rfl
  | some place =>
      rw [toNat_getLittle]
      congr 1
      apply List.map_congr_left
      intro lane member
      have atLane : storedAt? (address + UInt32.ofNat lane) = some (place.advance lane) := by
        rw [storedAt?_add aligned (List.mem_range.mp member), found]
        rfl
      rw [readByte_of_storedAt? atLane]
      rfl

/-- A write shows at every alias of each of its bytes. -/
theorem readByte_write_of_alias
    {space : AddressSpace}
    (sized : space.IsSized)
    {width : Width}
    {address other : UInt32}
    (aligned : width.aligned address = true)
    (writable : IsWritable address)
    {lane : Nat}
    (inside : lane < width.bytes)
    (same : storedAt? other = storedAt? (address + UInt32.ofNat lane))
    (value : UInt32) :
    (space.write width address value).readByte other = laneByte value lane := by
  obtain ⟨place, found, notRom⟩ := writable
  have atLane : storedAt? other = some (place.advance lane) := by
    rw [same, storedAt?_add aligned inside, found]
    rfl
  rw [readByte_of_storedAt? atLane]
  exact byteAt_write_self sized aligned found notRom inside value

/-- A write does not show anywhere else. -/
theorem readByte_write_of_apart
    (space : AddressSpace)
    {width : Width}
    {address other : UInt32}
    (aligned : width.aligned address = true)
    (apart :
      ∀ lane, lane < width.bytes →
        storedAt? other ≠ storedAt? (address + UInt32.ofNat lane))
    (value : UInt32) :
    (space.write width address value).readByte other = space.readByte other := by
  by_cases writable : IsWritable address
  · obtain ⟨place, found, notRom⟩ := writable
    cases otherFound : storedAt? other with
    | none => rw [readByte_of_notStored otherFound, readByte_of_notStored otherFound]
    | some otherPlace =>
        rw [readByte_of_storedAt? otherFound, readByte_of_storedAt? otherFound]
        apply byteAt_write_of_apart space aligned found notRom
        intro lane inside same
        apply apart lane inside
        rw [storedAt?_add aligned inside, found, otherFound, same]
        rfl
  · rw [write_of_notWritable aligned writable]

/-- Two addresses see the same byte exactly when there is one place behind both. -/
theorem seesWrites_iff
    {space : AddressSpace}
    (sized : space.IsSized)
    {first second : UInt32}
    (writable : IsWritable first) :
    (∀ value, (space.write .byte first value).readByte second = value.toUInt8) ↔
      storedAt? second = storedAt? first := by
  have only (lane : Nat) (inside : lane < Width.byte.bytes) :
      first + UInt32.ofNat lane = first := by
    rw [Nat.lt_one_iff.mp inside]
    exact UInt32.add_zero first
  constructor
  · intro sees
    by_cases same : storedAt? second = storedAt? first
    · exact same
    · have unseen (value : UInt32) :
          (space.write .byte first value).readByte second = space.readByte second := by
        apply readByte_write_of_apart space rfl
        intro lane inside
        rwa [only lane inside]
      have collide : UInt32.toUInt8 0 = UInt32.toUInt8 1 := by
        rw [← sees 0, ← sees 1, unseen, unseen]
      exact absurd collide (by decide)
  · intro same value
    have shown : (space.write .byte first value).readByte second = laneByte value 0 :=
      readByte_write_of_alias sized rfl writable (Nat.lt_succ_self 0)
        (same.trans (congrArg storedAt? (only 0 (Nat.lt_succ_self 0)).symm)) value
    rw [shown, laneByte_zero]

end AddressSpace

/-- RAM is shown by the lowest 8 MB of each segment. -/
def InRam (address : UInt32) : Prop :=
  ∃ physical, physical? address = some physical ∧ physical < 0x800000

/-- An address of RAM is stored modulo two megabytes. -/
theorem storedAt?_of_inRam
    {address : UInt32}
    (inRam : InRam address) :
    storedAt? address = some ⟨.ram, address.toNat % 0x200000⟩ := by
  obtain ⟨physical, found, low⟩ := inRam
  have same : address.toNat % 0x20000000 = physical := by
    unfold physical? at found
    split at found
    · exact Option.some.inj found
    · cases found
  unfold storedAt?
  rw [found]
  change placeOfPhysical? physical = _
  unfold placeOfPhysical?
  rw [if_pos low]
  exact congrArg (fun offset => some (Place.mk .ram offset)) (by omega)

/-- The start of a segment is added above the address. -/
theorem toNat_add_segment
    {address start : UInt32}
    (isStart : start = 0x80000000 ∨ start = 0xA0000000)
    (low : address.toNat < 0x20000000) :
    (address + start).toNat = address.toNat + 0x80000000 ∨
      (address + start).toNat = address.toNat + 0xA0000000 := by
  rw [UInt32.toNat_add]
  rcases isStart with rfl | rfl
  · exact .inl (Nat.mod_eq_of_lt (show address.toNat + 0x80000000 < 2 ^ 32 by omega))
  · exact .inr (Nat.mod_eq_of_lt (show address.toNat + 0xA0000000 < 2 ^ 32 by omega))

/-- The segments show the same memory. -/
theorem place?_segment
    {width : Width}
    {address start : UInt32}
    (isStart : start = 0x80000000 ∨ start = 0xA0000000)
    (low : address.toNat < 0x20000000)
    (aligned : width.aligned address = true) :
    place? (address + start) width.bytes = place? address width.bytes := by
  have moved := toNat_add_segment isStart low
  have multiple := (aligned_iff width address).mp aligned
  have movedAligned : width.aligned (address + start) = true := by
    rw [aligned_iff]
    cases width <;> simp only [Width.bytes] at multiple ⊢ <;> omega
  have samePhysical : physical? (address + start) = physical? address := by
    unfold physical?
    rw [if_pos (by omega), if_pos (.inl low)]
    exact congrArg some (by omega)
  rw [place?_eq_storedAt? aligned, place?_eq_storedAt? movedAligned, storedAt?, samePhysical]
  rfl

/-! ## Runs -/

/-- One access of the processor. -/
inductive MemoryAccess where
  | read (width : Width) (address : UInt32)
  | write (width : Width) (address value : UInt32)

namespace AddressSpace

/-- The memory after an access. -/
def after (space : AddressSpace) : MemoryAccess → AddressSpace
  | .read _ _ => space
  | .write width address value => space.write width address value

/-- The memory after a run. -/
def afterAll (space : AddressSpace) (accesses : List MemoryAccess) : AddressSpace :=
  accesses.foldl after space

/-- Whatever is read and written, every region keeps its size. -/
theorem IsSized.afterAll
    {space : AddressSpace}
    (sized : space.IsSized)
    (accesses : List MemoryAccess) :
    (space.afterAll accesses).IsSized := by
  induction accesses generalizing space with
  | nil => exact sized
  | cons access rest inductionHypothesis =>
      cases access with
      | read width address => exact inductionHypothesis sized
      | write width address value => exact inductionHypothesis (sized.write width address value)

/-- The space behaves as a mirrored memory of bytes. -/
structure IsMirrored (space : AddressSpace) : Prop where
  reads_join :
    ∀ {width : Width} {address : UInt32},
      width.aligned address = true →
      (space.read width address).toNat =
        Nat.ofDigits 256
          ((List.range width.bytes).map fun lane =>
            (space.readByte (address + UInt32.ofNat lane)).toNat)
  writes_show :
    ∀ {width : Width} {address other : UInt32} {lane : Nat},
      width.aligned address = true →
      IsWritable address →
      lane < width.bytes →
      storedAt? other = storedAt? (address + UInt32.ofNat lane) →
      ∀ value, (space.write width address value).readByte other = laneByte value lane
  writes_spare :
    ∀ {width : Width} {address other : UInt32},
      width.aligned address = true →
      (∀ lane, lane < width.bytes → storedAt? other ≠ storedAt? (address + UInt32.ofNat lane)) →
      ∀ value, (space.write width address value).readByte other = space.readByte other
  writes_drop :
    ∀ {width : Width} {address : UInt32},
      width.aligned address = true →
      ¬ IsWritable address →
      ∀ value, space.write width address value = space
  unmapped_reads :
    ∀ {width : Width} {address : UInt32},
      width.aligned address = true →
      storedAt? address = none →
      space.read width address = 0
  ram_mirrors :
    ∀ {first second : UInt32},
      InRam first →
      InRam second →
      ((∀ value, (space.write .byte first value).readByte second = value.toUInt8) ↔
        first.toNat % 0x200000 = second.toNat % 0x200000)
  segments_share :
    ∀ {width : Width} {address start : UInt32},
      address.toNat < 0x20000000 →
      start = 0x80000000 ∨ start = 0xA0000000 →
      width.aligned address = true →
      space.read width (address + start) = space.read width address ∧
        ∀ value, space.write width (address + start) value = space.write width address value

/-- A space with all of its bytes is mirrored. -/
theorem IsSized.isMirrored
    {space : AddressSpace}
    (sized : space.IsSized) :
    space.IsMirrored where
  reads_join aligned := toNat_read space aligned
  writes_show aligned writable inside same value :=
    readByte_write_of_alias sized aligned writable inside same value
  writes_spare aligned apart value := readByte_write_of_apart space aligned apart value
  writes_drop aligned dropped value := write_of_notWritable aligned dropped space value
  unmapped_reads aligned notStored := by
    simp only [read, place?_eq_storedAt? aligned, notStored]
  ram_mirrors inRam otherInRam := by
    have found := storedAt?_of_inRam inRam
    rw [seesWrites_iff sized ⟨_, found, nofun⟩, storedAt?_of_inRam otherInRam, found]
    simp only [Option.some.injEq, Place.mk.injEq, true_and]
    exact eq_comm
  segments_share low isStart aligned := by
    have same := place?_segment isStart low aligned
    refine ⟨?_, fun value => ?_⟩
    · rw [AddressSpace.read, AddressSpace.read, same]
    · rw [AddressSpace.write, AddressSpace.write, same]

/--
After any reads and writes, at any widths and through any segments, memory is mirrored:
words are joined from bytes, a store reaches the bytes of its width and no others, two
addresses see each other's stores exactly if they stand for the same place, and what has
no place is dropped.
-/
theorem isMirrored_afterAll
    {space : AddressSpace}
    (sized : space.IsSized)
    (accesses : List MemoryAccess) :
    (space.afterAll accesses).IsMirrored :=
  (sized.afterAll accesses).isMirrored

/--
A word stored through one segment and a byte through another, in a third mirror of RAM.
-/
theorem isMirrored_afterWordStore :
    AddressSpace.blank.setUp.IsSized ∧
      let reached := AddressSpace.blank.setUp.afterAll
        [.write .word 0x80000010 0x12345678, .read .half 0x00200012]
      reached.IsMirrored ∧
        (reached.write .byte 0xA0600011 0xFF).readByte 0x00200011 = 0xFF := by
  have sized := isSized_blank.setUp
  have mirrored := isMirrored_afterAll sized
    [.write .word 0x80000010 0x12345678, .read .half 0x00200012]
  have inRam : IsWritable 0xA0600011 := ⟨⟨.ram, 0x11⟩, by decide, by decide⟩
  have sameByte : storedAt? 0x00200011 = storedAt? (0xA0600011 + UInt32.ofNat 0) := by decide
  have oneByte : 0 < Width.byte.bytes := by decide
  exact ⟨sized, mirrored, mirrored.writes_show rfl inRam oneByte sameByte 0xFF⟩

end AddressSpace

end PsxPlayer
