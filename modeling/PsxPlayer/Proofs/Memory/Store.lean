import PsxPlayer.Proofs.Memory.Lane
import PsxPlayer.Proofs.Memory.Load
import PsxPlayer.Proofs.Memory.Program

namespace PsxPlayer

/-!
# Blocks in RAM

The bytes of a block are stored one after the other.  Where no two of them share a place, the block
then holds all of them, and every other byte of memory is as it was.  A copy that reads each byte
just before it stores it leaves what a copy through a buffer leaves, as long as it stores no byte
in a place that it has still to read.
-/

/-- Two offsets from an address add up. -/
theorem add_ofNat_add_ofNat (address : UInt32) (first second : Nat) :
    address + UInt32.ofNat first + UInt32.ofNat second =
      address + UInt32.ofNat (first + second) := by
  rw [UInt32.add_assoc, UInt32.ofNat_add]

/-- A step of one and some more are a step of one more. -/
theorem add_one_add_ofNat (address : UInt32) (index : Nat) :
    address + 1 + UInt32.ofNat index = address + UInt32.ofNat (index + 1) := by
  rw [Nat.add_comm index 1]
  exact add_ofNat_add_ofNat address 1 index

/-- A step of a word and some more words are a step of one word more. -/
theorem add_four_add_ofNat (address : UInt32) (index : Nat) :
    address + 4 + UInt32.ofNat (4 * index) = address + UInt32.ofNat (4 * (index + 1)) := by
  rw [Nat.mul_succ, Nat.add_comm (4 * index) 4]
  exact add_ofNat_add_ofNat address 4 (4 * index)

@[simp]
theorem add_ofNat_zero (address : UInt32) : address + UInt32.ofNat 0 = address :=
  UInt32.add_zero address

/-! ## Lists of bytes -/

theorem toList_loop (bytes : ByteArray) (first : Nat) (gathered : List UInt8) :
    ByteArray.toList.loop bytes first gathered =
      gathered.reverse ++ bytes.data.toList.drop first := by
  fun_induction ByteArray.toList.loop bytes first gathered with
  | case1 first gathered more inductionHypothesis =>
      have inside : first < bytes.data.toList.length := more
      have here : bytes.get! first = bytes.data.toList[first] := getElem!_pos bytes.data first more
      rw [inductionHypothesis, List.drop_eq_getElem_cons inside, here, List.reverse_cons,
        List.append_assoc, List.singleton_append]
  | case2 first gathered done =>
      have behind : bytes.data.toList.length ≤ first := Nat.le_of_not_lt done
      rw [List.drop_eq_nil_of_le behind, List.append_nil]

/-- The bytes of an array in order are its list. -/
theorem toList_eq (bytes : ByteArray) : bytes.toList = bytes.data.toList :=
  toList_loop bytes 0 []

/-- A byte that is pushed stands at the end. -/
@[simp]
theorem toList_push (bytes : ByteArray) (byte : UInt8) :
    (bytes.push byte).toList = bytes.toList ++ [byte] := by
  rw [toList_eq, toList_eq]
  exact Array.toList_push

/-! ## Places -/

/--
Some bytes from an address on lie in RAM, also across the end of an image, and no two of them
share a place.
-/
structure StaysInRam (address : UInt32) (length : Nat) : Prop where
  inRam : ∀ index, index < length → InRam (address + UInt32.ofNat index)
  fits : length ≤ 0x200000

/-- Some bytes from an address on lie side by side in one image of RAM. -/
def LiesInRam (address : UInt32) (length : Nat) : Prop :=
  length = 0 ∨ InRam address ∧ address.toNat % 0x200000 + length ≤ 0x200000

section

variable {address : UInt32} {length index : Nat}

/-- RAM goes on up to the end of its last image. -/
theorem InRam.add_of_lt
    (inRam : InRam address)
    (room : address.toNat % 0x20000000 + index < 0x800000) :
    InRam (address + UInt32.ofNat index) := by
  obtain ⟨physical, found, low⟩ := inRam
  have small := address.toNat_lt
  simp only [physical?, Option.ite_none_right_eq_some, Option.some.injEq] at found
  have moved : (address + UInt32.ofNat index).toNat = address.toNat + index := by
    rw [UInt32.toNat_add, UInt32.toNat_ofNat']
    omega
  refine ⟨physical + index, ?_, by omega⟩
  rw [physical?, moved, if_pos (by omega)]
  exact congrArg some (by omega)

namespace StaysInRam

/-- A block that stays in RAM lies there byte by byte, modulo its size. -/
theorem storedAt?_eq
    (stays : StaysInRam address length)
    (inside : index < length) :
    storedAt? (address + UInt32.ofNat index) =
      some ⟨.ram, (address.toNat + index) % 0x200000⟩ := by
  have fits := stays.fits
  rw [storedAt?_of_inRam (stays.inRam index inside), UInt32.toNat_add, UInt32.toNat_ofNat']
  exact congrArg (fun offset => some (Place.mk .ram offset)) (by omega)

/-- No device stands in a block that stays in RAM. -/
theorem noPort
    (stays : StaysInRam address length)
    (inside : index < length) :
    port? (address + UInt32.ofNat index) = none :=
  (stays.inRam index inside).noPort

/-- Every byte of a block that stays in RAM may be written. -/
theorem isWritable
    (stays : StaysInRam address length)
    (inside : index < length) :
    AddressSpace.IsWritable (address + UInt32.ofNat index) :=
  ⟨_, stays.storedAt?_eq inside, nofun⟩

/-- No two bytes share a place. -/
theorem eq_of_alias
    (stays : StaysInRam address length)
    {other : Nat}
    (inside : index < length)
    (otherInside : other < length)
    (same :
      storedAt? (address + UInt32.ofNat index) = storedAt? (address + UInt32.ofNat other)) :
    index = other := by
  have fits := stays.fits
  rw [stays.storedAt?_eq inside, stays.storedAt?_eq otherInside, Option.some.injEq,
    Place.mk.injEq] at same
  omega

/-- Without its first byte a block still stays in RAM. -/
theorem tail
    (stays : StaysInRam address (length + 1)) :
    StaysInRam (address + 1) length where
  inRam index inside := by
    rw [add_one_add_ofNat]
    exact stays.inRam (index + 1) (Nat.succ_lt_succ inside)
  fits := Nat.le_of_succ_le stays.fits

end StaysInRam

namespace LiesInRam

/-- Every byte of a block of RAM is in RAM. -/
theorem inRam
    (lies : LiesInRam address length)
    (inside : index < length) :
    InRam (address + UInt32.ofNat index) := by
  obtain rfl | ⟨start, room⟩ := lies
  · cases inside
  · obtain ⟨physical, found, low⟩ := id start
    simp only [physical?, Option.ite_none_right_eq_some, Option.some.injEq] at found
    exact start.add_of_lt (by omega)

/-- The places of the bytes follow one another. -/
theorem storedAt?_eq
    (lies : LiesInRam address length)
    (inside : index < length) :
    storedAt? (address + UInt32.ofNat index) =
      some ⟨.ram, address.toNat % 0x200000 + index⟩ := by
  rw [storedAt?_of_inRam (lies.inRam inside)]
  obtain rfl | ⟨-, room⟩ := lies
  · cases inside
  · have small := address.toNat_lt
    rw [UInt32.toNat_add, UInt32.toNat_ofNat']
    exact congrArg (fun offset => some (Place.mk .ram offset)) (by omega)

/-- A block of RAM stays in it. -/
theorem staysInRam
    (lies : LiesInRam address length) :
    StaysInRam address length where
  inRam _ inside := lies.inRam inside
  fits := by
    rcases lies with nothing | ⟨-, room⟩
    · exact nothing.trans_le (Nat.zero_le _)
    · exact (Nat.le_add_left _ _).trans room

/-- No device stands in a block of RAM. -/
theorem noPort
    (lies : LiesInRam address length)
    (inside : index < length) :
    port? (address + UInt32.ofNat index) = none :=
  (lies.inRam inside).noPort

/-- A part of the bytes lies side by side as well. -/
theorem slice
    (lies : LiesInRam address length)
    {first count : Nat}
    (inside : first + count ≤ length) :
    LiesInRam (address + UInt32.ofNat first) count := by
  by_cases nothing : count = 0
  · exact .inl nothing
  · have within : first < length := by omega
    have place := lies.storedAt?_eq within
    rw [storedAt?_of_inRam (lies.inRam within), Option.some.injEq, Place.mk.injEq] at place
    obtain none | ⟨-, room⟩ := id lies
    · omega
    · exact .inr ⟨lies.inRam within, by omega⟩

/-- Four bytes side by side are a word of RAM. -/
theorem ramWord?_eq
    (lies : LiesInRam address 4) :
    ramWord? address = some (address.toNat % 0x200000) := by
  have first := lies.storedAt?_eq (show 0 < 4 by decide)
  rw [add_ofNat_zero, storedAt?_eq_place?, place?_eq, Option.ite_none_right_eq_some,
    Option.some.injEq] at first
  obtain ⟨⟨mapped, -⟩, same⟩ := first
  obtain ⟨isRam, isThere⟩ := Place.mk.inj same
  have room : address.toNat % 0x200000 + 4 ≤ Region.ram.size := by
    obtain none | ⟨-, room⟩ := lies
    · cases none
    · exact room
  have placed : place? address 4 = some ⟨.ram, address.toNat % 0x200000⟩ := by
    rw [place?_eq, same, isThere, isRam, if_pos ⟨nofun, room⟩]
    rfl
  rw [ramWord?, placed]

end LiesInRam

end

namespace AddressSpace

/-! ## Stores -/

/-- Store some bytes from an address on. -/
def storeBytes (space : AddressSpace) (address : UInt32) : List UInt8 → AddressSpace
  | [] => space
  | byte :: rest => (space.write .byte address byte.toUInt32).storeBytes (address + 1) rest

/-- The bytes from an address on. -/
def bytesFrom (space : AddressSpace) (address : UInt32) (length : Nat) : List UInt8 :=
  (List.range length).map fun index => space.readByte (address + UInt32.ofNat index)

section

variable {space : AddressSpace} {address other : UInt32}

/-- Storing bytes keeps every region's size. -/
theorem IsSized.storeBytes
    (sized : space.IsSized)
    (address : UInt32)
    (bytes : List UInt8) :
    (space.storeBytes address bytes).IsSized := by
  induction bytes generalizing space address with
  | nil => exact sized
  | cons byte rest inductionHypothesis => exact inductionHypothesis (sized.write .byte _ _) _

/-- A byte that is stored shows wherever its place does. -/
theorem readByte_writeByte_of_alias
    (sized : space.IsSized)
    (writable : IsWritable address)
    (same : storedAt? other = storedAt? address)
    (byte : UInt8) :
    (space.write .byte address byte.toUInt32).readByte other = byte := by
  rw [(seesWrites_iff sized writable).mpr same]
  exact byte.toUInt8_toUInt32

/-- A byte that is stored shows nowhere else. -/
theorem readByte_writeByte_of_apart
    (space : AddressSpace)
    (apart : storedAt? other ≠ storedAt? address)
    (value : UInt32) :
    (space.write .byte address value).readByte other = space.readByte other := by
  refine space.readByte_write_of_apart rfl (fun lane inside => ?_) value
  rwa [Nat.lt_one_iff.mp inside, add_ofNat_zero]

/-- A block that is stored does not show elsewhere. -/
theorem readByte_storeBytes_of_apart
    {bytes : List UInt8}
    (apart :
      ∀ index, index < bytes.length → storedAt? other ≠ storedAt? (address + UInt32.ofNat index)) :
    (space.storeBytes address bytes).readByte other = space.readByte other := by
  induction bytes generalizing space address with
  | nil => rfl
  | cons byte rest inductionHypothesis =>
      have here := apart 0 (Nat.zero_lt_succ _)
      rw [add_ofNat_zero] at here
      rw [storeBytes, inductionHypothesis, readByte_writeByte_of_apart space here]
      intro index inside
      rw [add_one_add_ofNat]
      exact apart (index + 1) (Nat.succ_lt_succ inside)

/-- Each byte of a block that is stored shows wherever its place does. -/
theorem readByte_storeBytes_of_stays
    (sized : space.IsSized)
    {bytes : List UInt8}
    (stays : StaysInRam address bytes.length)
    {index : Nat}
    (inside : index < bytes.length)
    (same : storedAt? other = storedAt? (address + UInt32.ofNat index)) :
    (space.storeBytes address bytes).readByte other = bytes[index] := by
  induction bytes generalizing space address index with
  | nil => cases inside
  | cons byte rest inductionHypothesis =>
      rw [storeBytes]
      cases index with
      | zero =>
          rw [readByte_storeBytes_of_apart]
          · have writable := stays.isWritable inside
            rw [add_ofNat_zero] at same writable
            exact readByte_writeByte_of_alias sized writable same byte
          · -- the bytes behind the first one have places of their own
            intro later behind again
            rw [add_one_add_ofNat, same] at again
            cases stays.eq_of_alias inside (Nat.succ_lt_succ behind) again
      | succ index =>
          rw [← add_one_add_ofNat] at same
          exact
            inductionHypothesis (sized.write .byte _ _) stays.tail (Nat.lt_of_succ_lt_succ inside)
              same

/-- A byte that was stored is read under each of its names. -/
theorem readByte_storeBytes_of_alias
    (sized : space.IsSized)
    {bytes : List UInt8}
    (lies : LiesInRam address bytes.length)
    {index : Nat}
    (inside : index < bytes.length)
    (same : storedAt? other = storedAt? (address + UInt32.ofNat index)) :
    (space.storeBytes address bytes).readByte other = bytes[index] :=
  readByte_storeBytes_of_stays sized lies.staysInRam inside same

/-! ## Copies -/

/-- As many bytes are taken as are asked for. -/
@[simp]
theorem length_bytesFrom (space : AddressSpace) (address : UInt32) (length : Nat) :
    (space.bytesFrom address length).length = length := by
  rw [bytesFrom, List.length_map, List.length_range]

/-- Each byte taken is the one at its address. -/
@[simp]
theorem getElem_bytesFrom
    {length index : Nat}
    (inside : index < (space.bytesFrom address length).length) :
    (space.bytesFrom address length)[index] = space.readByte (address + UInt32.ofNat index) := by
  simp only [bytesFrom, List.getElem_map, List.getElem_range]

/-- The first byte is followed by those from the next address on. -/
theorem bytesFrom_succ (space : AddressSpace) (address : UInt32) (length : Nat) :
    space.bytesFrom address (length + 1) =
      space.readByte address :: space.bytesFrom (address + 1) length := by
  simp only [bytesFrom, List.range_succ_eq_map, List.map_cons, List.map_map, add_ofNat_zero,
    add_one_add_ofNat]
  rfl

/-- Copy bytes upwards, each of them as it is when its turn comes. -/
def copyUpwards (space : AddressSpace) (target source : UInt32) : Nat → AddressSpace
  | 0 => space
  | count + 1 =>
      (space.write .byte target (space.read .byte source)).copyUpwards (target + 1) (source + 1)
        count

/-- A byte is stored as it has been read. -/
theorem write_readByte (space : AddressSpace) (target source : UInt32) :
    space.write .byte target (space.read .byte source) =
      space.write .byte target (space.readByte source).toUInt32 := by
  have same (bytes : ByteArray) (offset : Nat) (value : UInt32) :
      setLittle bytes offset value .byte = setLittle bytes offset value.toUInt8.toUInt32 .byte := by
    rw [setLittle, setLittle, UInt8.toUInt8_toUInt32]
  simp only [write, readByte, ← same]

/--
A copy upwards is one through a buffer if no byte is stored in a place that has still to be read.
-/
theorem copyUpwards_eq_storeBytes
    {target source : UInt32}
    {count : Nat}
    (unread :
      ∀ stored read,
        stored < read →
        read < count →
        storedAt? (source + UInt32.ofNat read) ≠ storedAt? (target + UInt32.ofNat stored)) :
    space.copyUpwards target source count =
      space.storeBytes target (space.bytesFrom source count) := by
  induction count generalizing space target source with
  | zero => rfl
  | succ count inductionHypothesis =>
      have kept :
          (space.write .byte target (space.readByte source).toUInt32).bytesFrom (source + 1)
              count =
            space.bytesFrom (source + 1) count := by
        refine List.map_congr_left fun index member => ?_
        have later := unread 0 (index + 1) (Nat.zero_lt_succ _)
          (Nat.succ_lt_succ (List.mem_range.mp member))
        rw [add_ofNat_zero, ← add_one_add_ofNat] at later
        exact readByte_writeByte_of_apart space later _
      rw [copyUpwards, write_readByte, inductionHypothesis, kept, bytesFrom_succ, storeBytes]
      intro stored read before inside
      rw [add_one_add_ofNat, add_one_add_ofNat]
      exact unread (stored + 1) (read + 1) (Nat.succ_lt_succ before) (Nat.succ_lt_succ inside)

/--
In RAM no byte is lost if the block moves down, or so far up that the target lies behind the
source.
-/
theorem copyUpwards_inRam
    {target source : UInt32}
    {count : Nat}
    (targetLies : LiesInRam target count)
    (sourceLies : LiesInRam source count)
    (isClear :
      target.toNat % 0x200000 ≤ source.toNat % 0x200000 ∨
        source.toNat % 0x200000 + count ≤ target.toNat % 0x200000) :
    space.copyUpwards target source count =
      space.storeBytes target (space.bytesFrom source count) := by
  refine copyUpwards_eq_storeBytes fun stored read before inside => ?_
  rw [sourceLies.storedAt?_eq inside, targetLies.storedAt?_eq (Nat.lt_trans before inside),
    Ne, Option.some.injEq, Place.mk.injEq]
  omega

/-! ## Words -/

/-- A word of RAM is known by its bytes. -/
theorem read_word_congr
    {first second : AddressSpace}
    (lies : LiesInRam address 4)
    (same :
      ∀ lane,
        lane < 4 →
        first.readByte (address + UInt32.ofNat lane) =
          second.readByte (address + UInt32.ofNat lane)) :
    first.read .word address = second.read .word address := by
  rw [read_of_ramWord? lies.ramWord?_eq, read_of_ramWord? lies.ramWord?_eq]
  refine getLittle_congr fun index above below => ?_
  have lane : index - address.toNat % 0x200000 < 4 := by
    simp only [Width.bytes] at below
    omega
  have agree := same _ lane
  rw [readByte_of_storedAt? (lies.storedAt?_eq lane),
    readByte_of_storedAt? (lies.storedAt?_eq lane), Nat.add_sub_of_le above] at agree
  exact agree

end

end AddressSpace

/-- Where there is no device a byte is read from memory. -/
theorem Bus.readByte_of_noPort
    {bus : Bus}
    {address : UInt32}
    (noPort : port? address = none) :
    bus.readByte address = bus.memory.readByte address :=
  congrArg UInt32.toUInt8 (Bus.read_of_noPort noPort .byte)

end PsxPlayer
