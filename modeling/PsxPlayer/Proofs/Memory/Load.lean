import Mathlib.Data.List.Basic
import PsxPlayer.Proofs.Memory.Copy

namespace PsxPlayer

/-!
# Loads of blocks

A load stores a block page by page, and the run of bytes that falls into a page only if storage
backs all of it.  Storage backs the hardware page in part.  A load is therefore the same as loads
of its single bytes, but for a run that goes on past the end of that storage: of such a run the
bytes that have storage are cut off with those that have none.
-/

/-! ## Runs inside of a page -/

theorem roomInPage_eq (address : UInt32) :
    AddressSpace.roomInPage address = 0x10000 - address.toNat % 0x10000 := by
  rw [AddressSpace.roomInPage, toNat_inPage]

/-- Inside of a page, addresses do not wrap. -/
theorem toNat_add_inPage
    {address : UInt32}
    {index : Nat}
    (inPage : index < AddressSpace.roomInPage address) :
    (address + UInt32.ofNat index).toNat = address.toNat + index := by
  have bound := address.toNat_lt
  rw [roomInPage_eq] at inPage
  rw [UInt32.toNat_add, UInt32.toNat_ofNat']
  omega

/-- Storage backs every page as a whole, except for the hardware page. -/
theorem placeOfPage_covers (page : Nat) :
    (placeOfPage page).region = .unmapped ∨
      placeOfPage page = ⟨.hardware, 0⟩ ∨
      (placeOfPage page).region ≠ .hardware ∧
        (placeOfPage page).offset + 0x10000 ≤ (placeOfPage page).region.size := by
  unfold placeOfPage placeOfPhysicalPage
  split
  · next inner _ =>
      split
      · exact .inr (.inr ⟨nofun, show inner % 0x20 * 0x10000 + 0x10000 ≤ 0x200000 by omega⟩)
      split
      · exact .inr (.inr ⟨nofun, Nat.le_refl _⟩)
      split
      · exact .inr (.inl rfl)
      split
      · exact .inr (.inr ⟨nofun, show (inner - 0x1FC0) * 0x10000 + 0x10000 ≤ 0x80000 by omega⟩)
      · exact .inl rfl
  · exact .inl rfl

/-- Where an access of any size starts, when storage backs all of it. -/
theorem place?_eq (address : UInt32) (size : Nat) :
    place? address size =
      if (placeOfPage (address.toNat / 0x10000)).region ≠ .unmapped ∧
          (placeOfPage (address.toNat / 0x10000)).offset + address.toNat % 0x10000 + size ≤
            (placeOfPage (address.toNat / 0x10000)).region.size then
        some ((placeOfPage (address.toNat / 0x10000)).advance (address.toNat % 0x10000))
      else
        none := by
  unfold place?
  rw [toNat_page, toNat_inPage]
  rfl

theorem storedAt?_eq_place? (address : UInt32) : storedAt? address = place? address 1 :=
  (place?_eq_storedAt? (show Width.byte.aligned address = true from rfl)).symm

/-- Within a page places lie side by side. -/
theorem storedAt?_inPage
    {address : UInt32}
    {index : Nat}
    (inPage : index < AddressSpace.roomInPage address) :
    storedAt? (address + UInt32.ofNat index) =
      (place? address (index + 1)).map fun place => place.advance index := by
  have moved := toNat_add_inPage inPage
  rw [roomInPage_eq] at inPage
  have samePage : (address.toNat + index) / 0x10000 = address.toNat / 0x10000 := by omega
  have onward :
      (address.toNat + index) % 0x10000 = address.toNat % 0x10000 + index := by omega
  rw [storedAt?_eq_place?, place?_eq, place?_eq, moved, samePage, onward]
  simp only [Place.advance, ← Nat.add_assoc, apply_ite (Option.map _), Option.map_some,
    Option.map_none]

/-- An access that storage backs is one whose every part storage backs. -/
theorem place?_of_le
    {address : UInt32}
    {shorter longer : Nat}
    {place : Place}
    (le : shorter ≤ longer)
    (found : place? address longer = some place) :
    place? address shorter = some place := by
  rw [place?_eq, Option.ite_none_right_eq_some] at found ⊢
  exact ⟨⟨found.1.1, by omega⟩, found.2⟩

/-- Storage that backs an access starts no earlier than the address lies in its page. -/
theorem inside_of_place?
    {address : UInt32}
    {size : Nat}
    {place : Place}
    (found : place? address size = some place) :
    address.toNat % 0x10000 ≤ place.offset ∧ place.offset + size ≤ place.region.size := by
  rw [place?_eq, Option.ite_none_right_eq_some] at found
  obtain ⟨⟨-, inside⟩, same⟩ := found
  cases same
  exact ⟨Nat.le_add_left _ _, inside⟩

/-- Only the end of the hardware page's storage cuts a run off. -/
theorem place?_eq_none
    {address : UInt32}
    {shorter longer : Nat}
    {place : Place}
    (inPage : longer ≤ AddressSpace.roomInPage address)
    (notFound : place? address longer = none)
    (found : place? address shorter = some place) :
    place.region = .hardware ∧ Region.hardware.size < place.offset + longer := by
  rw [roomInPage_eq] at inPage
  rw [place?_eq, Option.ite_none_right_eq_some] at found
  obtain ⟨⟨mapped, -⟩, same⟩ := found
  cases same
  rw [place?_eq] at notFound
  rcases placeOfPage_covers (address.toNat / 0x10000) with unmapped | hardware | ⟨-, covered⟩
  · exact absurd unmapped mapped
  · rw [hardware] at notFound ⊢
    refine ⟨rfl, Nat.lt_of_not_le fun inside => ?_⟩
    rw [if_pos ⟨nofun, inside⟩] at notFound
    cases notFound
  · rw [if_pos ⟨mapped, by omega⟩] at notFound
    cases notFound

/-! ## Loads of single bytes -/

namespace AddressSpace

/-- Load some bytes of a block one after the other, each to its own address. -/
def loadBytes
    (space : AddressSpace)
    (address : UInt32)
    (data : ByteArray)
    (indices : List Nat) :
    AddressSpace :=
  indices.foldl
    (fun space index => space.load (address + UInt32.ofNat index) ⟨#[data.get! index]⟩) space

/--
Whether a byte of a block of `size` bytes is cut off: it has storage in the hardware page, and the
block goes on past the end of that storage.
-/
def isCutOff (address : UInt32) (size index : Nat) : Bool :=
  match storedAt? (address + UInt32.ofNat index) with
  | some ⟨.hardware, offset⟩ => Region.hardware.size < offset + (size - index)
  | _ => false

/-- Whether a byte is not cut off. -/
def isSpared (address : UInt32) (size index : Nat) : Bool :=
  !isCutOff address size index

/-- A byte is cut off if it lies in the hardware window and the data ends behind it. -/
theorem isCutOff_iff
    {address : UInt32}
    {size index : Nat} :
    isCutOff address size index = true ↔
      ∃ place,
        storedAt? (address + UInt32.ofNat index) = some place ∧
          place.region = .hardware ∧
          Region.hardware.size < place.offset + (size - index) := by
  unfold isCutOff
  split
  · next offset found => simp [found]
  · next notHardware =>
      refine iff_of_false nofun ?_
      rintro ⟨⟨region, offset⟩, found, rfl, -⟩
      exact notHardware offset found

section

variable {space : AddressSpace} {address : UInt32} {data : ByteArray}

/-- Bytes may be loaded in two parts. -/
@[simp]
theorem loadBytes_append (first second : List Nat) :
    space.loadBytes address data (first ++ second) =
      (space.loadBytes address data first).loadBytes address data second :=
  List.foldl_append

/-- A block of one byte is one run. -/
theorem load_single (byte : UInt8) :
    space.load address ⟨#[byte]⟩ = space.loadRun address ⟨#[byte]⟩ := by
  have size : (⟨#[byte]⟩ : ByteArray).size = 1 := rfl
  have length : min (roomInPage address) (1 - 0) = 1 :=
    Nat.min_eq_right (roomInPage_pos address)
  have whole : (⟨#[byte]⟩ : ByteArray).extract 0 (0 + 1) = ⟨#[byte]⟩ := rfl
  rw [load, loadFrom]
  dsimp only
  rw [size, if_pos Nat.zero_lt_one, length, whole, loadFrom, if_neg (by rw [size]; omega)]

/-- A single byte that has no place is dropped. -/
theorem load_single_of_notStored
    (notStored : storedAt? address = none)
    (byte : UInt8) :
    space.load address ⟨#[byte]⟩ = space := by
  have resolved : place? address (⟨#[byte]⟩ : ByteArray).size = none :=
    (storedAt?_eq_place? address).symm.trans notStored
  rw [load_single, loadRun, resolved]

/-- A single byte that has a place is written there. -/
theorem load_single_of_storedAt?
    {place : Place}
    (found : storedAt? address = some place)
    (byte : UInt8) :
    space.load address ⟨#[byte]⟩ =
      space.modifyStorage place.region fun bytes => overwrite bytes place.offset ⟨#[byte]⟩ := by
  have resolved : place? address (⟨#[byte]⟩ : ByteArray).size = some place :=
    (storedAt?_eq_place? address).symm.trans found
  rw [load_single, loadRun, resolved]

/-- Bytes without storage are dropped. -/
theorem loadBytes_of_notStored
    {indices : List Nat}
    (notStored : ∀ index ∈ indices, storedAt? (address + UInt32.ofNat index) = none) :
    space.loadBytes address data indices = space := by
  induction indices with
  | nil => rfl
  | cons index rest inductionHypothesis =>
      rw [loadBytes, List.foldl_cons, load_single_of_notStored (notStored index List.mem_cons_self)]
      exact inductionHypothesis fun later member => notStored later (List.mem_cons_of_mem _ member)

end

/-! ## Runs -/

/-- Two changes of a region are one. -/
theorem modifyStorage_modifyStorage
    (space : AddressSpace)
    (region : Region)
    (first second : ByteArray → ByteArray) :
    (space.modifyStorage region first).modifyStorage region second =
      space.modifyStorage region fun bytes => second (first bytes) := by
  cases region <;> rfl

/-- Changes that agree on what a region stores are the same. -/
theorem modifyStorage_congr
    {space : AddressSpace}
    {region : Region}
    {first second : ByteArray → ByteArray}
    (same : first (space.storage region) = second (space.storage region)) :
    space.modifyStorage region first = space.modifyStorage region second := by
  cases region with
  | unmapped => rfl
  | _ => simp only [modifyStorage, storage] at same ⊢; rw [same]

/-- A change of nothing changes nothing. -/
theorem modifyStorage_eq_self
    {space : AddressSpace}
    {region : Region}
    {change : ByteArray → ByteArray}
    (same : change (space.storage region) = space.storage region) :
    space.modifyStorage region change = space := by
  cases region with
  | unmapped => rfl
  | _ => simp only [modifyStorage, storage] at same ⊢; rw [same]

section

variable {space : AddressSpace} {address : UInt32} {data : ByteArray}

/-- Bytes that go to places side by side go in as one run. -/
theorem loadBytes_range'
    (sized : space.IsSized)
    {first length : Nat}
    {place : Place}
    (inData : first + length ≤ data.size)
    (inStorage : place.offset + length ≤ place.region.size)
    (found :
      ∀ index,
        index < length →
        storedAt? (address + UInt32.ofNat (first + index)) = some (place.advance index)) :
    space.loadBytes address data (List.range' first length) =
      space.modifyStorage place.region
        fun bytes => data.copySlice first bytes place.offset length := by
  have storageSize := sized place.region
  induction length with
  | zero =>
      have inTarget : place.offset ≤ (space.storage place.region).size := by omega
      exact (modifyStorage_eq_self (copySlice_zero (by omega) inTarget)).symm
  | succ length inductionHypothesis =>
      rw [List.range'_concat, loadBytes_append,
        inductionHypothesis (by omega) (by omega) fun index inside => found index (by omega),
        Nat.one_mul]
      change AddressSpace.load _ (address + UInt32.ofNat (first + length)) _ = _
      rw [load_single_of_storedAt? (found length (by omega))]
      change AddressSpace.modifyStorage _ place.region _ = _
      rw [modifyStorage_modifyStorage]
      apply modifyStorage_congr
      rw [← copySlice_copySlice inData (by omega)]
      refine copySlice_congr (by exact Nat.le_refl 1) inData ?_ fun lane inside => ?_
      · rw [size_copySlice (by omega) (by omega)]
        exact (show place.offset + length + 1 ≤ _ by omega)
      · obtain rfl := Nat.lt_one_iff.mp inside
        rfl

/-- Storage keeps its size if the change of one region does. -/
theorem IsSized.modifyStorage
    (sized : space.IsSized)
    {region : Region}
    {change : ByteArray → ByteArray}
    (sameSize : (change (space.storage region)).size = region.size) :
    (space.modifyStorage region change).IsSized := by
  intro other
  by_cases same : other = region
  · subst same
    cases other with
    | unmapped => rfl
    | _ => exact sameSize
  · rw [storage_modifyStorage_of_ne same]
    exact sized other

/-- Loading a run keeps every region's size. -/
theorem IsSized.loadRun
    (sized : space.IsSized)
    (address : UInt32)
    (run : ByteArray) :
    (space.loadRun address run).IsSized := by
  unfold AddressSpace.loadRun
  split
  · next region offset found =>
      have inside : offset + run.size ≤ region.size := (inside_of_place? found).2
      have storageSize := sized region
      apply sized.modifyStorage
      rw [overwrite, size_copySlice (by omega) (by omega), storageSize]
  · exact sized

/-- A byte of a page's run is stored where the run leads. -/
theorem storedAt?_inRun
    {first index : Nat}
    (inPage : index < roomInPage (address + UInt32.ofNat first)) :
    storedAt? (address + UInt32.ofNat (first + index)) =
      (place? (address + UInt32.ofNat first) (index + 1)).map
        fun place => place.advance index := by
  rw [UInt32.ofNat_add, ← UInt32.add_assoc, storedAt?_inPage inPage]

/-- A page's run of a block is stored as its bytes that are not cut off. -/
theorem loadRun_eq_loadBytes
    (sized : space.IsSized)
    {first length : Nat}
    (more : first < data.size)
    (isRun : length = min (roomInPage (address + UInt32.ofNat first)) (data.size - first)) :
    space.loadRun (address + UInt32.ofNat first) (data.extract first (first + length)) =
      space.loadBytes address data
        ((List.range' first length).filter (isSpared address data.size)) := by
  have inPage : length ≤ roomInPage (address + UInt32.ofNat first) := by omega
  have inData : first + length ≤ data.size := by omega
  have runSize : (data.extract first (first + length)).size = length := by
    rw [ByteArray.size_extract]
    omega
  unfold AddressSpace.loadRun
  rw [runSize]
  cases found : place? (address + UInt32.ofNat first) length with
  | none =>
      refine (loadBytes_of_notStored fun index member => ?_).symm
      obtain ⟨inRun, notCutOff⟩ := List.mem_filter.mp member
      obtain ⟨lane, inside, rfl⟩ := List.mem_range'.mp inRun
      rw [Nat.one_mul, storedAt?_inRun (by omega)]
      cases part : place? (address + UInt32.ofNat first) (lane + 1) with
      | none => rfl
      | some place =>
          obtain ⟨hardware, beyond⟩ := place?_eq_none inPage found part
          have cutOff : isCutOff address data.size (first + 1 * lane) = true := by
            refine isCutOff_iff.mpr ⟨place.advance lane, ?_, hardware, ?_⟩
            · rw [Nat.one_mul, storedAt?_inRun (by omega), part]
              rfl
            · simp only [Place.advance]
              omega
          rw [isSpared, cutOff] at notCutOff
          cases notCutOff
  | some place =>
      obtain ⟨start, inStorage⟩ := inside_of_place? found
      have stored (lane : Nat) (inside : lane < length) :
          storedAt? (address + UInt32.ofNat (first + lane)) = some (place.advance lane) := by
        rw [storedAt?_inRun (by omega), place?_of_le (by omega) found]
        rfl
      have allSpared (index : Nat) (member : index ∈ List.range' first length) :
          isSpared address data.size index = true := by
        obtain ⟨lane, inside, rfl⟩ := List.mem_range'.mp member
        rw [Nat.one_mul, isSpared, Bool.not_eq_true', ← Bool.not_eq_true, isCutOff_iff]
        rintro ⟨other, otherFound, hardware, beyond⟩
        obtain rfl := Option.some.inj (otherFound.symm.trans (stored lane inside))
        -- The window ends inside of its page, so a run that it backs ends the block.
        have window : place.region.size = 0x3000 := congrArg Region.size hardware
        have sameWindow : Region.hardware.size = 0x3000 := rfl
        rw [roomInPage_eq] at isRun
        simp only [Place.advance] at beyond
        omega
      rw [List.filter_eq_self.mpr allSpared, loadBytes_range' sized inData inStorage stored]
      apply modifyStorage_congr
      have storageSize := sized place.region
      exact overwrite_extract inData (by omega)

/-- From any byte on, loading writes the bytes that are spared. -/
theorem loadFrom_eq_loadBytes
    (sized : space.IsSized)
    (first : Nat) :
    space.loadFrom (address + UInt32.ofNat first) data first =
      space.loadBytes address data
        ((List.range' first (data.size - first)).filter (isSpared address data.size)) := by
  generalize startsAt : address + UInt32.ofNat first = start
  fun_induction loadFrom space start data first with
  | case1 space start first more length after inductionHypothesis =>
      subst startsAt
      have inRun : length ≤ data.size - first := Nat.min_le_right _ _
      have split :
          List.range' first (data.size - first) =
            List.range' first length ++
              List.range' (first + length) (data.size - (first + length)) := by
        rw [List.range'_append_1]
        congr 1
        omega
      rw [inductionHypothesis (sized.loadRun _ _) (by rw [UInt32.ofNat_add, UInt32.add_assoc]),
        split, List.filter_append, loadBytes_append]
      exact congrArg (loadBytes · address data _) (loadRun_eq_loadBytes sized more rfl)
  | case2 space start first done =>
      rw [Nat.sub_eq_zero_of_le (Nat.le_of_not_lt done)]
      rfl

/-- A load is the loads of its bytes that are not cut off. -/
theorem load_eq_loadSpared
    (sized : space.IsSized) :
    space.load address data =
      space.loadBytes address data
        ((List.range data.size).filter (isSpared address data.size)) := by
  have fromStart : space.loadFrom (address + UInt32.ofNat 0) data 0 = _ :=
    loadFrom_eq_loadBytes sized 0
  rw [List.range_eq_range']
  exact (congrArg (loadFrom space · data 0) (UInt32.add_zero address).symm).trans fromStart

/-- If nothing is cut off, a load is the loads of all its bytes. -/
theorem load_eq_loadAll
    (sized : space.IsSized)
    (whole : ∀ index, index < data.size → isCutOff address data.size index = false) :
    space.load address data = space.loadBytes address data (List.range data.size) := by
  have allSpared (index : Nat) (member : index ∈ List.range data.size) :
      isSpared address data.size index = true := by
    rw [isSpared, whole index (List.mem_range.mp member)]
    rfl
  rw [load_eq_loadSpared sized, List.filter_eq_self.mpr allSpared]

/-- Loading keeps every region's size. -/
theorem IsSized.load
    (sized : space.IsSized)
    (address : UInt32)
    (data : ByteArray) :
    (space.load address data).IsSized := by
  unfold AddressSpace.load
  generalize 0 = first
  fun_induction loadFrom space address data first with
  | case1 space address first more length after inductionHypothesis =>
      exact inductionHypothesis (sized.loadRun address _)
  | case2 space address first done => exact sized

/-! ## Bytes of a block -/

/-- A byte goes to the place behind its address, if there is one. -/
theorem byteAt_load_single
    (sized : space.IsSized)
    (byte : UInt8)
    (place : Place) :
    (space.load address ⟨#[byte]⟩).byteAt place =
      if storedAt? address = some place then byte else space.byteAt place := by
  cases found : storedAt? address with
  | none => rw [load_single_of_notStored found, if_neg nofun]
  | some target =>
      obtain ⟨mapped, inside⟩ :=
        inside_of_storedAt? (show Width.byte.aligned address = true from rfl) found
      have inTarget : target.offset + 1 ≤ (space.storage target.region).size := by
        rwa [sized target.region]
      rw [load_single_of_storedAt? found]
      unfold byteAt
      by_cases sameRegion : place.region = target.region
      · rw [sameRegion, storage_modifyStorage_self mapped]
        by_cases same : target = place
        · subst same
          have copied :=
            @get!_copySlice_of_inside ⟨#[byte]⟩ (space.storage target.region) 0 target.offset 1 0
              (Nat.le_refl 1) inTarget Nat.zero_lt_one
          rw [if_pos rfl]
          exact copied
        · rw [if_neg fun equal => same (Option.some.inj equal)]
          refine get!_copySlice_of_outside (Nat.le_refl 1) inTarget (Nat.lt_or_gt_of_ne ?_)
          exact fun sameOffset => same (congrArg₂ Place.mk sameRegion.symm sameOffset.symm)
      · rw [storage_modifyStorage_of_ne sameRegion,
          if_neg fun equal => sameRegion (congrArg Place.region (Option.some.inj equal)).symm]

/-- The last of some bytes of a block that goes to a place. -/
def lastTo? (address : UInt32) (indices : List Nat) (place : Place) : Option Nat :=
  indices.reverse.find? fun index => storedAt? (address + UInt32.ofNat index) = some place

/-- A place holds the last byte that went there, or what it held before. -/
theorem byteAt_loadBytes
    (sized : space.IsSized)
    (indices : List Nat)
    (place : Place) :
    (space.loadBytes address data indices).byteAt place =
      ((lastTo? address indices place).map data.get!).getD (space.byteAt place) := by
  induction indices generalizing space with
  | nil => rfl
  | cons index rest inductionHypothesis =>
      have later :=
        inductionHypothesis (sized.load (address + UInt32.ofNat index) ⟨#[data.get! index]⟩)
      rw [byteAt_load_single sized] at later
      refine later.trans ?_
      simp only [lastTo?, List.reverse_cons, List.find?_append, List.find?_singleton]
      cases rest.reverse.find? _ with
      | some last => rfl
      | none =>
          by_cases here : storedAt? (address + UInt32.ofNat index) = some place
          · simp [here]
          · simp [here]

/-! ## Parts of a block -/

/-- Loading a part of the bytes is loading them from further on. -/
theorem loadBytes_congr
    {other : ByteArray}
    {otherAddress : UInt32}
    {indices : List Nat}
    {shift : Nat}
    (sameAddress : otherAddress = address + UInt32.ofNat shift)
    (same : ∀ index ∈ indices, other.get! index = data.get! (shift + index)) :
    space.loadBytes otherAddress other indices =
      space.loadBytes address data (indices.map (shift + ·)) := by
  subst sameAddress
  unfold loadBytes
  rw [List.foldl_map]
  refine List.foldl_ext _ _ _ fun space index member => ?_
  rw [same index member, UInt32.ofNat_add, UInt32.add_assoc]

end

/-- No byte of a block is cut off. -/
def IsWhole (address : UInt32) (data : ByteArray) : Prop :=
  ∀ index, index < data.size → isCutOff address data.size index = false

section

variable {address : UInt32} {first second : ByteArray}

/-- The first part of data without a cut has none. -/
theorem IsWhole.left
    (whole : IsWhole address (first ++ second)) :
    IsWhole address first := by
  intro index inside
  rw [← Bool.not_eq_true, isCutOff_iff]
  rintro ⟨place, found, hardware, beyond⟩
  have kept := whole index (by rw [ByteArray.size_append]; omega)
  rw [← Bool.not_eq_true, isCutOff_iff] at kept
  exact kept ⟨place, found, hardware, by rw [ByteArray.size_append]; omega⟩

/-- The second part of data without a cut has none. -/
theorem IsWhole.right
    (whole : IsWhole address (first ++ second)) :
    IsWhole (address + UInt32.ofNat first.size) second := by
  intro index inside
  rw [← Bool.not_eq_true, isCutOff_iff]
  rintro ⟨place, found, hardware, beyond⟩
  have kept := whole (first.size + index) (by rw [ByteArray.size_append]; omega)
  rw [← Bool.not_eq_true, isCutOff_iff] at kept
  rw [UInt32.add_assoc, ← UInt32.ofNat_add] at found
  exact kept ⟨place, found, hardware, by rw [ByteArray.size_append]; omega⟩

/-- The bytes of a block are those of its first part and then those of the second. -/
theorem loadBytes_parts (space : AddressSpace) :
    (space.loadBytes address first (List.range first.size)).loadBytes
        (address + UInt32.ofNat first.size) second (List.range second.size) =
      space.loadBytes address (first ++ second) (List.range (first ++ second).size) := by
  have inFirst :
      space.loadBytes address first (List.range first.size) =
        space.loadBytes address (first ++ second) ((List.range first.size).map (0 + ·)) := by
    refine loadBytes_congr (UInt32.add_zero address).symm fun index member => ?_
    rw [Nat.zero_add, get!_append_of_lt (List.mem_range.mp member)]
  have inSecond (space : AddressSpace) :
      space.loadBytes (address + UInt32.ofNat first.size) second (List.range second.size) =
        space.loadBytes address (first ++ second)
          ((List.range second.size).map (first.size + ·)) :=
    loadBytes_congr rfl fun index _ => (get!_append_add first second index).symm
  rw [inFirst, inSecond, ← loadBytes_append, ByteArray.size_append, List.range_add]
  simp only [Nat.zero_add, List.map_id']

end

/--
A load drops the bytes that have no storage and those that are cut off, and any other byte stays
unless a later one goes to its place.  If no byte is cut off, a load is a copy byte by byte, and
the same in two parts.
-/
theorem load_dropsCutOff
    {space : AddressSpace}
    (sized : space.IsSized)
    (address : UInt32)
    (data : ByteArray) :
    space.load address data =
        space.loadBytes address data
          ((List.range data.size).filter (isSpared address data.size)) ∧
      (∀ place,
        (space.load address data).byteAt place =
          ((lastTo? address ((List.range data.size).filter (isSpared address data.size)) place).map
            data.get!).getD (space.byteAt place)) ∧
      (IsWhole address data →
        space.load address data = space.loadBytes address data (List.range data.size) ∧
          ∀ first second,
            first ++ second = data →
            (space.load address first).load (address + UInt32.ofNat first.size) second =
              space.load address data) := by
  refine ⟨load_eq_loadSpared sized, fun place => ?_, fun whole => ?_⟩
  · rw [load_eq_loadSpared sized, byteAt_loadBytes sized]
  refine ⟨load_eq_loadAll sized whole, ?_⟩
  rintro first second rfl
  rw [load_eq_loadAll (sized.load address first) whole.right, load_eq_loadAll sized whole.left,
    load_eq_loadAll sized whole, loadBytes_parts]

/-- The last two bytes of the hardware page's storage, and two behind it. -/
def acrossWindowEnd : ByteArray := ⟨#[1, 2, 3, 4]⟩

/-- Of the four bytes the first two are cut off. -/
theorem filter_acrossWindowEnd :
    (List.range acrossWindowEnd.size).filter (isSpared 0x1F802FFE acrossWindowEnd.size) =
      [2, 3] := by
  decide

/-- Four bytes across the end of the window, of which none arrives. -/
theorem load_dropsCutOff_atWindowEnd :
    AddressSpace.blank.setUp.IsSized ∧
      AddressSpace.blank.setUp.load 0x1F802FFE acrossWindowEnd = AddressSpace.blank.setUp := by
  have sized := isSized_blank.setUp
  have dropped := (load_dropsCutOff sized 0x1F802FFE acrossWindowEnd).1
  rw [filter_acrossWindowEnd] at dropped
  exact ⟨sized, dropped.trans (loadBytes_of_notStored (by decide))⟩

/-- Byte by byte, the first two are stored. -/
theorem load_losesStoredBytes :
    (AddressSpace.blank.setUp.load 0x1F802FFE acrossWindowEnd).readByte 0x1F802FFE = 0 ∧
      (AddressSpace.blank.setUp.loadBytes 0x1F802FFE acrossWindowEnd
          (List.range acrossWindowEnd.size)).readByte 0x1F802FFE = 1 := by
  have sized := isSized_blank.setUp
  have atStart : storedAt? 0x1F802FFE = some ⟨.hardware, 0x2FFE⟩ := by decide
  have dropped (space : AddressSpace) :
      space.loadBytes 0x1F802FFE acrossWindowEnd [2, 3] = space :=
    loadBytes_of_notStored (by decide)
  constructor
  · rw [load_eq_loadSpared sized, filter_acrossWindowEnd, dropped, readByte_of_storedAt? atStart]
    exact get!_zeroBytes _ _
  · have stored :=
      @loadBytes_range' _ 0x1F802FFE acrossWindowEnd sized 0 2 ⟨.hardware, 0x2FFE⟩ (by decide)
        (by decide) (by decide)
    have halves :
        List.range acrossWindowEnd.size = List.range' 0 2 ++ [2, 3] := by decide
    rw [halves, loadBytes_append, dropped, stored, readByte_of_storedAt? atStart]
    have inTarget : 0x2FFE + 2 ≤ (zeroBytes Region.hardware.size).size := by
      rw [size_zeroBytes]
      decide
    exact @get!_copySlice_of_inside _ _ 0 0x2FFE 2 0 (by decide) inTarget (by decide)

end AddressSpace

end PsxPlayer
