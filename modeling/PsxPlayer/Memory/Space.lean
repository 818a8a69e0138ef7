import PsxPlayer.Word
import PsxPlayer.Fault
import PsxPlayer.Memory.Region

namespace PsxPlayer

/-!
# Address space

Plain memory: the bytes of the four regions, reached through the page map of
`PsxPlayer.Memory.Region`. Words are little-endian. Reads of unmapped addresses
give zero, and writes to the ROM or to unmapped addresses change nothing.
-/

/-- A block of zero bytes. -/
def zeroBytes (size : Nat) : ByteArray :=
  ⟨Array.replicate size 0⟩

/-- Overwrite `target` from `offset` on with the bytes of `source`. -/
def overwrite (target : ByteArray) (offset : Nat) (source : ByteArray) : ByteArray :=
  source.copySlice 0 target offset source.size

/-- The little-endian value of `width` at `offset`. -/
@[inline]
def getLittle (bytes : ByteArray) (offset : Nat) : Width → UInt32
  | .byte => (bytes.get! offset).toUInt32
  | .half =>
      (bytes.get! offset).toUInt32 |||
        ((bytes.get! (offset + 1)).toUInt32 <<< 8)
  | .word =>
      (bytes.get! offset).toUInt32 |||
        ((bytes.get! (offset + 1)).toUInt32 <<< 8) |||
        ((bytes.get! (offset + 2)).toUInt32 <<< 16) |||
        ((bytes.get! (offset + 3)).toUInt32 <<< 24)

/-- Store the low bytes of `value` at `offset`, lowest byte first. -/
def setLittle (bytes : ByteArray) (offset : Nat) (value : UInt32) : Width → ByteArray
  | .byte => bytes.set! offset value.toUInt8
  | .half =>
      (bytes.set! offset value.toUInt8).set! (offset + 1) (value >>> 8).toUInt8
  | .word =>
      let bytes := bytes.set! offset value.toUInt8
      let bytes := bytes.set! (offset + 1) (value >>> 8).toUInt8
      let bytes := bytes.set! (offset + 2) (value >>> 16).toUInt8
      bytes.set! (offset + 3) (value >>> 24).toUInt8

/-- The bytes of a value, lowest first. -/
def littleBytes (value : UInt32) (width : Width) : ByteArray :=
  setLittle (zeroBytes width.bytes) 0 value width

/-- The storage behind every address. -/
structure AddressSpace where
  ram : ByteArray
  parallel : ByteArray
  hardware : ByteArray
  rom : ByteArray
  /-- Whether the page map has been set up; nothing may be accessed before. -/
  mapped : Bool

namespace AddressSpace

/-- All regions zero, page map not yet set up. -/
def blank : AddressSpace where
  ram := zeroBytes Region.ram.size
  parallel := zeroBytes Region.parallel.size
  hardware := zeroBytes Region.hardware.size
  rom := zeroBytes Region.rom.size
  mapped := false

/-- Set up the page map. -/
def setUp (space : AddressSpace) : AddressSpace :=
  { space with mapped := true }

/-- Clear everything but the ROM. -/
def clear (space : AddressSpace) : AddressSpace :=
  { blank with
    rom := space.rom
    mapped := space.mapped }

/-- The bytes of a region. -/
@[inline]
def storage (space : AddressSpace) : Region → ByteArray
  | .ram => space.ram
  | .parallel => space.parallel
  | .hardware => space.hardware
  | .rom => space.rom
  | .unmapped => ByteArray.empty

/-- Change the bytes of a region. -/
@[inline]
def modifyStorage
    (space : AddressSpace)
    (region : Region)
    (change : ByteArray → ByteArray) :
    AddressSpace :=
  match space, region with
  | ⟨ram, parallel, hardware, rom, mapped⟩, .ram =>
      ⟨change ram, parallel, hardware, rom, mapped⟩
  | ⟨ram, parallel, hardware, rom, mapped⟩, .parallel =>
      ⟨ram, change parallel, hardware, rom, mapped⟩
  | ⟨ram, parallel, hardware, rom, mapped⟩, .hardware =>
      ⟨ram, parallel, change hardware, rom, mapped⟩
  | ⟨ram, parallel, hardware, rom, mapped⟩, .rom =>
      ⟨ram, parallel, hardware, change rom, mapped⟩
  | space, .unmapped => space

/-- The zero-extended value of `width` at `address`. -/
@[inline]
def read (space : AddressSpace) (width : Width) (address : UInt32) : UInt32 :=
  match place? address width.bytes with
  | some place => getLittle (space.storage place.region) place.offset width
  | none => 0

/-- The byte at `address`. -/
def readByte (space : AddressSpace) (address : UInt32) : UInt8 :=
  (space.read .byte address).toUInt8

/-- Store the low bytes of `value` at `address`. -/
def write
    (space : AddressSpace)
    (width : Width)
    (address value : UInt32) :
    AddressSpace :=
  match place? address width.bytes with
  | some ⟨.rom, _⟩ => space
  | some ⟨region, offset⟩ =>
      space.modifyStorage region fun bytes => setLittle bytes offset value width
  | none => space

/--
Copy one run of bytes that stays inside a page. The run is stored only when all
of it is backed by storage; the ROM is written too.
-/
def loadRun (space : AddressSpace) (address : UInt32) (run : ByteArray) : AddressSpace :=
  match place? address run.size with
  | some ⟨region, offset⟩ =>
      space.modifyStorage region fun bytes => overwrite bytes offset run
  | none => space

/-- Bytes from `address` to the end of its page. -/
def roomInPage (address : UInt32) : Nat :=
  0x10000 - (address &&& 0xFFFF).toNat

theorem roomInPage_pos (address : UInt32) : 0 < roomInPage address := by
  have bound : (address &&& 0xFFFF).toNat < 0x10000 := by
    rw [UInt32.toNat_and]
    exact Nat.lt_of_le_of_lt Nat.and_le_right (by decide)
  unfold roomInPage
  omega

/-- Copy the bytes of `data` from index `first` on, page by page. -/
def loadFrom
    (space : AddressSpace)
    (address : UInt32)
    (data : ByteArray)
    (first : Nat) :
    AddressSpace :=
  if first < data.size then
    let length := min (roomInPage address) (data.size - first)
    let space := space.loadRun address (data.extract first (first + length))
    loadFrom space (address + UInt32.ofNat length) data (first + length)
  else
    space
termination_by data.size - first
decreasing_by
  have := roomInPage_pos address
  omega

/-- Copy a block of bytes into memory, dropping the runs that have no storage. -/
def load (space : AddressSpace) (address : UInt32) (data : ByteArray) : AddressSpace :=
  space.loadFrom address data 0

/-- Copy words into memory. -/
def loadWords (space : AddressSpace) (address : UInt32) (words : List UInt32) : AddressSpace :=
  space.load address
    (words.foldl (fun bytes word => bytes ++ littleBytes word .word) ByteArray.empty)

/-- Replace the ROM by an image, padded with zeros. -/
def loadRom (space : AddressSpace) (image : ByteArray) : Except Fault AddressSpace :=
  if image.size > Region.rom.size then
    .error (.romTooLarge image.size Region.rom.size)
  else
    .ok { space with rom := overwrite (zeroBytes Region.rom.size) 0 image }

/-- Where a run of `length` bytes starts in RAM, when all of it lies there. -/
def ramRun? (address : UInt32) (length : Nat) : Option Nat :=
  match place? address 1 with
  | some ⟨.ram, offset⟩ =>
      if offset + length ≤ Region.ram.size then some offset else none
  | _ => none

/-- A run of RAM bytes. -/
def ramSlice? (space : AddressSpace) (address : UInt32) (length : Nat) : Option ByteArray :=
  (ramRun? address length).map fun offset =>
    space.ram.extract offset (offset + length)

/-- Replace a run of RAM bytes; nothing changes unless all of it lies in RAM. -/
def ramSplice (space : AddressSpace) (address : UInt32) (run : ByteArray) : AddressSpace :=
  match ramRun? address run.size with
  | some offset => space.modifyStorage .ram fun bytes => overwrite bytes offset run
  | none => space

/-- Refuse an access at `address` until the page map is set up. -/
def require (space : AddressSpace) (address : UInt32) : Except Fault Unit :=
  if space.mapped then .ok () else .error (.unmappedSpace address)

end AddressSpace

end PsxPlayer
