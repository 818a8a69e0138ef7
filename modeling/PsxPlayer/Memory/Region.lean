namespace PsxPlayer

/-!
# Memory regions

The 4 GB virtual address space is cut into 65536 pages of 64 KB. The three
segments KUSEG, KSEG0 and KSEG1 show the same 512 MB of physical memory, so a
page is resolved by its place inside its segment.

```text
0x00000000-0x007FFFFF  main RAM, 2 MB repeated four times
0x1F000000-0x1F00FFFF  parallel port window
0x1F800000-0x1F802FFF  scratchpad and hardware registers
0x1FC00000-0x1FC7FFFF  ROM
```
-/

/-- The owner of a page. -/
inductive Region where
  | ram
  | parallel
  | hardware
  | rom
  | unmapped
  deriving DecidableEq, Repr

namespace Region

/-- Number of bytes that back a region. -/
def size : Region → Nat
  | .ram => 0x200000
  | .parallel => 0x10000
  | .hardware => 0x3000
  | .rom => 0x80000
  | .unmapped => 0

end Region

/-- A byte of a region's storage. -/
structure Place where
  region : Region
  offset : Nat
  deriving DecidableEq, Repr

/--
The page number inside the segment that holds `page`: KUSEG starts at page 0,
KSEG0 at 0x8000 and KSEG1 at 0xA000, each 0x2000 pages long.
-/
@[inline]
def pageInSegment? (page : Nat) : Option Nat :=
  if page < 0x2000 then some page
  else if page < 0x8000 then none
  else if page < 0xA000 then some (page - 0x8000)
  else if page < 0xC000 then some (page - 0xA000)
  else none

/-- Where the first byte of a physical page is stored. -/
@[inline]
def placeOfPhysicalPage (page : Nat) : Place :=
  if page < 0x80 then ⟨.ram, (page % 0x20) * 0x10000⟩
  else if page = 0x1F00 then ⟨.parallel, 0⟩
  else if page = 0x1F80 then ⟨.hardware, 0⟩
  else if 0x1FC0 ≤ page ∧ page < 0x1FC8 then ⟨.rom, (page - 0x1FC0) * 0x10000⟩
  else ⟨.unmapped, 0⟩

/-- Where the first byte of a virtual page is stored. -/
@[inline]
def placeOfPage (page : Nat) : Place :=
  match pageInSegment? page with
  | some inner => placeOfPhysicalPage inner
  | none => ⟨.unmapped, 0⟩

/-- The region that owns an address. -/
@[inline]
def regionAt (address : UInt32) : Region :=
  (placeOfPage (address >>> 16).toNat).region

/--
Resolve an access of `size` bytes at `address`. The access must lie inside the
storage of the region that owns the first byte's page.
-/
@[inline]
def place? (address : UInt32) (size : Nat) : Option Place :=
  let start := placeOfPage (address >>> 16).toNat
  let offset := start.offset + (address &&& 0xFFFF).toNat
  if start.region ≠ .unmapped ∧ offset + size ≤ start.region.size then
    some ⟨start.region, offset⟩
  else
    none

/--
The hardware register behind an address: its physical address when it lies at
offset 0x1000 or above of the hardware page. Scratchpad bytes are no registers.
-/
@[inline]
def port? (address : UInt32) : Option UInt32 :=
  let offset := address &&& 0xFFFF
  if offset ≥ 0x1000 ∧ regionAt address = .hardware then
    some (0x1F800000 ||| offset)
  else
    none

end PsxPlayer
