namespace PsxPlayer

/-!
# Heap

The allocator behind the guest's `malloc` and `free`. A list of blocks covers the
heap in order of address; allocation takes the first free block that is large
enough, and releasing joins a block with its free neighbours.
-/

/-- A block of the heap. -/
structure HeapBlock where
  address : UInt32
  size : Nat
  isFree : Bool
  deriving DecidableEq, Repr

namespace HeapBlock

/-- Whether the block is the live allocation at `address`. -/
def isLive (block : HeapBlock) (address : UInt32) : Bool :=
  block.address == address && !block.isFree

/-- The block, made free. -/
def freed (block : HeapBlock) : HeapBlock :=
  { block with isFree := true }

/-- The block with the size of the one behind it added. -/
def join (block next : HeapBlock) : HeapBlock :=
  { block with size := block.size + next.size }

/-- The block cut down to an allocation of `size` bytes, and the free rest. -/
def split (block : HeapBlock) (size : Nat) : List HeapBlock :=
  let taken : HeapBlock := ⟨block.address, size, false⟩
  if size < block.size then
    [taken, ⟨block.address + UInt32.ofNat size, block.size - size, true⟩]
  else
    [taken]

end HeapBlock

/-- The blocks of the heap in order. -/
structure Heap where
  blocks : List HeapBlock
  deriving DecidableEq, Repr

namespace Heap

/-- No heap. -/
def empty : Heap := ⟨[]⟩

/-- One free block from `start` on, of the largest multiple of 4 that fits `size`. -/
def ofRange (start size : UInt32) : Heap :=
  let size := size.toNat / 4 * 4
  if size = 0 then empty else ⟨[⟨start, size, true⟩]⟩

/-- The size of an allocation: whole words, one at least. -/
def roundUp? (size : UInt32) : Option Nat :=
  let size := max size.toNat 1 + 3
  if size < 0x100000000 then some (size / 4 * 4) else none

/-- Allocate `size` bytes in the first free block that is large enough. -/
def allocateIn (size : Nat) : List HeapBlock → Option (UInt32 × List HeapBlock)
  | [] => none
  | block :: rest =>
      if block.isFree && size ≤ block.size then
        some (block.address, block.split size ++ rest)
      else
        (allocateIn size rest).map fun (address, rest) => (address, block :: rest)

/-- Allocate memory. -/
def allocate? (heap : Heap) (size : UInt32) : Option (UInt32 × Heap) :=
  (roundUp? size).bind fun size =>
    (allocateIn size heap.blocks).map fun (address, blocks) => (address, ⟨blocks⟩)

/-- A free block in front of others, joined with the next one when that is free. -/
def joinNext (block : HeapBlock) : List HeapBlock → List HeapBlock
  | [] => [block]
  | next :: rest => if next.isFree then block.join next :: rest else block :: next :: rest

/-- A block in front of a list whose first block has just been freed. -/
def joinPrevious (block : HeapBlock) : List HeapBlock → List HeapBlock
  | [] => [block]
  | next :: rest => if block.isFree then block.join next :: rest else block :: next :: rest

/-- Release the live allocation at `address`, if there is one. -/
def releaseIn (address : UInt32) : List HeapBlock → Option (List HeapBlock)
  | [] => none
  | [block] => if block.isLive address then some [block.freed] else none
  | block :: next :: rest =>
      if block.isLive address then
        some (joinNext block.freed (next :: rest))
      else if next.isLive address then
        some (joinPrevious block (joinNext next.freed rest))
      else
        (releaseIn address (next :: rest)).map (block :: ·)

/-- Release memory; an address that is no live allocation is refused. -/
def release? (heap : Heap) (address : UInt32) : Option Heap :=
  (releaseIn address heap.blocks).map Heap.mk

end Heap

end PsxPlayer
