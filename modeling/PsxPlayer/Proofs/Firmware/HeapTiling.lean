import Mathlib.Data.List.Chain
import PsxPlayer.Firmware.Heap

namespace PsxPlayer

/-!
# Tilings of the heap

The blocks of a heap lie side by side from its start to its end, all of them whole words, and no
two free ones next to each other.  Allocating splits a free block and releasing joins free blocks,
which keeps all of that.
-/

namespace HeapBlock

/-- The address is that of one of the block's bytes. -/
def Covers (block : HeapBlock) (address : UInt32) : Prop :=
  (address - block.address).toNat < block.size

/-- No byte belongs to both blocks. -/
def Apart (first second : HeapBlock) : Prop :=
  ∀ address, ¬ (first.Covers address ∧ second.Covers address)

instance : Std.Symm Apart :=
  ⟨fun _ _ apart address both => apart address both.symm⟩

/-- Not both of two neighbours are free. -/
def MayPrecede (block next : HeapBlock) : Prop :=
  block.isFree = false ∨ next.isFree = false

/-- The block takes an allocation of `size` bytes. -/
def Fits (block : HeapBlock) (size : Nat) : Prop :=
  block.isFree = true ∧ size ≤ block.size

end HeapBlock

namespace Heap

/-! ## Blocks side by side -/

/-- The bytes of some blocks. -/
def totalSize : List HeapBlock → Nat
  | [] => 0
  | block :: rest => block.size + totalSize rest

@[simp]
theorem totalSize_nil : totalSize [] = 0 :=
  rfl

@[simp]
theorem totalSize_cons (block : HeapBlock) (rest : List HeapBlock) :
    totalSize (block :: rest) = block.size + totalSize rest :=
  rfl

/-- The sizes of blocks side by side add up. -/
@[simp]
theorem totalSize_append (first second : List HeapBlock) :
    totalSize (first ++ second) = totalSize first + totalSize second := by
  induction first with
  | nil => exact (Nat.zero_add _).symm
  | cons block rest inductionHypothesis =>
      rw [List.cons_append, totalSize_cons, totalSize_cons, inductionHypothesis, Nat.add_assoc]

/-- Each block starts where the one before it ends, and the first at `start`. -/
def Follow (start : UInt32) : List HeapBlock → Prop
  | [] => True
  | block :: rest => block.address = start ∧ Follow (start + UInt32.ofNat block.size) rest

/-- Two lengths added to an address one after the other. -/
theorem add_ofNat_add (start : UInt32) (first second : Nat) :
    start + UInt32.ofNat (first + second) =
      start + UInt32.ofNat first + UInt32.ofNat second := by
  rw [UInt32.ofNat_add, UInt32.add_assoc]

/-- Blocks follow each other if both parts do and the second begins where the first ends. -/
theorem follow_append
    {start : UInt32}
    {first second : List HeapBlock} :
    Follow start (first ++ second) ↔
      Follow start first ∧ Follow (start + UInt32.ofNat (totalSize first)) second := by
  induction first generalizing start with
  | nil =>
      rw [totalSize_nil, show UInt32.ofNat 0 = 0 from rfl, UInt32.add_zero]
      exact (and_iff_right trivial).symm
  | cons block rest inductionHypothesis =>
      rw [List.cons_append, Follow, Follow, inductionHypothesis, totalSize_cons, add_ofNat_add,
        and_assoc]

/-- The blocks of a heap of `length` bytes from `start` on. -/
structure IsTiling
    (start : UInt32)
    (length : Nat)
    (blocks : List HeapBlock) :
    Prop where
  follow : Follow start blocks
  total : totalSize blocks = length
  words : ∀ block ∈ blocks, 0 < block.size ∧ block.size % 4 = 0
  coalesced : blocks.IsChain HeapBlock.MayPrecede

/-! ## Offsets -/

/-- How far an address lies behind one that has been moved up. -/
theorem toNat_sub_add
    (start address : UInt32)
    {shift : Nat}
    (inWord : shift ≤ 0x100000000) :
    (address - (start + UInt32.ofNat shift)).toNat =
      ((address - start).toNat + 0x100000000 - shift) % 0x100000000 := by
  have startBound := start.toNat_lt
  have addressBound := address.toNat_lt
  rw [UInt32.toNat_sub, UInt32.toNat_sub, UInt32.toNat_add, UInt32.toNat_ofNat']
  omega

/-- An offset that fits a word is found again from the address. -/
theorem toNat_add_sub
    (start : UInt32)
    {offset : Nat}
    (inWord : offset < 0x100000000) :
    (start + UInt32.ofNat offset - start).toNat = offset := by
  have startBound := start.toNat_lt
  rw [UInt32.toNat_sub, UInt32.toNat_add, UInt32.toNat_ofNat']
  omega

/-- A block covers the offsets from its own on. -/
theorem covers_iff
    {start : UInt32}
    {block : HeapBlock}
    {shift : Nat}
    (isAt : block.address = start + UInt32.ofNat shift)
    (inWord : shift + block.size ≤ 0x100000000)
    (address : UInt32) :
    block.Covers address ↔
      shift ≤ (address - start).toNat ∧ (address - start).toNat < shift + block.size := by
  have bound := (address - start).toNat_lt
  rw [HeapBlock.Covers, isAt, toNat_sub_add start address (by omega)]
  omega

namespace IsTiling

variable {start : UInt32} {length : Nat} {blocks before after : List HeapBlock}
  {block : HeapBlock}

/-- Without its first block a tiling tiles what is left. -/
theorem tail
    (tiling : IsTiling start length (block :: after)) :
    IsTiling (start + UInt32.ofNat block.size) (length - block.size) after where
  follow := tiling.follow.2
  total := by
    have total := tiling.total
    rw [totalSize_cons] at total
    omega
  words other member := tiling.words other (List.mem_cons_of_mem _ member)
  coalesced := tiling.coalesced.tail

/-- The address of a block is the start and the sizes of the blocks before it. -/
theorem address_eq
    (tiling : IsTiling start length (before ++ block :: after)) :
    block.address = start + UInt32.ofNat (totalSize before) :=
  (follow_append.mp tiling.follow).2.1

/-- A block of a heap that fits the address space covers its own offsets. -/
theorem covers_iff
    (tiling : IsTiling start length (before ++ block :: after))
    (inWord : length ≤ 0x100000000)
    (address : UInt32) :
    block.Covers address ↔
      totalSize before ≤ (address - start).toNat ∧
        (address - start).toNat < totalSize before + block.size := by
  have total := tiling.total
  rw [totalSize_append, totalSize_cons] at total
  exact Heap.covers_iff tiling.address_eq (by omega) address

/-- The first block of a heap covers the offsets up to its size. -/
theorem covers_head_iff
    (tiling : IsTiling start length (block :: after))
    (address : UInt32) :
    block.Covers address ↔ (address - start).toNat < block.size := by
  have atStart : block.address = start := tiling.follow.1
  rw [HeapBlock.Covers, atStart]

/-- All bytes of a block lie in the heap. -/
theorem inside
    (tiling : IsTiling start length blocks)
    (inWord : length ≤ 0x100000000)
    (member : block ∈ blocks)
    {address : UInt32}
    (covers : block.Covers address) :
    (address - start).toNat < length := by
  obtain ⟨before, after, rfl⟩ := List.append_of_mem member
  have total := tiling.total
  have bounds := (tiling.covers_iff inWord address).mp covers
  rw [totalSize_append, totalSize_cons] at total
  omega

/-- No byte belongs to two blocks. -/
theorem pairwise_apart
    (tiling : IsTiling start length blocks)
    (inWord : length ≤ 0x100000000) :
    blocks.Pairwise HeapBlock.Apart := by
  induction blocks generalizing start length with
  | nil => exact .nil
  | cons block rest inductionHypothesis =>
      have total := tiling.total
      rw [totalSize_cons] at total
      refine .cons ?_ (inductionHypothesis tiling.tail (by omega))
      rintro other member address ⟨first, second⟩
      have early := (tiling.covers_head_iff address).mp first
      have late := tiling.tail.inside (by omega) member second
      rw [toNat_sub_add start address (by omega)] at late
      have bound := (address - start).toNat_lt
      omega

end IsTiling

/-! ## Allocating -/

/-- Allocation fails exactly if no block has room. -/
theorem allocateIn_eq_none_iff
    {size : Nat}
    {blocks : List HeapBlock} :
    allocateIn size blocks = none ↔ ∀ block ∈ blocks, ¬ block.Fits size := by
  induction blocks with
  | nil => exact iff_of_true rfl nofun
  | cons block rest inductionHypothesis =>
      rw [allocateIn, List.forall_mem_cons, ← inductionHypothesis]
      by_cases fits : block.Fits size
      · rw [if_pos (by simpa [HeapBlock.Fits] using fits)]
        exact iff_of_false nofun fun none => none.1 fits
      · rw [if_neg (by simpa [HeapBlock.Fits] using fits), Option.map_eq_none_iff]
        exact (and_iff_right fits).symm

/-- The first block that fits is split. -/
theorem allocateIn_eq_some
    {size : Nat}
    {blocks after : List HeapBlock}
    {address : UInt32}
    (allocated : allocateIn size blocks = some (address, after)) :
    ∃ before block rest,
      blocks = before ++ block :: rest ∧
        (∀ other ∈ before, ¬ other.Fits size) ∧
        block.Fits size ∧
        address = block.address ∧
        after = before ++ block.split size ++ rest := by
  induction blocks generalizing after with
  | nil => cases allocated
  | cons block rest inductionHypothesis =>
      rw [allocateIn] at allocated
      by_cases fits : block.Fits size
      · rw [if_pos (by simpa [HeapBlock.Fits] using fits)] at allocated
        cases allocated
        exact ⟨[], block, rest, rfl, nofun, fits, rfl, rfl⟩
      · rw [if_neg (by simpa [HeapBlock.Fits] using fits)] at allocated
        obtain ⟨⟨found, later⟩, isLater, same⟩ := Option.map_eq_some_iff.mp allocated
        cases same
        obtain ⟨before, other, behind, rfl, noneBefore, fitsOther, isAddress, rfl⟩ :=
          inductionHypothesis isLater
        exact
          ⟨block :: before, other, behind, rfl, List.forall_mem_cons.mpr ⟨fits, noneBefore⟩,
            fitsOther, isAddress, rfl⟩

section

variable {start : UInt32} {length size : Nat} {before after : List HeapBlock} {block : HeapBlock}

/-- The two parts of a block follow each other. -/
theorem follow_split
    (isAt : block.address = start)
    (size : Nat) :
    Follow start (block.split size) := by
  subst isAt
  unfold HeapBlock.split
  dsimp only
  split
  · exact ⟨rfl, rfl, trivial⟩
  · exact ⟨rfl, trivial⟩

/-- The two parts of a block are as large as the block. -/
theorem totalSize_split (room : size ≤ block.size) :
    totalSize (block.split size) = block.size := by
  unfold HeapBlock.split
  dsimp only
  split
  · simp only [totalSize_cons, totalSize_nil]
    omega
  · simp only [totalSize_cons, totalSize_nil]
    omega

/-- Behind a block that has been split, no free block follows its free rest. -/
theorem isChain_split_append
    (isFree : block.isFree = true)
    (chain : (block :: after).IsChain HeapBlock.MayPrecede)
    (size : Nat) :
    ∃ rest,
      block.split size ++ after = ⟨block.address, size, false⟩ :: rest ∧
        rest.IsChain HeapBlock.MayPrecede := by
  unfold HeapBlock.split
  dsimp only
  split
  · refine ⟨_, rfl, chain.imp_head fun {next} mayPrecede => ?_⟩
    rcases mayPrecede with blockLive | nextLive
    · rw [isFree] at blockLive
      cases blockLive
    · exact .inr nextLive
  · exact ⟨_, rfl, chain.tail⟩

/-- An allocation of whole words takes the place of the block that it splits. -/
theorem IsTiling.split
    (tiling : IsTiling start length (before ++ block :: after))
    (fits : block.Fits size)
    (positive : 0 < size)
    (isWords : size % 4 = 0) :
    IsTiling start length (before ++ block.split size ++ after) := by
  obtain ⟨isFree, room⟩ := fits
  obtain ⟨followBefore, isAt, followAfter⟩ := follow_append.mp tiling.follow
  obtain ⟨wordsBefore, wordsBlock, wordsAfter⟩ :=
    (List.forall_mem_append.mp tiling.words).imp_right List.forall_mem_cons.mp
  rw [List.append_assoc]
  refine
    { follow := ?_
      total := ?_
      words := ?_
      coalesced := ?_ }
  · refine follow_append.mpr ⟨followBefore, follow_append.mpr ⟨follow_split isAt size, ?_⟩⟩
    rwa [totalSize_split room]
  · have total := tiling.total
    rw [totalSize_append, totalSize_cons] at total
    rw [totalSize_append, totalSize_append, totalSize_split room]
    exact total
  · refine List.forall_mem_append.mpr
      ⟨wordsBefore, List.forall_mem_append.mpr ⟨fun part member => ?_, wordsAfter⟩⟩
    unfold HeapBlock.split at member
    dsimp only at member
    split at member
    · rcases List.mem_pair.mp member with rfl | rfl
      · exact ⟨positive, isWords⟩
      · exact ⟨by dsimp only; omega, by dsimp only; omega⟩
    · obtain rfl := List.mem_singleton.mp member
      exact ⟨positive, isWords⟩
  · obtain ⟨chainBefore, chainBlock, -⟩ := List.isChain_append.mp tiling.coalesced
    obtain ⟨rest, shape, chainRest⟩ := isChain_split_append isFree chainBlock size
    rw [shape]
    refine chainBefore.append (List.isChain_cons.mpr ⟨fun _ _ => .inl rfl, chainRest⟩) ?_
    intro last _ first isFirst
    obtain rfl := Option.some.inj isFirst
    exact .inr rfl

end

/-! ## Joining free blocks -/

/-- A block in front of others, joined with the next one when both are free. -/
def joinFront (block : HeapBlock) : List HeapBlock → List HeapBlock
  | [] => [block]
  | next :: rest =>
      if block.isFree && next.isFree then block.join next :: rest else block :: next :: rest

/-- Join all free blocks that stand side by side. -/
def coalesce (blocks : List HeapBlock) : List HeapBlock :=
  blocks.foldr joinFront []

section

variable {start : UInt32} {length : Nat} {blocks rest : List HeapBlock} {block : HeapBlock}

/-- A block that need not be joined stays what it is. -/
theorem joinFront_of_mayPrecede
    (mayPrecede : ∀ next ∈ rest.head?, block.MayPrecede next) :
    joinFront block rest = block :: rest := by
  cases rest with
  | nil => rfl
  | cons next rest =>
      rw [joinFront, if_neg]
      rcases mayPrecede next rfl with live | live <;> simp [live]

/-- Where no two free blocks stand side by side nothing is joined. -/
theorem coalesce_of_isChain
    (chain : blocks.IsChain HeapBlock.MayPrecede) :
    coalesce blocks = blocks := by
  induction blocks with
  | nil => rfl
  | cons block rest inductionHypothesis =>
      rw [coalesce, List.foldr_cons]
      change joinFront block (coalesce rest) = _
      rw [inductionHypothesis chain.tail]
      exact joinFront_of_mayPrecede (List.isChain_cons.mp chain).1

/-- A block in front of a tiling makes a longer one. -/
theorem IsTiling.joinFront
    (tiling : IsTiling (start + UInt32.ofNat block.size) length rest)
    (isAt : block.address = start)
    (words : 0 < block.size ∧ block.size % 4 = 0) :
    IsTiling start (block.size + length) (Heap.joinFront block rest) := by
  cases rest with
  | nil =>
      exact
        { follow := ⟨isAt, trivial⟩
          total := by rw [← tiling.total]; exact totalSize_cons block []
          words := List.forall_mem_singleton.mpr words
          coalesced := .singleton block }
  | cons next rest =>
      obtain ⟨nextWords, restWords⟩ := List.forall_mem_cons.mp tiling.words
      have total := tiling.total
      rw [totalSize_cons] at total
      rw [Heap.joinFront]
      split
      · next bothFree =>
          obtain ⟨blockFree, nextFree⟩ := (Bool.and_eq_true _ _).mp bothFree
          refine
            { follow := ⟨isAt, ?_⟩
              total := ?_
              words := List.forall_mem_cons.mpr ⟨?_, restWords⟩
              coalesced := ?_ }
          · rw [HeapBlock.join, add_ofNat_add]
            exact tiling.follow.2
          · rw [totalSize_cons]
            show block.size + next.size + totalSize rest = block.size + length
            omega
          · show 0 < block.size + next.size ∧ (block.size + next.size) % 4 = 0
            omega
          · refine tiling.coalesced.imp_head fun mayPrecede => ?_
            rcases mayPrecede with live | live
            · rw [nextFree] at live
              cases live
            · exact .inr live
      · next notBoth =>
          refine
            { follow := ⟨isAt, tiling.follow⟩
              total := by rw [totalSize_cons, tiling.total]
              words := List.forall_mem_cons.mpr ⟨words, tiling.words⟩
              coalesced := .cons_cons ?_ tiling.coalesced }
          rwa [Bool.and_eq_true, not_and_or, Bool.not_eq_true, Bool.not_eq_true] at notBoth

/-- Joining free blocks makes a tiling of blocks that follow one another. -/
theorem isTiling_coalesce
    (follow : Follow start blocks)
    (words : ∀ block ∈ blocks, 0 < block.size ∧ block.size % 4 = 0) :
    IsTiling start (totalSize blocks) (coalesce blocks) := by
  induction blocks generalizing start with
  | nil => exact ⟨trivial, rfl, nofun, .nil⟩
  | cons block rest inductionHypothesis =>
      obtain ⟨blockWords, restWords⟩ := List.forall_mem_cons.mp words
      rw [totalSize_cons]
      exact (inductionHypothesis follow.2 restWords).joinFront follow.1 blockWords

end

/-! ## Releasing -/

end Heap

/-- A live address is the start of a block in use. -/
theorem HeapBlock.isLive_iff
    {block : HeapBlock}
    {address : UInt32} :
    block.isLive address = true ↔ block.address = address ∧ block.isFree = false := by
  rw [isLive, Bool.and_eq_true, beq_iff_eq, Bool.not_eq_true']

/-- The block, made free if it is a live allocation at one of the addresses. -/
def HeapBlock.freedAmong (addresses : List UInt32) (block : HeapBlock) : HeapBlock :=
  if block.isFree = false ∧ block.address ∈ addresses then block.freed else block

namespace HeapBlock

variable {address : UInt32} {block : HeapBlock}

/-- A change of blocks that leaves them where they are. -/
def IsInPlace (change : HeapBlock → HeapBlock) : Prop :=
  ∀ block, (change block).address = block.address ∧ (change block).size = block.size

/-- Freeing a block moves nothing. -/
theorem isInPlace_freedAmong (addresses : List UInt32) : IsInPlace (freedAmong addresses) := by
  intro block
  unfold freedAmong
  split <;> exact ⟨rfl, rfl⟩

/-- A free block stays free. -/
theorem freedAmong_of_isFree
    (isFree : block.isFree = true)
    (addresses : List UInt32) :
    block.freedAmong addresses = block :=
  if_neg fun used => by simp [isFree] at used

/-- The block at a live address is freed. -/
theorem freedAmong_of_isLive
    (live : block.isLive address = true) :
    block.freedAmong [address] = block.freed :=
  if_pos ⟨(isLive_iff.mp live).2, List.mem_singleton.mpr (isLive_iff.mp live).1⟩

/-- Every other block is left alone. -/
theorem freedAmong_of_not_isLive
    (notLive : ¬ block.isLive address = true) :
    block.freedAmong [address] = block :=
  if_neg fun ⟨isUsed, isAt⟩ => notLive (isLive_iff.mpr ⟨List.mem_singleton.mp isAt, isUsed⟩)

end HeapBlock

namespace Heap

section

variable {start address : UInt32} {length : Nat} {blocks rest : List HeapBlock}
  {block : HeapBlock}

/-- A change in place keeps the blocks where they are. -/
theorem follow_map
    {change : HeapBlock → HeapBlock}
    (inPlace : HeapBlock.IsInPlace change) :
    Follow start (blocks.map change) ↔ Follow start blocks := by
  induction blocks generalizing start with
  | nil => rfl
  | cons block rest inductionHypothesis =>
      rw [List.map_cons, Follow, Follow, inductionHypothesis, (inPlace block).1, (inPlace block).2]

/-- A change in place keeps their total size. -/
theorem totalSize_map
    {change : HeapBlock → HeapBlock}
    (inPlace : HeapBlock.IsInPlace change)
    (blocks : List HeapBlock) :
    totalSize (blocks.map change) = totalSize blocks := by
  induction blocks with
  | nil => rfl
  | cons block rest inductionHypothesis =>
      rw [List.map_cons, totalSize_cons, totalSize_cons, inductionHypothesis, (inPlace block).2]

/-- Blocks that change in place are a tiling again once the free ones are joined. -/
theorem IsTiling.coalesce_map
    (tiling : IsTiling start length blocks)
    {change : HeapBlock → HeapBlock}
    (inPlace : HeapBlock.IsInPlace change) :
    IsTiling start length (coalesce (blocks.map change)) := by
  rw [← tiling.total, ← totalSize_map inPlace]
  refine isTiling_coalesce ((follow_map inPlace).mpr tiling.follow) fun block member => ?_
  obtain ⟨other, isOther, rfl⟩ := List.mem_map.mp member
  rw [(inPlace other).2]
  exact tiling.words other isOther

/-- Freeing a block and joining its neighbours keeps the tiling. -/
theorem IsTiling.release
    (tiling : IsTiling start length blocks)
    (address : UInt32) :
    IsTiling start length (coalesce (blocks.map (HeapBlock.freedAmong [address]))) :=
  tiling.coalesce_map (HeapBlock.isInPlace_freedAmong [address])

/-- Releasing fails exactly if the address is not live. -/
theorem releaseIn_eq_none_iff :
    releaseIn address blocks = none ↔ ∀ block ∈ blocks, ¬ block.isLive address = true := by
  fun_induction releaseIn address blocks with
  | case1 => exact iff_of_true rfl nofun
  | case2 block live => exact iff_of_false nofun fun none => none block List.mem_cons_self live
  | case3 block notLive => exact iff_of_true rfl (List.forall_mem_singleton.mpr notLive)
  | case4 block next rest live =>
      exact iff_of_false nofun fun none => none block List.mem_cons_self live
  | case5 block next rest notLive live =>
      exact iff_of_false nofun fun none =>
        none next (List.mem_cons_of_mem _ List.mem_cons_self) live
  | case6 block next rest notLive nextNotLive inductionHypothesis =>
      rw [Option.map_eq_none_iff, inductionHypothesis, List.forall_mem_cons (a := block),
        and_iff_right notLive]

/-- Blocks of different addresses that are not live at an address stay as they are. -/
theorem map_freedAmong_of_not_isLive
    (notLive : ∀ block ∈ blocks, ¬ block.isLive address = true) :
    blocks.map (HeapBlock.freedAmong [address]) = blocks :=
  (List.map_congr_left fun block member =>
    HeapBlock.freedAmong_of_not_isLive (notLive block member)).trans (List.map_id' blocks)

/-- A block that has been freed is joined with a free one behind it. -/
theorem joinNext_freed (block : HeapBlock) (rest : List HeapBlock) :
    joinNext block.freed rest = joinFront block.freed rest := by
  cases rest with
  | nil => rfl
  | cons next rest => simp only [joinNext, joinFront, HeapBlock.freed, Bool.true_and]

/-- A block that has just been freed, joined with the one behind it, starts with a free one. -/
theorem joinPrevious_joinFront_freed (block freed : HeapBlock) (rest : List HeapBlock) :
    joinPrevious block (joinFront freed.freed rest) =
      joinFront block (joinFront freed.freed rest) := by
  cases rest with
  | nil => simp [joinFront, joinPrevious, HeapBlock.freed]
  | cons next rest =>
      rw [joinFront]
      split <;> simp [joinFront, joinPrevious, HeapBlock.freed, HeapBlock.join]

/-- What joins to the first of some blocks does not change whether it is free. -/
theorem isFree_head_coalesce
    {first : HeapBlock}
    (isFirst : first ∈ (coalesce (block :: rest)).head?) :
    first.isFree = block.isFree := by
  change first ∈ (joinFront block (coalesce rest)).head? at isFirst
  cases shape : coalesce rest with
  | nil =>
      rw [shape] at isFirst
      cases isFirst
      rfl
  | cons next later =>
      rw [shape, joinFront] at isFirst
      split at isFirst <;> cases isFirst <;> rfl

/-- An address is live in one block at most. -/
theorem not_isLive_of_ne
    (live : block.isLive address = true)
    (apart : ∀ other ∈ blocks, block.address ≠ other.address) :
    ∀ other ∈ blocks, ¬ other.isLive address = true := by
  intro other member otherLive
  apply apart other member
  rw [(HeapBlock.isLive_iff.mp live).1, (HeapBlock.isLive_iff.mp otherLive).1]

/--
Releasing frees the allocation and joins free blocks.  Only its neighbours have to be looked at,
as no other free blocks stand side by side.
-/
theorem releaseIn_eq_some
    {after : List HeapBlock}
    (chain : blocks.IsChain HeapBlock.MayPrecede)
    (apart : blocks.Pairwise fun first second => first.address ≠ second.address)
    (released : releaseIn address blocks = some after) :
    after = coalesce (blocks.map (HeapBlock.freedAmong [address])) := by
  fun_induction releaseIn address blocks generalizing after with
  | case1 => cases released
  | case2 block live =>
      cases released
      rw [List.map_singleton, HeapBlock.freedAmong_of_isLive live]
      rfl
  | case3 block notLive => cases released
  | case4 block next rest live =>
      cases released
      have othersNotLive := not_isLive_of_ne live (List.pairwise_cons.mp apart).1
      rw [List.map_cons, HeapBlock.freedAmong_of_isLive live,
        map_freedAmong_of_not_isLive othersNotLive, joinNext_freed]
      exact congrArg _ (coalesce_of_isChain chain.tail).symm
  | case5 block next rest notLive live =>
      cases released
      have apartNext := (List.pairwise_cons.mp apart).2
      have othersNotLive := not_isLive_of_ne live (List.pairwise_cons.mp apartNext).1
      rw [List.map_cons, List.map_cons, HeapBlock.freedAmong_of_not_isLive notLive,
        HeapBlock.freedAmong_of_isLive live, map_freedAmong_of_not_isLive othersNotLive,
        joinNext_freed, joinPrevious_joinFront_freed]
      exact
        congrArg (fun rest => joinFront block (joinFront next.freed rest))
          (coalesce_of_isChain chain.tail.tail).symm
  | case6 block next rest notLive nextNotLive inductionHypothesis =>
      obtain ⟨later, isLater, rfl⟩ := Option.map_eq_some_iff.mp released
      rw [inductionHypothesis chain.tail (List.pairwise_cons.mp apart).2 isLater]
      simp only [List.map_cons, HeapBlock.freedAmong_of_not_isLive notLive,
        HeapBlock.freedAmong_of_not_isLive nextNotLive]
      refine (joinFront_of_mayPrecede fun first isFirst => ?_).symm
      have mayPrecede : block.MayPrecede next := (List.isChain_cons_cons.mp chain).1
      rwa [HeapBlock.MayPrecede, isFree_head_coalesce isFirst]

/-- The blocks of a heap that fits the address space start at different addresses. -/
theorem IsTiling.pairwise_address_ne
    (tiling : IsTiling start length blocks)
    (inWord : length ≤ 0x100000000) :
    blocks.Pairwise fun first second => first.address ≠ second.address := by
  have covers {block : HeapBlock} (member : block ∈ blocks) : block.Covers block.address := by
    rw [HeapBlock.Covers, UInt32.sub_self]
    exact (tiling.words block member).1
  refine (tiling.pairwise_apart inWord).imp_of_mem ?_
  intro first second isFirst isSecond apart same
  exact apart first.address ⟨covers isFirst, same ▸ covers isSecond⟩

/-- What releasing gives, when there is an allocation at the address. -/
theorem IsTiling.releaseIn_eq_some
    (tiling : IsTiling start length blocks)
    (inWord : length ≤ 0x100000000)
    (isLive : ∃ block ∈ blocks, block.isLive address = true) :
    releaseIn address blocks =
      some (coalesce (blocks.map (HeapBlock.freedAmong [address]))) := by
  obtain ⟨block, member, live⟩ := isLive
  cases released : releaseIn address blocks with
  | none => exact absurd live (releaseIn_eq_none_iff.mp released block member)
  | some after =>
      rw [Heap.releaseIn_eq_some tiling.coalesced (tiling.pairwise_address_ne inWord) released]

end

/-! ## Calls -/

/-- The bytes that a request takes: whole words, and one word at least. -/
def wordsFor (size : UInt32) : Nat :=
  (max size.toNat 1 + 3) / 4 * 4

/-- No request takes up nothing. -/
theorem wordsFor_pos (size : UInt32) : 0 < wordsFor size := by
  unfold wordsFor
  omega

/-- A request takes up whole words. -/
theorem wordsFor_words (size : UInt32) : wordsFor size % 4 = 0 :=
  Nat.mul_mod_left _ 4

/-- A request that does not fit a word is larger than any heap. -/
theorem roundUp?_eq (size : UInt32) :
    roundUp? size = if wordsFor size < 0x100000000 then some (wordsFor size) else none := by
  unfold roundUp? wordsFor
  dsimp only
  congr 1
  exact propext (by omega)

/-- An allocation splits the first block that takes it. -/
theorem allocate?_eq_some
    {heap after : Heap}
    {size address : UInt32}
    (allocated : heap.allocate? size = some (address, after)) :
    ∃ before block rest,
      heap.blocks = before ++ block :: rest ∧
        (∀ other ∈ before, ¬ other.Fits (wordsFor size)) ∧
        block.Fits (wordsFor size) ∧
        address = block.address ∧
        after = ⟨before ++ block.split (wordsFor size) ++ rest⟩ := by
  rw [allocate?, roundUp?_eq] at allocated
  split at allocated
  · obtain ⟨⟨found, blocks⟩, isFound, same⟩ := Option.map_eq_some_iff.mp allocated
    cases same
    obtain ⟨before, block, rest, shape, noneBefore, fits, isAddress, rfl⟩ :=
      allocateIn_eq_some isFound
    exact ⟨before, block, rest, shape, noneBefore, fits, isAddress, rfl⟩
  · cases allocated

/-- A heap has no room exactly if none of its blocks has. -/
theorem allocate?_eq_none_iff
    {heap : Heap}
    (sizes : ∀ block ∈ heap.blocks, block.size < 0x100000000)
    (size : UInt32) :
    heap.allocate? size = none ↔ ∀ block ∈ heap.blocks, ¬ block.Fits (wordsFor size) := by
  rw [allocate?, roundUp?_eq]
  split
  · exact Option.map_eq_none_iff.trans allocateIn_eq_none_iff
  · refine iff_of_true rfl fun block member fits => ?_
    have room := fits.2
    have bound := sizes block member
    omega

/-- The bytes of a heap that is given `size` bytes. -/
def lengthFor (size : UInt32) : Nat :=
  size.toNat / 4 * 4

/-- A heap is shorter than the address space. -/
theorem lengthFor_lt (size : UInt32) : lengthFor size < 0x100000000 := by
  have bound := size.toNat_lt
  unfold lengthFor
  omega

/-- The answer to a request for `size` bytes, 0 if it fails, and the heap after it. -/
def allocated (heap : Heap) (size : UInt32) : UInt32 × Heap :=
  (heap.allocate? size).getD (0, heap)

/-- What the guest asks of its heap. -/
inductive Request where
  | allocate (size : UInt32)
  | release (address : UInt32)
  deriving DecidableEq

/-- The heap after a request; one that fails leaves it alone. -/
def after (heap : Heap) : Request → Heap
  | .allocate size => (heap.allocated size).2
  | .release address => (heap.release? address).getD heap

/-- The heap after requests. -/
def afterAll (heap : Heap) (requests : List Request) : Heap :=
  requests.foldl after heap

/-- A new heap is one block. -/
theorem isTiling_ofRange (start size : UInt32) :
    IsTiling start (lengthFor size) (ofRange start size).blocks := by
  unfold ofRange lengthFor
  dsimp only
  split
  · next none =>
      rw [none]
      exact ⟨trivial, rfl, nofun, .nil⟩
  · exact
      { follow := ⟨rfl, trivial⟩
        total := totalSize_cons _ []
        words := List.forall_mem_singleton.mpr ⟨by dsimp only; omega, Nat.mul_mod_left _ 4⟩
        coalesced := .singleton _ }

/-- Each request keeps the tiling. -/
theorem IsTiling.after
    {start : UInt32}
    {length : Nat}
    {heap : Heap}
    (tiling : IsTiling start length heap.blocks)
    (inWord : length ≤ 0x100000000)
    (request : Request) :
    IsTiling start length (heap.after request).blocks := by
  cases request with
  | allocate size =>
      rw [Heap.after, allocated]
      cases allocated : heap.allocate? size with
      | none => exact tiling
      | some found =>
          obtain ⟨before, block, rest, shape, -, fits, -, isAfter⟩ := allocate?_eq_some allocated
          rw [shape] at tiling
          have split := tiling.split fits (wordsFor_pos size) (wordsFor_words size)
          rwa [Option.getD_some, isAfter]
  | release address =>
      rw [Heap.after, release?]
      cases released : releaseIn address heap.blocks with
      | none => exact tiling
      | some blocks =>
          rw [Option.map_some, Option.getD_some,
            Heap.releaseIn_eq_some tiling.coalesced (tiling.pairwise_address_ne inWord) released]
          exact tiling.release address

/-- Through all requests the blocks tile the range that the heap was given. -/
theorem isTiling_afterAll
    (start size : UInt32)
    (requests : List Request) :
    IsTiling start (lengthFor size) ((ofRange start size).afterAll requests).blocks := by
  have tiling := isTiling_ofRange start size
  generalize ofRange start size = heap at tiling
  induction requests generalizing heap with
  | nil => exact tiling
  | cons request rest inductionHypothesis =>
      exact inductionHypothesis _ (tiling.after (Nat.le_of_lt (lengthFor_lt size)) request)

end Heap

end PsxPlayer
