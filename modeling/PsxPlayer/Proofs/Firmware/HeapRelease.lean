import PsxPlayer.Proofs.Firmware.FirstFit

namespace PsxPlayer

/-!
# Releasing in any order

Each release joins a block with the neighbours that are free at that moment, so the order of
releases decides what is joined when.  Whatever the order, they end with the blocks as they were,
the allocations made free, and all free blocks that stand side by side joined.
-/

namespace HeapBlock

@[simp]
theorem freedAmong_nil (block : HeapBlock) : block.freedAmong [] = block :=
  if_neg fun used => by simp at used

/-- Releasing several allocations releases the first and then the others. -/
theorem freedAmong_cons (address : UInt32) (rest : List UInt32) (block : HeapBlock) :
    block.freedAmong (address :: rest) = (block.freedAmong [address]).freedAmong rest := by
  by_cases live : block.isLive address = true
  · obtain ⟨isAt, isUsed⟩ := isLive_iff.mp live
    have isFreed : block.freed.isFree = true := rfl
    rw [freedAmong_of_isLive live, freedAmong_of_isFree isFreed, freedAmong, if_pos]
    exact ⟨isUsed, isAt ▸ List.mem_cons_self⟩
  · rw [freedAmong_of_not_isLive live, freedAmong, freedAmong]
    congr 1
    refine propext (and_congr_right fun isUsed => ?_)
    have elsewhere : block.address ≠ address := fun isAt => live (isLive_iff.mpr ⟨isAt, isUsed⟩)
    rw [List.mem_cons, or_iff_right elsewhere]

/-- The order of the addresses does not matter. -/
theorem freedAmong_of_perm
    {addresses other : List UInt32}
    (reordered : other.Perm addresses) :
    HeapBlock.freedAmong other = HeapBlock.freedAmong addresses := by
  funext block
  rw [freedAmong, freedAmong]
  simp only [reordered.mem_iff]

end HeapBlock

namespace Heap

/-! ## Joining before and after -/

/-- Three free blocks become one whichever two are joined first. -/
theorem joinFront_join
    {block next : HeapBlock}
    (blockFree : block.isFree = true)
    (nextFree : next.isFree = true)
    (rest : List HeapBlock) :
    joinFront (block.join next) rest = joinFront block (joinFront next rest) := by
  have joinFree : (block.join next).isFree = true := blockFree
  cases rest with
  | nil => simp only [joinFront, blockFree, nextFree, Bool.and_self, if_true]
  | cons third rest =>
      cases thirdFree : third.isFree with
      | true =>
          simp only [joinFront, HeapBlock.join, blockFree, nextFree, thirdFree, Bool.and_self,
            if_true, Nat.add_assoc]
      | false =>
          simp only [joinFront, blockFree, nextFree, joinFree, thirdFree, Bool.and_self,
            Bool.and_false, if_true, Bool.false_eq_true, if_false]

section

variable {change : HeapBlock → HeapBlock}

theorem coalesce_map_joinFront
    (keepsFree : ∀ block, block.isFree = true → change block = block)
    (block : HeapBlock)
    (rest : List HeapBlock) :
    coalesce ((joinFront block rest).map change) =
      joinFront (change block) (coalesce (rest.map change)) := by
  cases rest with
  | nil => rfl
  | cons next rest =>
      rw [joinFront]
      split
      · next bothFree =>
          obtain ⟨blockFree, nextFree⟩ := (Bool.and_eq_true _ _).mp bothFree
          have joinFree : (block.join next).isFree = true := blockFree
          rw [List.map_cons, List.map_cons, keepsFree _ joinFree, keepsFree _ blockFree,
            keepsFree _ nextFree]
          exact joinFront_join blockFree nextFree _
      · rfl

/-- Free blocks that a change leaves alone may be joined before it or after it. -/
theorem coalesce_map_coalesce
    (keepsFree : ∀ block, block.isFree = true → change block = block)
    (blocks : List HeapBlock) :
    coalesce ((coalesce blocks).map change) = coalesce (blocks.map change) := by
  induction blocks with
  | nil => rfl
  | cons block rest inductionHypothesis =>
      change coalesce ((joinFront block (coalesce rest)).map change) = _
      rw [coalesce_map_joinFront keepsFree, inductionHypothesis]
      rfl

end

/-! ## Releases -/

/-- Release allocations one after the other, if each of them is live when its turn comes. -/
def releaseAll? (heap : Heap) (addresses : List UInt32) : Option Heap :=
  addresses.foldlM release? heap

section

variable {start size : UInt32} {length : Nat} {heap : Heap} {addresses : List UInt32}

/-- What several releases give, told from the blocks before them. -/
theorem IsTiling.releaseAll?_eq
    (tiling : IsTiling start length heap.blocks)
    (inWord : length ≤ 0x100000000)
    (live : addresses ⊆ (allocations heap.blocks).map HeapBlock.address)
    (nodup : addresses.Nodup) :
    heap.releaseAll? addresses =
      some ⟨coalesce (heap.blocks.map (HeapBlock.freedAmong addresses))⟩ := by
  induction addresses generalizing heap with
  | nil =>
      rw [List.map_congr_left fun block _ => HeapBlock.freedAmong_nil block, List.map_id',
        coalesce_of_isChain tiling.coalesced]
      rfl
  | cons address rest inductionHypothesis =>
      obtain ⟨isLive, restLive⟩ := List.cons_subset.mp live
      obtain ⟨apart, restNodup⟩ := List.nodup_cons.mp nodup
      have released := tiling.release?_eq_some inWord isLive
      have stillLive :
          rest ⊆
            (allocations (coalesce (heap.blocks.map (HeapBlock.freedAmong [address])))).map
              HeapBlock.address := by
        rw [allocations_coalesce, allocations_map_freedAmong]
        intro other member
        obtain ⟨block, isBlock, rfl⟩ := List.mem_map.mp (restLive member)
        have elsewhere : block.address ≠ address := fun same => apart (same ▸ member)
        exact List.mem_map_of_mem (List.mem_filter.mpr ⟨isBlock, by simpa using elsewhere⟩)
      have others :=
        @inductionHypothesis ⟨coalesce (heap.blocks.map (HeapBlock.freedAmong [address]))⟩
          (tiling.release address) stillLive restNodup
      rw [releaseAll?, List.foldlM_cons, released]
      change releaseAll? _ rest = _
      rw [others]
      simp only [Option.some.injEq, Heap.mk.injEq]
      rw [coalesce_map_coalesce fun block isFree => HeapBlock.freedAmong_of_isFree isFree rest,
        List.map_map]
      exact congrArg coalesce
        (List.map_congr_left fun block _ => (HeapBlock.freedAmong_cons address rest block).symm)

/-- Without allocations the heap is one free block, as it was at the start. -/
theorem IsTiling.eq_ofRange
    (tiling : IsTiling start (lengthFor size) heap.blocks)
    (noneLive : allocations heap.blocks = []) :
    heap = ofRange start size := by
  have free : ∀ block ∈ heap.blocks, block.isFree = true := by
    intro block member
    rw [← Bool.not_eq_false]
    intro isUsed
    have live := mem_allocations_iff.mpr ⟨member, isUsed⟩
    rw [noneLive] at live
    cases live
  obtain ⟨blocks⟩ := heap
  match blocks, tiling, free with
  | [], tiling, _ =>
      have none : 0 = lengthFor size := tiling.total
      exact (if_pos none.symm).symm
  | [block], tiling, free =>
      have isFree := free block List.mem_cons_self
      have isAt : block.address = start := tiling.follow.1
      have total : block.size = lengthFor size := tiling.total
      have positive := (tiling.words block List.mem_cons_self).1
      have isRange : ofRange start size = ⟨[⟨start, lengthFor size, true⟩]⟩ :=
        if_neg (by unfold lengthFor at total; omega)
      rw [isRange, ← total, ← isAt, ← isFree]
  | block :: next :: rest, tiling, free =>
      rcases (List.isChain_cons_cons.mp tiling.coalesced).1 with isUsed | isUsed
      · rw [free block List.mem_cons_self] at isUsed
        cases isUsed
      · rw [free next (List.mem_cons_of_mem _ List.mem_cons_self)] at isUsed
        cases isUsed

/--
Live allocations may be released in any order: each release succeeds, and the heap after them is
the same.  With all of them released, it is the heap that was started.
-/
theorem releaseAll_inAnyOrder
    (start size : UInt32)
    (requests : List Request)
    {addresses other : List UInt32}
    (live :
      addresses ⊆
        (allocations ((ofRange start size).afterAll requests).blocks).map HeapBlock.address)
    (nodup : addresses.Nodup)
    (reordered : other.Perm addresses) :
    let heap := (ofRange start size).afterAll requests
    ∃ after,
      heap.releaseAll? addresses = some after ∧
        heap.releaseAll? other = some after ∧
        ((allocations heap.blocks).map HeapBlock.address ⊆ addresses →
          after = ofRange start size) := by
  intro heap
  have tiling : IsTiling start (lengthFor size) heap.blocks :=
    isTiling_afterAll start size requests
  have inWord := Nat.le_of_lt (lengthFor_lt size)
  have otherLive : other ⊆ (allocations heap.blocks).map HeapBlock.address :=
    fun _ member => live (reordered.subset member)
  refine ⟨_, tiling.releaseAll?_eq inWord live nodup, ?_, fun all => ?_⟩
  · rw [tiling.releaseAll?_eq inWord otherLive (reordered.nodup_iff.mpr nodup),
      HeapBlock.freedAmong_of_perm reordered]
  · refine (tiling.coalesce_map (HeapBlock.isInPlace_freedAmong addresses)).eq_ofRange ?_
    refine (allocations_coalesce _).trans ((allocations_map_freedAmong _ _).trans ?_)
    refine List.filter_eq_nil_iff.mpr fun block isLive => ?_
    simpa using all (List.mem_map_of_mem isLive)

end

/-- Three allocations, released from the first on and from the last on. -/
theorem releaseAll_inAnyOrder_reversed :
    let heap := (ofRange 0x80100000 0x20).afterAll [.allocate 4, .allocate 9, .allocate 1]
    heap.releaseAll? [0x80100000, 0x80100004, 0x80100010] = some (ofRange 0x80100000 0x20) ∧
      heap.releaseAll? [0x80100010, 0x80100004, 0x80100000] = some (ofRange 0x80100000 0x20) := by
  obtain ⟨after, inOrder, reversed, isStart⟩ :=
    @releaseAll_inAnyOrder 0x80100000 0x20 [.allocate 4, .allocate 9, .allocate 1]
      [0x80100000, 0x80100004, 0x80100010] [0x80100010, 0x80100004, 0x80100000]
      (by decide) (by decide) (by decide)
  obtain rfl := isStart (by decide)
  exact ⟨inOrder, reversed⟩

end Heap

end PsxPlayer
