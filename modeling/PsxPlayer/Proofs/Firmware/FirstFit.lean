import PsxPlayer.Proofs.Firmware.HeapTiling

namespace PsxPlayer

/-!
# First fit

The free blocks of a tiled heap are its maximal free runs.  So an allocation finds room wherever
there is any, and what it takes is the start of the first run that is long enough.
-/

namespace Heap

/-! ## Free runs -/

/-- The heap holds `count` bytes from the offset `first` on, and no allocation uses them. -/
structure IsFreeRun
    (start : UInt32)
    (length : Nat)
    (blocks : List HeapBlock)
    (first count : Nat) :
    Prop where
  inside : first + count ≤ length
  unused :
    ∀ offset,
      first ≤ offset →
      offset < first + count →
      ∀ block ∈ blocks, block.isFree = false → ¬ block.Covers (start + UInt32.ofNat offset)

/-- A free run that is part of no other. -/
structure IsMaximalRun
    (start : UInt32)
    (length : Nat)
    (blocks : List HeapBlock)
    (first count : Nat) :
    Prop extends IsFreeRun start length blocks first count where
  nonempty : 0 < count
  widest :
    ∀ {other more},
      IsFreeRun start length blocks other more →
      other ≤ first →
      first + count ≤ other + more →
      other = first ∧ more = count

/-- The first of the maximal free runs with room for `size` bytes. -/
structure IsFirstRun
    (start : UInt32)
    (length : Nat)
    (blocks : List HeapBlock)
    (size first count : Nat) :
    Prop extends IsMaximalRun start length blocks first count where
  room : size ≤ count
  earliest :
    ∀ {other more}, IsFreeRun start length blocks other more → size ≤ more → first ≤ other

section

variable {start : UInt32} {length first count : Nat} {blocks before after : List HeapBlock}
  {block : HeapBlock}

theorem IsFreeRun.shorter
    (run : IsFreeRun start length blocks first count)
    {fewer : Nat}
    (shorter : fewer ≤ count) :
    IsFreeRun start length blocks first fewer where
  inside := by
    have inside := run.inside
    omega
  unused offset low high := run.unused offset low (by omega)

/-- Behind the first block, a free run is one of the blocks behind it. -/
theorem IsFreeRun.tail
    (run : IsFreeRun start length (block :: after) first count)
    (behind : block.size ≤ first) :
    IsFreeRun (start + UInt32.ofNat block.size) (length - block.size) after
      (first - block.size) count where
  inside := by
    have inside := run.inside
    omega
  unused offset low high other member := by
    rw [← add_ofNat_add]
    exact
      run.unused (block.size + offset) (by omega) (by omega) other (List.mem_cons_of_mem _ member)

/-- A free run never leaves the block that it starts in, as the next one is not free. -/
theorem IsFreeRun.exists_block
    (run : IsFreeRun start length blocks first count)
    (tiling : IsTiling start length blocks)
    (inWord : length ≤ 0x100000000)
    (nonempty : 0 < count) :
    ∃ before block after,
      blocks = before ++ block :: after ∧
        block.isFree = true ∧
        totalSize before ≤ first ∧
        first + count ≤ totalSize before + block.size := by
  induction blocks generalizing start length first with
  | nil =>
      have inside := run.inside
      have total : 0 = length := tiling.total
      omega
  | cons block rest inductionHypothesis =>
      have inside := run.inside
      have total := tiling.total
      rw [totalSize_cons] at total
      have covers {offset : Nat} (low : offset < block.size) :
          block.Covers (start + UInt32.ofNat offset) := by
        rwa [tiling.covers_head_iff, toNat_add_sub start (by omega)]
      by_cases behind : block.size ≤ first
      · obtain ⟨before, found, after, rfl, isFree, low, high⟩ :=
          inductionHypothesis (run.tail behind) tiling.tail (by omega)
        refine ⟨block :: before, found, after, rfl, isFree, ?_, ?_⟩
        · rw [totalSize_cons]
          omega
        · rw [totalSize_cons]
          omega
      · have isFree : block.isFree = true := by
          rw [← Bool.not_eq_false]
          intro live
          exact
            run.unused first (Nat.le_refl _) (by omega) block List.mem_cons_self live
              (covers (by omega))
        refine ⟨[], block, rest, rfl, isFree, Nat.zero_le _, ?_⟩
        rw [totalSize_nil, Nat.zero_add]
        by_contra beyond
        cases rest with
        | nil =>
            rw [totalSize_nil] at total
            omega
        | cons next later =>
            have live : next.isFree = false := by
              rcases (List.isChain_cons_cons.mp tiling.coalesced).1 with blockLive | nextLive
              · rw [isFree] at blockLive
                cases blockLive
              · exact nextLive
            have nextWords := tiling.tail.words next List.mem_cons_self
            refine
              run.unused block.size (by omega) (by omega) next
                (List.mem_cons_of_mem _ List.mem_cons_self) live ?_
            rw [HeapBlock.Covers, ← tiling.tail.follow.1, UInt32.sub_self]
            exact nextWords.1

/-- Of two blocks in one list, one stands behind the other if they are not the same. -/
theorem split_cases
    {beforeOther afterOther : List HeapBlock}
    {other : HeapBlock}
    (shape : before ++ block :: after = beforeOther ++ other :: afterOther) :
    block ∈ beforeOther ∧ totalSize before + block.size ≤ totalSize beforeOther ∨
      other ∈ before ∧ totalSize beforeOther + other.size ≤ totalSize before ∨
      before = beforeOther ∧ block = other := by
  rcases List.append_eq_append_iff.mp shape with ⟨between, rfl, rest⟩ | ⟨between, rfl, rest⟩
  · rcases List.cons_eq_append_iff.mp rest with ⟨rfl, same⟩ | ⟨later, rfl, -⟩
    · exact .inr (.inr ⟨(List.append_nil _).symm, (List.cons.inj same).1.symm⟩)
    · refine .inl ⟨List.mem_append_right _ List.mem_cons_self, ?_⟩
      rw [totalSize_append, totalSize_cons]
      omega
  · rcases List.cons_eq_append_iff.mp rest with ⟨rfl, same⟩ | ⟨later, rfl, -⟩
    · exact .inr (.inr ⟨List.append_nil _, (List.cons.inj same).1⟩)
    · refine .inr (.inl ⟨List.mem_append_right _ List.mem_cons_self, ?_⟩)
      rw [totalSize_append, totalSize_cons]
      omega

namespace IsTiling

/-- A free block is a free run. -/
theorem isFreeRun
    (tiling : IsTiling start length (before ++ block :: after))
    (inWord : length ≤ 0x100000000)
    (isFree : block.isFree = true) :
    IsFreeRun start length (before ++ block :: after) (totalSize before) block.size := by
  have total := tiling.total
  rw [totalSize_append, totalSize_cons] at total
  refine
    { inside := by omega
      unused := fun offset low high other member live covers => ?_ }
  have covered : block.Covers (start + UInt32.ofNat offset) := by
    rw [tiling.covers_iff inWord, toNat_add_sub start (by omega)]
    exact ⟨low, high⟩
  have differ : block ≠ other := by
    rintro rfl
    rw [isFree] at live
    cases live
  have apart : block.Apart other :=
    (tiling.pairwise_apart inWord).forall (List.mem_append_right _ List.mem_cons_self) member differ
  exact apart _ ⟨covered, covers⟩

/-- A free block is a maximal free run, as its neighbours are not free. -/
theorem isMaximalRun
    (tiling : IsTiling start length (before ++ block :: after))
    (inWord : length ≤ 0x100000000)
    (isFree : block.isFree = true) :
    IsMaximalRun start length (before ++ block :: after) (totalSize before) block.size where
  toIsFreeRun := tiling.isFreeRun inWord isFree
  nonempty :=
    (tiling.words block (List.mem_append_right _ List.mem_cons_self)).1
  widest {other more} run low high := by
    have positive := (tiling.words block (List.mem_append_right _ List.mem_cons_self)).1
    obtain ⟨beforeOther, found, afterOther, shape, -, isLow, isHigh⟩ :=
      run.exists_block tiling inWord (by omega)
    rcases split_cases shape with ⟨-, behind⟩ | ⟨-, behind⟩ | ⟨rfl, rfl⟩
    · omega
    · omega
    · omega

/-! ## Allocating -/

/-- The first block that takes an allocation is the first run with room for it. -/
theorem isFirstRun
    (tiling : IsTiling start length (before ++ block :: after))
    (inWord : length ≤ 0x100000000)
    {size : Nat}
    (positive : 0 < size)
    (fits : block.Fits size)
    (noneBefore : ∀ other ∈ before, ¬ other.Fits size) :
    IsFirstRun start length (before ++ block :: after) size (totalSize before) block.size where
  toIsMaximalRun := tiling.isMaximalRun inWord fits.1
  room := fits.2
  earliest {other more} run room := by
    obtain ⟨beforeOther, found, afterOther, shape, isFree, low, high⟩ :=
      run.exists_block tiling inWord (by omega)
    rcases split_cases shape with ⟨-, behind⟩ | ⟨member, -⟩ | ⟨rfl, rfl⟩
    · omega
    · exact absurd ⟨isFree, by omega⟩ (noneBefore found member)
    · exact low

end IsTiling

end

/-- The live allocations among some blocks. -/
def allocations (blocks : List HeapBlock) : List HeapBlock :=
  blocks.filter fun block => !block.isFree

theorem allocations_append (first second : List HeapBlock) :
    allocations (first ++ second) = allocations first ++ allocations second :=
  List.filter_append _ _

theorem mem_allocations_iff
    {blocks : List HeapBlock}
    {block : HeapBlock} :
    block ∈ allocations blocks ↔ block ∈ blocks ∧ block.isFree = false := by
  rw [allocations, List.mem_filter, Bool.not_eq_true']

theorem allocations_split (block : HeapBlock) (size : Nat) :
    allocations (block.split size) = [⟨block.address, size, false⟩] := by
  unfold HeapBlock.split
  dsimp only
  split <;> rfl

theorem allocations_cons_of_isFree
    {block : HeapBlock}
    (isFree : block.isFree = true)
    (rest : List HeapBlock) :
    allocations (block :: rest) = allocations rest :=
  List.filter_cons_of_neg (by simp [isFree])

theorem allocations_cons_of_not_isFree
    {block : HeapBlock}
    (isUsed : block.isFree = false)
    (rest : List HeapBlock) :
    allocations (block :: rest) = block :: allocations rest :=
  List.filter_cons_of_pos (by simp [isUsed])

section

variable {start : UInt32} {length : Nat} {heap after : Heap} {size address : UInt32}

/-- An allocation takes the start of the first run with room for it. -/
theorem IsTiling.allocate?_eq_some
    (tiling : IsTiling start length heap.blocks)
    (inWord : length ≤ 0x100000000)
    (allocated : heap.allocate? size = some (address, after)) :
    ∃ first count,
      IsFirstRun start length heap.blocks (wordsFor size) first count ∧
        address = start + UInt32.ofNat first ∧
        (allocations after.blocks).Perm
          (⟨address, wordsFor size, false⟩ :: allocations heap.blocks) := by
  obtain ⟨before, block, rest, shape, noneBefore, fits, rfl, rfl⟩ :=
    Heap.allocate?_eq_some allocated
  rw [shape] at tiling ⊢
  refine
    ⟨_, _, tiling.isFirstRun inWord (wordsFor_pos size) fits noneBefore, tiling.address_eq, ?_⟩
  rw [allocations_append, allocations_append, allocations_append, allocations_split,
    allocations_cons_of_isFree fits.1, List.append_assoc]
  exact List.perm_middle

/-- An allocation fails only if there is no room for it. -/
theorem IsTiling.allocate?_eq_none_iff
    (tiling : IsTiling start length heap.blocks)
    (inWord : length < 0x100000000) :
    heap.allocate? size = none ↔
      ∀ first, ¬ IsFreeRun start length heap.blocks first (wordsFor size) := by
  have sizes : ∀ block ∈ heap.blocks, block.size < 0x100000000 := by
    intro block member
    obtain ⟨before, after, shape⟩ := List.append_of_mem member
    have total := tiling.total
    rw [shape, totalSize_append, totalSize_cons] at total
    omega
  rw [Heap.allocate?_eq_none_iff sizes]
  constructor
  · intro noneFits first run
    obtain ⟨before, block, after, shape, isFree, low, high⟩ :=
      run.exists_block tiling (Nat.le_of_lt inWord) (wordsFor_pos size)
    have member : block ∈ heap.blocks := by
      rw [shape]
      exact List.mem_append_right _ List.mem_cons_self
    exact noneFits block member ⟨isFree, by omega⟩
  · intro noRoom block member fits
    obtain ⟨before, after, shape⟩ := List.append_of_mem member
    rw [shape] at tiling noRoom
    exact noRoom _ ((tiling.isFreeRun (Nat.le_of_lt inWord) fits.1).shorter fits.2)

/-! ## Releasing -/

theorem allocations_joinFront (block : HeapBlock) (rest : List HeapBlock) :
    allocations (joinFront block rest) = allocations (block :: rest) := by
  cases rest with
  | nil => rfl
  | cons next rest =>
      rw [joinFront]
      split
      · next bothFree =>
          obtain ⟨blockFree, nextFree⟩ := (Bool.and_eq_true _ _).mp bothFree
          have joinFree : (block.join next).isFree = true := blockFree
          rw [allocations_cons_of_isFree joinFree, allocations_cons_of_isFree blockFree,
            allocations_cons_of_isFree nextFree]
      · rfl

/-- Joining free blocks does not touch the allocations. -/
theorem allocations_coalesce (blocks : List HeapBlock) :
    allocations (coalesce blocks) = allocations blocks := by
  induction blocks with
  | nil => rfl
  | cons block rest inductionHypothesis =>
      change allocations (joinFront block (coalesce rest)) = _
      rw [allocations_joinFront, ← List.singleton_append, allocations_append, inductionHypothesis,
        ← allocations_append, List.singleton_append]

/-- Making allocations free takes them away and no other. -/
theorem allocations_map_freedAmong (addresses : List UInt32) (blocks : List HeapBlock) :
    allocations (blocks.map (HeapBlock.freedAmong addresses)) =
      (allocations blocks).filter fun block => block.address ∉ addresses := by
  induction blocks with
  | nil => rfl
  | cons block rest inductionHypothesis =>
      rw [List.map_cons]
      cases isFree : block.isFree with
      | true =>
          rw [HeapBlock.freedAmong_of_isFree isFree, allocations_cons_of_isFree isFree,
            allocations_cons_of_isFree isFree, inductionHypothesis]
      | false =>
          rw [allocations_cons_of_not_isFree isFree]
          by_cases among : block.address ∈ addresses
          · rw [HeapBlock.freedAmong, if_pos ⟨isFree, among⟩, allocations_cons_of_isFree (by rfl),
              inductionHypothesis, List.filter_cons_of_neg (by simpa using among)]
          · rw [HeapBlock.freedAmong, if_neg fun used => among used.2,
              allocations_cons_of_not_isFree isFree, inductionHypothesis,
              List.filter_cons_of_pos (by simpa using among)]

/-- An allocation is live at an address. -/
theorem exists_isLive_iff
    {blocks : List HeapBlock} :
    (∃ block ∈ blocks, block.isLive address = true) ↔
      address ∈ (allocations blocks).map HeapBlock.address := by
  rw [List.mem_map]
  refine exists_congr fun block => ?_
  rw [HeapBlock.isLive_iff, mem_allocations_iff]
  tauto

theorem IsTiling.release?_eq_some
    (tiling : IsTiling start length heap.blocks)
    (inWord : length ≤ 0x100000000)
    (live : address ∈ (allocations heap.blocks).map HeapBlock.address) :
    heap.release? address =
      some ⟨coalesce (heap.blocks.map (HeapBlock.freedAmong [address]))⟩ := by
  rw [release?, tiling.releaseIn_eq_some inWord (exists_isLive_iff.mpr live)]
  rfl

/-- A release takes away the allocation at its address and no other. -/
theorem IsTiling.allocations_after_release
    (tiling : IsTiling start length heap.blocks)
    (inWord : length ≤ 0x100000000)
    (live : address ∈ (allocations heap.blocks).map HeapBlock.address) :
    allocations (heap.after (.release address)).blocks =
      (allocations heap.blocks).filter fun block => block.address ≠ address := by
  rw [Heap.after, tiling.release?_eq_some inWord live, Option.getD_some, allocations_coalesce,
    allocations_map_freedAmong]
  simp only [List.mem_singleton, ne_eq]

/-- A release at an address that is no live allocation does nothing. -/
theorem after_release_of_notLive
    (notLive : address ∉ (allocations heap.blocks).map HeapBlock.address) :
    heap.after (.release address) = heap := by
  have refused : releaseIn address heap.blocks = none := by
    rw [releaseIn_eq_none_iff]
    intro block member live
    exact notLive (exists_isLive_iff.mp ⟨block, member, live⟩)
  rw [Heap.after, release?, refused]
  rfl

end

end Heap

end PsxPlayer
