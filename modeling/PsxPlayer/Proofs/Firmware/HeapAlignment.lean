import PsxPlayer.Proofs.Firmware.HeapCall
import PsxPlayer.Proofs.Memory.Mirror

namespace PsxPlayer

/-!
# Alignment of allocations

Every block of a heap is made of whole words, whatever has been split and joined before.  So all
of them start as far behind a word boundary as the heap does: what the guest is given is word
aligned if it has started its heap at a word, and misaligned if it has not.
-/

namespace Heap

section

variable {start : UInt32} {length : Nat} {blocks : List HeapBlock} {block : HeapBlock}

/-- Whole words further on, an address is as far behind a word boundary. -/
theorem toNat_add_mod_four
    (start : UInt32)
    {offset : Nat}
    (isWords : offset % 4 = 0) :
    (start + UInt32.ofNat offset).toNat % 4 = start.toNat % 4 := by
  rw [UInt32.toNat_add, UInt32.toNat_ofNat']
  omega

/-- Blocks of whole words are whole words together. -/
theorem totalSize_mod_four
    (words : ∀ block ∈ blocks, 0 < block.size ∧ block.size % 4 = 0) :
    totalSize blocks % 4 = 0 := by
  induction blocks with
  | nil => rfl
  | cons block rest inductionHypothesis =>
      obtain ⟨⟨-, blockWords⟩, restWords⟩ := List.forall_mem_cons.mp words
      have restTotal := inductionHypothesis restWords
      rw [totalSize_cons]
      omega

/-- A block starts as far behind a word boundary as the heap. -/
theorem IsTiling.address_mod_four
    (tiling : IsTiling start length blocks)
    (member : block ∈ blocks) :
    block.address.toNat % 4 = start.toNat % 4 := by
  obtain ⟨before, after, rfl⟩ := List.append_of_mem member
  have beforeWords := totalSize_mod_four (List.forall_mem_append.mp tiling.words).1
  rw [tiling.address_eq]
  exact toNat_add_mod_four start beforeWords

/-- So does every allocation. -/
theorem IsTiling.allocated_mod_four
    {heap : Heap}
    (tiling : IsTiling start length heap.blocks)
    {size : UInt32}
    (succeeds : (heap.allocated size).1 ≠ 0) :
    (heap.allocated size).1.toNat % 4 = start.toNat % 4 := by
  cases allocated : heap.allocate? size with
  | none =>
      rw [Heap.allocated, allocated] at succeeds
      exact absurd rfl succeeds
  | some found =>
      obtain ⟨before, block, rest, shape, -, -, isAt, -⟩ := Heap.allocate?_eq_some allocated
      have member : block ∈ heap.blocks := by
        rw [shape]
        exact List.mem_append_right _ List.mem_cons_self
      rw [Heap.allocated, allocated, Option.getD_some, isAt]
      exact tiling.address_mod_four member

end

end Heap

/--
An address that is allocated lies as far behind a word boundary as the start of the heap.  The
words of the allocation are therefore aligned if and only if the heap has been started at a word.
-/
theorem allocation_isAligned_iff
    {step : Action Unit}
    {machine : Machine}
    {start size requested : UInt32}
    (hasHeap : machine.HasHeap step start size)
    (isMade : machine.Requests (.allocate requested)) :
    ∃ after,
      (Action.serveTrap step .tableA).run machine = .ok () after ∧
        (after.cpu.registers.get Reg.v0 ≠ 0 →
          (after.cpu.registers.get Reg.v0).toNat % 4 = start.toNat % 4 ∧
            ∀ index,
              Width.word.aligned
                    (after.cpu.registers.get Reg.v0 + UInt32.ofNat (4 * index)) = true ↔
                start.toNat % 4 = 0) := by
  let allocated := machine.firmware.heap.allocated requested
  let called := machine.atCaller.withHeap allocated.2
  have served :
      (Action.serveTrap step .tableA).run machine =
        .ok () (called.withRegisters (called.cpu.registers.set Reg.v0 allocated.1)) :=
    Action.run_serveTrap_of_allocates isMade step
  refine ⟨_, served, ?_⟩
  rw [Machine.withRegisters_registers, Registers.get_set_self _ (by decide)]
  intro succeeds
  have residue := hasHeap.isTiling.allocated_mod_four succeeds
  refine ⟨residue, fun index => ?_⟩
  rw [aligned_iff, ← residue]
  exact iff_of_eq (congrArg (· = 0) (Heap.toNat_add_mod_four _ (Nat.mul_mod_right 4 index)))

/-- Behind an allocation of 5 bytes, the next one is word aligned again. -/
theorem allocation_isAligned_behindOddSize :
    (callingLibrary oneAllocation 0x33 4 0).HasHeap (pure ()) 0x80100000 0x103 ∧
      (callingLibrary oneAllocation 0x33 4 0).Requests (.allocate 4) ∧
      ∃ after,
        (Action.serveTrap (pure ()) .tableA).run (callingLibrary oneAllocation 0x33 4 0) =
            .ok () after ∧
          after.cpu.registers.get Reg.v0 ≠ 0 ∧
          Width.word.aligned (after.cpu.registers.get Reg.v0) = true := by
  have hasHeap := hasHeap_oneAllocation 0x33 4 0
  have isMade : (callingLibrary oneAllocation 0x33 4 0).Requests (.allocate 4) := ⟨rfl, rfl⟩
  obtain ⟨after, ran, isAligned⟩ := allocation_isAligned_iff hasHeap isMade
  refine ⟨hasHeap, isMade, after, ran, ?_⟩
  have succeeds : after.cpu.registers.get Reg.v0 ≠ 0 := by
    rw [Action.run_serveTrap_of_allocates isMade] at ran
    obtain ⟨-, rfl⟩ := EStateM.Result.ok.inj ran
    decide
  refine ⟨succeeds, ?_⟩
  have first := ((isAligned succeeds).2 0).mpr (by decide)
  rwa [Nat.mul_zero, show UInt32.ofNat 0 = 0 from rfl, UInt32.add_zero] at first

/-- A heap that starts behind a word boundary gives the guest an address between words. -/
theorem allocation_isMisaligned :
    ∃ after,
      (callingLibrary (.ofRange 0x80100001 0x100) 0x33 4 0).HasHeap (pure ()) 0x80100001 0x100 ∧
        (callingLibrary (.ofRange 0x80100001 0x100) 0x33 4 0).Requests (.allocate 4) ∧
        (Action.serveTrap (pure ()) .tableA).run
            (callingLibrary (.ofRange 0x80100001 0x100) 0x33 4 0) =
          .ok () after ∧
        after.cpu.registers.get Reg.v0 = 0x80100001 ∧
        (after.cpu.registers.get Reg.v0).toNat % 4 ≠ 0 := by
  have starts : (callingLibrary .empty 0x39 0x80100001 0x100).StartsHeap 0x80100001 0x100 :=
    ⟨rfl, rfl, rfl⟩
  have started : Machine.HasHeap (pure ()) 0x80100001 0x100 _ :=
    .started starts (Action.run_serveTrap_of_startsHeap starts _)
  have isMade :
      (callingLibrary (.ofRange 0x80100001 0x100) 0x33 4 0).Requests (.allocate 4) :=
    ⟨rfl, rfl⟩
  refine
    ⟨_, .elsewhere started rfl, isMade, Action.run_serveTrap_of_allocates isMade _, ?_, ?_⟩
  · decide
  · decide

end PsxPlayer
