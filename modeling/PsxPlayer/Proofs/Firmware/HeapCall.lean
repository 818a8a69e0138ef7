import PsxPlayer.Proofs.Firmware.FirstFit
import PsxPlayer.Proofs.Firmware.LibraryCall

namespace PsxPlayer

/-!
# Calls that work on the heap

Three library functions reach the heap: one starts it anew, one allocates and one releases.  Each
of them comes back, with an answer and a heap that depend on the heap alone.
-/

namespace Machine

/-- The machine with another heap. -/
def withHeap
    (machine : Machine)
    (heap : Heap) :
    Machine :=
  { machine with firmware := { machine.firmware with heap := heap } }

@[simp]
theorem heap_withHeap (machine : Machine) (heap : Heap) :
    (machine.withHeap heap).firmware.heap = heap :=
  rfl

/-- The machine asks for a new heap when it enters the firmware. -/
def StartsHeap
    (machine : Machine)
    (start size : UInt32) :
    Prop :=
  machine.AsksLibrary .startHeap ∧
    machine.cpu.registers.get Reg.a0 = start ∧
    machine.cpu.registers.get Reg.a1 = size

/-- The machine makes a request of its heap when it enters the firmware. -/
def Requests
    (machine : Machine) :
    Heap.Request → Prop
  | .allocate size =>
      machine.AsksLibrary .allocate ∧ machine.cpu.registers.get Reg.a0 = size
  | .release address =>
      machine.AsksLibrary .release ∧ machine.cpu.registers.get Reg.a0 = address

end Machine

namespace Action

/-! ## Running a call -/

theorem run_startHeap (machine : Machine) :
    (callLibrary .startHeap).run machine =
      .ok ()
        (machine.withHeap
          (.ofRange (machine.cpu.registers.get Reg.a0) (machine.cpu.registers.get Reg.a1))) :=
  rfl

theorem run_allocate (machine : Machine) :
    let allocated := machine.firmware.heap.allocated (machine.cpu.registers.get Reg.a0)
    allocate.run machine = (result allocated.1).run (machine.withHeap allocated.2) := by
  intro allocated
  rw [allocate, EStateM.run_bind, run_argument_zero]
  simp only [EStateM.run_bind, run_ofFirmware, allocated, Heap.allocated]
  cases machine.firmware.heap.allocate? (machine.cpu.registers.get Reg.a0) with
  | some found => rfl
  | none => rfl

theorem run_release (machine : Machine) :
    release.run machine =
      .ok ()
        (machine.withHeap
          (machine.firmware.heap.after (.release (machine.cpu.registers.get Reg.a0)))) :=
  rfl

theorem run_serveTrap_of_startsHeap
    {machine : Machine}
    {start size : UInt32}
    (starts : machine.StartsHeap start size)
    (step : Action Unit) :
    (serveTrap step .tableA).run machine =
      .ok () (machine.atCaller.withHeap (.ofRange start size)) := by
  obtain ⟨asks, rfl, rfl⟩ := starts
  rw [run_serveTrap_of_asksLibrary asks]
  exact run_startHeap machine.atCaller

theorem run_serveTrap_of_allocates
    {machine : Machine}
    {size : UInt32}
    (allocates : machine.Requests (.allocate size))
    (step : Action Unit) :
    let allocated := machine.firmware.heap.allocated size
    (serveTrap step .tableA).run machine =
      (result allocated.1).run (machine.atCaller.withHeap allocated.2) := by
  obtain ⟨asks, rfl⟩ := allocates
  rw [run_serveTrap_of_asksLibrary asks]
  exact run_allocate machine.atCaller

theorem run_serveTrap_of_releases
    {machine : Machine}
    {address : UInt32}
    (releases : machine.Requests (.release address))
    (step : Action Unit) :
    (serveTrap step .tableA).run machine =
      .ok () (machine.atCaller.withHeap (machine.firmware.heap.after (.release address))) := by
  obtain ⟨asks, rfl⟩ := releases
  rw [run_serveTrap_of_asksLibrary asks]
  exact run_release machine.atCaller

/-- A request leaves the heap that it is meant to leave. -/
theorem heap_of_request
    {step : Action Unit}
    {machine after : Machine}
    {request : Heap.Request}
    (isMade : machine.Requests request)
    (served : (serveTrap step .tableA).run machine = .ok () after) :
    after.firmware.heap = machine.firmware.heap.after request := by
  cases request with
  | allocate size =>
      rw [run_serveTrap_of_allocates isMade step] at served
      obtain ⟨-, rfl⟩ := EStateM.Result.ok.inj served
      rfl
  | release address =>
      rw [run_serveTrap_of_releases isMade step] at served
      obtain ⟨-, rfl⟩ := EStateM.Result.ok.inj served
      rfl

end Action

/-! ## Machines with a heap -/

/--
A machine whose heap has been started with `size` bytes from `start` on, and has seen requests
since and nothing else.  Between calls the machine may become any other with the same heap.
-/
inductive Machine.HasHeap (step : Action Unit) (start size : UInt32) : Machine → Prop where
  | started
      {machine after : Machine}
      (starts : machine.StartsHeap start size)
      (served : (Action.serveTrap step .tableA).run machine = .ok () after) :
      HasHeap step start size after
  | elsewhere
      {machine other : Machine}
      (hasHeap : HasHeap step start size machine)
      (sameHeap : other.firmware.heap = machine.firmware.heap) :
      HasHeap step start size other
  | requested
      {machine after : Machine}
      {request : Heap.Request}
      (hasHeap : HasHeap step start size machine)
      (isMade : machine.Requests request)
      (served : (Action.serveTrap step .tableA).run machine = .ok () after) :
      HasHeap step start size after

namespace Machine.HasHeap

variable {step : Action Unit} {machine : Machine} {start size : UInt32}

/-- The heap is the one that the requests leave. -/
theorem exists_requests
    (hasHeap : machine.HasHeap step start size) :
    ∃ requests, machine.firmware.heap = (Heap.ofRange start size).afterAll requests := by
  induction hasHeap with
  | started starts served =>
      rw [Action.run_serveTrap_of_startsHeap starts] at served
      obtain ⟨-, rfl⟩ := EStateM.Result.ok.inj served
      exact ⟨[], rfl⟩
  | elsewhere hasHeap sameHeap inductionHypothesis =>
      rw [sameHeap]
      exact inductionHypothesis
  | @requested machine after request hasHeap isMade served inductionHypothesis =>
      obtain ⟨requests, isHeap⟩ := inductionHypothesis
      refine ⟨requests ++ [request], ?_⟩
      rw [Action.heap_of_request isMade served, isHeap, Heap.afterAll, Heap.afterAll,
        List.foldl_append]
      rfl

theorem isTiling
    (hasHeap : machine.HasHeap step start size) :
    Heap.IsTiling start (Heap.lengthFor size) machine.firmware.heap.blocks := by
  obtain ⟨requests, isHeap⟩ := hasHeap.exists_requests
  rw [isHeap]
  exact Heap.isTiling_afterAll start size requests

end Machine.HasHeap

/-! ## First fit -/

/--
What a request for `size` bytes is meant to do: take the start of the first free run with room for
it, or answer 0 and leave the heap alone if there is no such run.
-/
def Heap.AllocatesFirstFit
    (start : UInt32)
    (length : Nat)
    (size : UInt32)
    (heap : Heap)
    (answer : UInt32)
    (after : Heap) :
    Prop :=
  (∃ first count,
      IsFirstRun start length heap.blocks (wordsFor size) first count ∧
        answer = start + UInt32.ofNat first ∧
        (allocations after.blocks).Perm
          (⟨answer, wordsFor size, false⟩ :: allocations heap.blocks)) ∨
    (∀ first, ¬ IsFreeRun start length heap.blocks first (wordsFor size)) ∧
      answer = 0 ∧ after = heap

theorem Heap.IsTiling.allocatesFirstFit
    {start : UInt32}
    {length : Nat}
    {heap : Heap}
    (tiling : IsTiling start length heap.blocks)
    (inWord : length < 0x100000000)
    (size : UInt32) :
    heap.AllocatesFirstFit start length size (heap.allocated size).1 (heap.allocated size).2 := by
  rw [allocated]
  cases allocated : heap.allocate? size with
  | some found => exact .inl (tiling.allocate?_eq_some (Nat.le_of_lt inWord) allocated)
  | none => exact .inr ⟨(tiling.allocate?_eq_none_iff inWord).mp allocated, rfl, rfl⟩

/--
The heap is a first-fit allocator.  Its blocks tile it, its allocations lie in it and apart.  An
allocation takes the first free run with room for it and fails only if there is none.  Releasing
takes one allocation away, and does nothing at an address that is none.
-/
theorem heap_isFirstFit
    {step : Action Unit}
    {machine : Machine}
    {start size : UInt32}
    (hasHeap : machine.HasHeap step start size) :
    let heap := machine.firmware.heap
    let length := Heap.lengthFor size
    let allocations := Heap.allocations heap.blocks
    Heap.IsTiling start length heap.blocks ∧
      allocations.Pairwise HeapBlock.Apart ∧
      (∀ block ∈ allocations,
        ∀ address, block.Covers address → (address - start).toNat < length) ∧
      (∀ requested,
        machine.Requests (.allocate requested) →
        ∃ after,
          (Action.serveTrap step .tableA).run machine = .ok () after ∧
            heap.AllocatesFirstFit start length requested (after.cpu.registers.get Reg.v0)
              after.firmware.heap) ∧
      ∀ address,
        machine.Requests (.release address) →
        ∃ after,
          (Action.serveTrap step .tableA).run machine = .ok () after ∧
            if address ∈ allocations.map HeapBlock.address then
              Heap.allocations after.firmware.heap.blocks =
                allocations.filter fun block => block.address ≠ address
            else
              after = machine.atCaller := by
  intro heap length allocations
  have tiling := hasHeap.isTiling
  have below := Heap.lengthFor_lt size
  have inWord := Nat.le_of_lt below
  refine ⟨tiling, ?_, ?_, ?_, ?_⟩
  · exact (tiling.pairwise_apart inWord).sublist List.filter_sublist
  · intro block member address covers
    exact tiling.inside inWord (Heap.mem_allocations_iff.mp member).1 covers
  · intro requested isMade
    refine ⟨_, Action.run_serveTrap_of_allocates isMade step, ?_⟩
    have answer :
        (machine.cpu.registers.set Reg.v0 (heap.allocated requested).1).get Reg.v0 =
          (heap.allocated requested).1 :=
      Registers.get_set_self _ (by decide) _
    have fits := tiling.allocatesFirstFit below requested
    rw [← answer] at fits
    exact fits
  · intro address isMade
    refine ⟨_, Action.run_serveTrap_of_releases isMade step, ?_⟩
    split
    · next live => exact tiling.allocations_after_release inWord live
    · next notLive =>
        rw [Heap.after_release_of_notLive notLive]
        rfl

/-- A heap of 256 bytes with an allocation of 8 bytes. -/
def oneAllocation : Heap :=
  ⟨[⟨0x80100000, 8, false⟩, ⟨0x80100008, 0xF8, true⟩]⟩

theorem hasHeap_oneAllocation (number first second : UInt32) :
    (callingLibrary oneAllocation number first second).HasHeap (pure ()) 0x80100000 0x103 := by
  have starts : (callingLibrary .empty 0x39 0x80100000 0x103).StartsHeap 0x80100000 0x103 :=
    ⟨rfl, rfl, rfl⟩
  have started : Machine.HasHeap (pure ()) 0x80100000 0x103 _ :=
    .started starts (Action.run_serveTrap_of_startsHeap starts _)
  have asks :
      (callingLibrary (.ofRange 0x80100000 0x103) 0x33 5 0).HasHeap (pure ()) 0x80100000 0x103 :=
    .elsewhere started rfl
  have isMade :
      (callingLibrary (.ofRange 0x80100000 0x103) 0x33 5 0).Requests (.allocate 5) :=
    ⟨rfl, rfl⟩
  have requested : Machine.HasHeap (pure ()) 0x80100000 0x103 _ :=
    .requested asks isMade (Action.run_serveTrap_of_allocates isMade _)
  exact .elsewhere requested rfl

/-- A second allocation is placed behind the first. -/
theorem heap_isFirstFit_behindAllocation :
    (callingLibrary oneAllocation 0x33 4 0).HasHeap (pure ()) 0x80100000 0x103 ∧
      (callingLibrary oneAllocation 0x33 4 0).Requests (.allocate 4) ∧
      ∃ after,
        (Action.serveTrap (pure ()) .tableA).run (callingLibrary oneAllocation 0x33 4 0) =
            .ok () after ∧
          oneAllocation.AllocatesFirstFit 0x80100000 0x100 4 (after.cpu.registers.get Reg.v0)
            after.firmware.heap ∧
          after.cpu.registers.get Reg.v0 = 0x80100008 := by
  have hasHeap := hasHeap_oneAllocation 0x33 4 0
  have isMade : (callingLibrary oneAllocation 0x33 4 0).Requests (.allocate 4) := ⟨rfl, rfl⟩
  obtain ⟨-, -, -, allocates, -⟩ := heap_isFirstFit hasHeap
  obtain ⟨after, ran, isFirstFit⟩ := allocates 4 isMade
  refine ⟨hasHeap, isMade, after, ran, isFirstFit, ?_⟩
  rw [Action.run_serveTrap_of_allocates isMade] at ran
  obtain ⟨-, rfl⟩ := EStateM.Result.ok.inj ran
  exact Registers.get_set_self _ (by decide) _

end PsxPlayer
