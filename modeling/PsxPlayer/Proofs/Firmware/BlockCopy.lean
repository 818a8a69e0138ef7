import PsxPlayer.Proofs.Firmware.LibraryCall
import PsxPlayer.Proofs.Memory.Store

namespace PsxPlayer

/-!
# Copies of blocks

Two library functions bring a block of memory from one place to another.  One of them reads the
whole block before it stores any of it, so that it is right whatever overlaps, also under the
names that other segments give to the same bytes.  The other one goes byte by byte and agrees with
the first wherever it does not run into what it has stored.
-/

namespace Machine

/-- The machine asks a library function to bring a block of `length` bytes to `target`. -/
structure AsksToBring
    (machine : Machine)
    (function : LibraryFunction)
    (target source : UInt32)
    (length : Nat) :
    Prop where
  asks : machine.AsksLibrary function
  target : machine.cpu.registers.get Reg.a0 = target
  source : machine.cpu.registers.get Reg.a1 = source
  length : (signed (machine.cpu.registers.get Reg.a2)).toNat = length

/-- A block has been brought to `target` as it was before, and no other byte has changed. -/
structure BringsBlock
    (machine : Machine)
    (target source : UInt32)
    (length : Nat)
    (after : Machine) :
    Prop where
  brought :
    ∀ index,
      index < length →
      ∀ other,
        storedAt? other = storedAt? (target + UInt32.ofNat index) →
        after.bus.memory.readByte other =
          machine.bus.memory.readByte (source + UInt32.ofNat index)
  spared :
    ∀ other,
      (∀ index,
        index < length → storedAt? other ≠ storedAt? (target + UInt32.ofNat index)) →
      after.bus.memory.readByte other = machine.bus.memory.readByte other

theorem bringsBlock_of_stays
    {machine after : Machine}
    {target source : UInt32}
    {length : Nat}
    (sized : machine.bus.memory.IsSized)
    (stays : StaysInRam target length)
    (stores :
      after.bus.memory =
        machine.bus.memory.storeBytes target (machine.bus.memory.bytesFrom source length)) :
    machine.BringsBlock target source length after := by
  have isLong := machine.bus.memory.length_bytesFrom source length
  refine ⟨fun index inside other same => ?_, fun other apart => ?_⟩
  · rw [← isLong] at stays inside
    rw [stores, AddressSpace.readByte_storeBytes_of_stays sized stays inside same,
      AddressSpace.getElem_bytesFrom]
  · rw [stores, AddressSpace.readByte_storeBytes_of_apart]
    rwa [isLong]

theorem bringsBlock_storeBytes
    {machine after : Machine}
    {target source : UInt32}
    {length : Nat}
    (sized : machine.bus.memory.IsSized)
    (lies : LiesInRam target length)
    (stores :
      after.bus.memory =
        machine.bus.memory.storeBytes target (machine.bus.memory.bytesFrom source length)) :
    machine.BringsBlock target source length after :=
  bringsBlock_of_stays sized lies.staysInRam stores

end Machine

/-! ## Running the copies -/

namespace Action

theorem run_lengthArgument_two (machine : Machine) :
    (lengthArgument 2).run machine =
      .ok (signed (machine.cpu.registers.get Reg.a2)).toNat machine :=
  rfl

theorem run_writeBytes
    {address : UInt32}
    {bytes : List UInt8}
    (noPort : ∀ index, index < bytes.length → port? (address + UInt32.ofNat index) = none)
    (machine : Machine) :
    (writeBytes address bytes).run machine =
      .ok () (machine.withMemory (machine.bus.memory.storeBytes address bytes)) := by
  induction bytes generalizing address machine with
  | nil => rfl
  | cons byte rest inductionHypothesis =>
      have here := noPort 0 (Nat.zero_lt_succ _)
      rw [add_ofNat_zero] at here
      rw [writeBytes, EStateM.run_bind, run_write_of_noPort here]
      simp only
      rw [inductionHypothesis]
      · rfl
      · intro index inside
        rw [add_one_add_ofNat]
        exact noPort (index + 1) (Nat.succ_lt_succ inside)

theorem run_copyBytes
    {target source : UInt32}
    {count : Nat}
    (noPort :
      ∀ index,
        index < count →
        port? (target + UInt32.ofNat index) = none ∧ port? (source + UInt32.ofNat index) = none)
    (machine : Machine) :
    (copyBytes target source count).run machine =
      .ok () (machine.withMemory (machine.bus.memory.copyUpwards target source count)) := by
  induction count generalizing target source machine with
  | zero => rfl
  | succ count inductionHypothesis =>
      have here := noPort 0 (Nat.zero_lt_succ _)
      rw [add_ofNat_zero, add_ofNat_zero] at here
      rw [copyBytes, EStateM.run_bind, run_read, Bus.read_of_noPort here.2]
      simp only
      rw [EStateM.run_bind, run_write_of_noPort here.1]
      simp only
      rw [inductionHypothesis]
      · rfl
      · intro index inside
        rw [add_one_add_ofNat, add_one_add_ofNat]
        exact noPort (index + 1) (Nat.succ_lt_succ inside)

theorem toList_appendBytes
    (bus : Bus)
    {address : UInt32}
    {count : Nat}
    (noPort : ∀ index, index < count → port? (address + UInt32.ofNat index) = none)
    (found : ByteArray) :
    (appendBytes bus address count found).toList =
      found.toList ++ bus.memory.bytesFrom address count := by
  induction count generalizing address found with
  | zero => exact (List.append_nil _).symm
  | succ count inductionHypothesis =>
      have here := noPort 0 (Nat.zero_lt_succ _)
      rw [add_ofNat_zero] at here
      rw [appendBytes, inductionHypothesis, toList_push, Bus.readByte_of_noPort here,
        AddressSpace.bytesFrom_succ, List.append_assoc, List.singleton_append]
      intro index inside
      rw [add_one_add_ofNat]
      exact noPort (index + 1) (Nat.succ_lt_succ inside)

section

variable {machine : Machine} {target source : UInt32} {length : Nat}
  (targetLies : LiesInRam target length) (sourceLies : LiesInRam source length)
  (isTarget : machine.cpu.registers.get Reg.a0 = target)
  (isSource : machine.cpu.registers.get Reg.a1 = source)
  (isLength : (signed (machine.cpu.registers.get Reg.a2)).toNat = length)

include targetLies sourceLies isTarget isSource isLength

/-- Moving a block stores what has been read before. -/
theorem run_callLibrary_moveBlock :
    (callLibrary .moveBlock).run machine =
      .ok ()
        (machine.answered target
          (machine.bus.memory.storeBytes target
            (machine.bus.memory.bytesFrom source length))) := by
  subst isTarget isSource isLength
  have read :=
    toList_appendBytes machine.bus (fun index inside => sourceLies.noPort inside)
      ByteArray.empty
  rw [ByteArray.toList_empty, List.nil_append] at read
  rw [callLibrary, moveBlock, EStateM.run_bind, run_argument_zero]
  simp only
  rw [EStateM.run_bind, run_argument_one]
  simp only
  rw [EStateM.run_bind, run_lengthArgument_two]
  simp only
  rw [EStateM.run_bind, run_ofBus]
  simp only
  rw [read, EStateM.run_bind, run_writeBytes]
  · rfl
  · intro index inside
    rw [AddressSpace.length_bytesFrom] at inside
    exact targetLies.noPort inside

/-- Copying a block goes upwards byte by byte. -/
theorem run_callLibrary_copyBlock :
    (callLibrary .copyBlock).run machine =
      .ok ()
        (machine.answered target (machine.bus.memory.copyUpwards target source length)) := by
  subst isTarget isSource isLength
  rw [callLibrary, EStateM.run_bind, run_argument_zero]
  simp only
  rw [EStateM.run_bind, run_argument_one]
  simp only
  rw [EStateM.run_bind, run_lengthArgument_two]
  simp only
  rw [EStateM.run_bind, run_copyBytes]
  · rfl
  · exact fun index inside => ⟨targetLies.noPort inside, sourceLies.noPort inside⟩

end

end Action

/-! ## The copies -/

/--
Moving a block copies it as if through a buffer, whatever overlaps, and changes no other byte.
Copying it leaves the same memory if the target does not start inside of the block behind its
first byte.  Both give back the target and return to the caller.
-/
theorem moveBlock_isBuffered
    {step : Action Unit}
    {mover copier : Machine}
    {target source : UInt32}
    {length : Nat}
    (moves : mover.AsksToBring .moveBlock target source length)
    (copies : copier.AsksToBring .copyBlock target source length)
    (sameMemory : copier.bus.memory = mover.bus.memory)
    (sized : mover.bus.memory.IsSized)
    (targetLies : LiesInRam target length)
    (sourceLies : LiesInRam source length) :
    ∃ moved copied,
      (Action.serveTrap step .tableA).run mover = .ok () moved ∧
        (Action.serveTrap step .tableA).run copier = .ok () copied ∧
        mover.ReturnsWith target moved ∧
        copier.ReturnsWith target copied ∧
        mover.BringsBlock target source length moved ∧
        (target.toNat % 0x200000 ≤ source.toNat % 0x200000 ∨
            source.toNat % 0x200000 + length ≤ target.toNat % 0x200000 →
          copied.bus.memory = moved.bus.memory) := by
  have moved :=
    @Action.run_callLibrary_moveBlock mover.atCaller _ _ _ targetLies sourceLies moves.target
      moves.source moves.length
  have copied :=
    @Action.run_callLibrary_copyBlock copier.atCaller _ _ _ targetLies sourceLies copies.target
      copies.source copies.length
  rw [← Action.run_serveTrap_of_asksLibrary moves.asks step] at moved
  rw [← Action.run_serveTrap_of_asksLibrary copies.asks step] at copied
  refine
    ⟨_, _, moved, copied, mover.returnsWith_answered _ _, copier.returnsWith_answered _ _,
      Machine.bringsBlock_storeBytes sized targetLies rfl, fun isClear => ?_⟩
  let copyOf (memory : AddressSpace) : AddressSpace :=
    memory.storeBytes target (memory.bytesFrom source length)
  exact
    (AddressSpace.copyUpwards_inRam targetLies sourceLies isClear).trans
      (congrArg copyOf sameMemory)

/-- Eight bytes, of which the last six are to go to the start under another name. -/
def askingToBring (number : UInt32) : Machine :=
  let machine := callingLibrary .empty number 0x80010000 0xA0010002
  (machine.withRegisters (machine.cpu.registers.set Reg.a2 6)).withMemory
    (AddressSpace.blank.setUp.storeBytes 0x80010000 [1, 2, 3, 4, 5, 6, 7, 8])

/-- Both calls on a source and a target that overlap through an alias of RAM. -/
theorem moveBlock_isBuffered_throughAlias :
    (askingToBring 0x2C).AsksToBring .moveBlock 0x80010000 0xA0010002 6 ∧
      (askingToBring 0x2A).AsksToBring .copyBlock 0x80010000 0xA0010002 6 ∧
      LiesInRam 0x80010000 6 ∧
      LiesInRam 0xA0010002 6 ∧
      ∃ moved copied,
        (Action.serveTrap (pure ()) .tableA).run (askingToBring 0x2C) = .ok () moved ∧
          (Action.serveTrap (pure ()) .tableA).run (askingToBring 0x2A) = .ok () copied ∧
          copied.bus.memory = moved.bus.memory ∧
          moved.bus.memory.readByte 0x00010003 = 6 := by
  have moves : (askingToBring 0x2C).AsksToBring .moveBlock 0x80010000 0xA0010002 6 :=
    ⟨rfl, rfl, rfl, rfl⟩
  have copies : (askingToBring 0x2A).AsksToBring .copyBlock 0x80010000 0xA0010002 6 :=
    ⟨rfl, rfl, rfl, rfl⟩
  have sized := AddressSpace.isSized_blank.setUp
  have wholeLies : LiesInRam 0x80010000 8 := .inr ⟨⟨0x10000, by decide, by decide⟩, by decide⟩
  have targetLies : LiesInRam 0x80010000 6 := .inr ⟨⟨0x10000, by decide, by decide⟩, by decide⟩
  have sourceLies : LiesInRam 0xA0010002 6 := .inr ⟨⟨0x10002, by decide, by decide⟩, by decide⟩
  obtain ⟨moved, copied, ranMove, ranCopy, -, -, brings, agrees⟩ :=
    moveBlock_isBuffered moves copies rfl (sized.storeBytes _ _) targetLies sourceLies
  refine
    ⟨moves, copies, targetLies, sourceLies, moved, copied, ranMove, ranCopy,
      agrees (.inl (by decide)), ?_⟩
  have sameByte : storedAt? 0x00010003 = storedAt? (0x80010000 + UInt32.ofNat 3) := by decide
  have sourceAlias :
      storedAt? (0xA0010002 + UInt32.ofNat 3) = storedAt? (0x80010000 + UInt32.ofNat 5) := by
    decide
  rw [brings.brought 3 (by decide) _ sameByte]
  exact AddressSpace.readByte_storeBytes_of_alias sized wholeLies (by decide) sourceAlias

end PsxPlayer
