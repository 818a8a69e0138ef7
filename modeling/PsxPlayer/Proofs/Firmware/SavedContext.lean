import PsxPlayer.Proofs.Firmware.LibraryCall
import PsxPlayer.Proofs.Memory.Store

namespace PsxPlayer

/-!
# Saved contexts

A function that saves its context gets back to where it did so, with the registers that it had
there, whatever the guest has done in between, provided that the buffer holds what was stored in
it.  The buffer is twelve words of RAM.  A word that begins in one image of RAM and ends in the
next one is not stored at all, so that an unaligned buffer must not lie across the end of an image.
-/

/-- The registers that a call preserves: s0 to s7, gp, sp, fp and ra. -/
def Reg.IsPreserved (register : Reg) : Prop :=
  16 ≤ register.val ∧ register.val ≤ 23 ∨ 28 ≤ register.val

instance (register : Reg) : Decidable register.IsPreserved :=
  inferInstanceAs (Decidable (_ ∨ _))

/-- A context holds the registers that a call preserves. -/
theorem mem_contextRegisters_iff :
    ∀ register : Reg, register ∈ contextRegisters ↔ register.IsPreserved := by
  decide

theorem nodup_contextRegisters : contextRegisters.Nodup := by
  decide

/-- A buffer of 48 bytes in RAM, of which no word lies across the end of an image. -/
structure HoldsContext (buffer : UInt32) : Prop where
  inRam : ∀ index, index < 48 → InRam (buffer + UInt32.ofNat index)
  isWhole : Width.word.aligned buffer = true ∨ buffer.toNat % 0x200000 + 48 ≤ 0x200000

namespace Machine

/-- The machine asks a library function to go back to a saved context. -/
structure AsksToGoBack
    (machine : Machine)
    (buffer value : UInt32) :
    Prop where
  asks : machine.AsksLibrary .restoreContext
  buffer : machine.cpu.registers.get Reg.a0 = buffer
  value : machine.cpu.registers.get Reg.a1 = value

/-- A machine goes on where another one called, with what a call of that one preserves. -/
structure GoesBackTo
    (machine caller : Machine)
    (value : UInt32)
    (after : Machine) :
    Prop where
  result : after.cpu.registers.get Reg.v0 = value
  place : after.cpu.registers.pc = caller.cpu.registers.get Reg.ra
  preserved :
    ∀ register : Reg,
      register.IsPreserved →
      after.cpu.registers.get register = caller.cpu.registers.get register
  sameRegisters :
    ∀ register : Reg,
      ¬ register.IsPreserved →
      register ≠ Reg.v0 →
      after.cpu.registers.get register = machine.cpu.registers.get register
  sameProduct :
    after.cpu.registers.hi = machine.cpu.registers.hi ∧
      after.cpu.registers.lo = machine.cpu.registers.lo
  sameOtherwise : after = machine.withRegisters after.cpu.registers

end Machine

/-! ## The words of a context -/

/-- The words that a context consists of, with their addresses. -/
def contextWords
    (registers : Registers)
    (address : UInt32)
    (saved : List Reg) :
    List (UInt32 × UInt32) :=
  saved.mapIdx fun index register => (address + UInt32.ofNat (4 * index), registers.get register)

theorem contextWords_cons
    (registers : Registers)
    (address : UInt32)
    (register : Reg)
    (rest : List Reg) :
    contextWords registers address (register :: rest) =
      (address, registers.get register) :: contextWords registers (address + 4) rest := by
  simp only [contextWords, List.mapIdx_cons, add_four_add_ofNat, Nat.mul_zero, add_ofNat_zero]

/-- The registers of a context are apart from the program counter. -/
theorem contextWords_atCaller
    (machine : Machine)
    (address : UInt32)
    (saved : List Reg) :
    contextWords machine.atCaller.cpu.registers address saved =
      contextWords machine.cpu.registers address saved :=
  rfl

namespace HoldsContext

variable {buffer : UInt32} {index : Nat} (holds : HoldsContext buffer)

include holds

theorem word
    (inside : index < 12) :
    LiesInRam (buffer + UInt32.ofNat (4 * index)) 4 := by
  have inRam := holds.inRam (4 * index) (by omega)
  obtain aligned | whole := holds.isWhole
  · -- an image is made of whole words
    have multiple := (aligned_iff .word buffer).mp aligned
    refine .inr ⟨inRam, ?_⟩
    simp only [Width.bytes] at multiple
    rw [UInt32.toNat_add, UInt32.toNat_ofNat']
    omega
  · have start := holds.inRam 0 (by decide)
    rw [add_ofNat_zero] at start
    have lies : LiesInRam buffer 48 := .inr ⟨start, whole⟩
    exact lies.slice (by omega)

theorem noPort
    (inside : index < 12) :
    port? (buffer + UInt32.ofNat (4 * index)) = none :=
  (holds.inRam (4 * index) (by omega)).noPort

theorem ramWord?_eq
    (inside : index < 12) :
    ramWord? (buffer + UInt32.ofNat (4 * index)) =
      some ((buffer.toNat + 4 * index) % 0x200000) := by
  rw [(holds.word inside).ramWord?_eq, UInt32.toNat_add, UInt32.toNat_ofNat']
  exact congrArg some (by omega)

/-- The words of a context do not overlap. -/
theorem apart
    {first second : Nat}
    (before : first < second)
    (inside : second < 12) :
    ramWordsApart (buffer + UInt32.ofNat (4 * first)) (buffer + UInt32.ofNat (4 * second)) =
      true := by
  have firstRoom := le_size_of_ramWord? (holds.ramWord?_eq (Nat.lt_trans before inside))
  have secondRoom := le_size_of_ramWord? (holds.ramWord?_eq inside)
  have size : Region.ram.size = 0x200000 := rfl
  rw [size] at firstRoom secondRoom
  rw [ramWordsApart, holds.ramWord?_eq (Nat.lt_trans before inside), holds.ramWord?_eq inside]
  simp only [Bool.or_eq_true, decide_eq_true_eq]
  omega

/-- The words of a context read back. -/
theorem read_contextWords
    {space : AddressSpace}
    (sized : space.IsSized)
    (registers : Registers)
    (inside : index < 12) :
    (space.writeWords (contextWords registers buffer contextRegisters)).read .word
        (buffer + UInt32.ofNat (4 * index)) =
      registers.get contextRegisters[index] := by
  have isLong : (contextWords registers buffer contextRegisters).length = 12 :=
    List.length_mapIdx
  refine AddressSpace.read_writeWords (sized .ram) ?_ ?_ (List.mem_mapIdx.mpr ⟨index, inside, rfl⟩)
  · intro entry member
    obtain ⟨place, within, rfl⟩ := List.mem_mapIdx.mp member
    exact Option.isSome_iff_exists.mpr ⟨_, holds.ramWord?_eq within⟩
  · refine List.pairwise_iff_getElem.mpr fun first second _ within before => ?_
    simp only [contextWords, List.getElem_mapIdx]
    exact holds.apart before (isLong ▸ within)

end HoldsContext

/-! ## Loading a context -/

namespace Bus

variable (bus : Bus) {loaded : List Reg} (registers : Registers)

/-- No context holds HI and LO. -/
theorem product_contextAt (address : UInt32) :
    (bus.contextAt address loaded registers).hi = registers.hi ∧
      (bus.contextAt address loaded registers).lo = registers.lo := by
  induction loaded generalizing address registers with
  | nil => exact ⟨rfl, rfl⟩
  | cons register rest inductionHypothesis =>
      rw [contextAt]
      obtain ⟨sameHi, sameLo⟩ := inductionHypothesis (registers.set register _) (address + 4)
      exact ⟨sameHi.trans (Registers.hi_set _ _ _), sameLo.trans (Registers.lo_set _ _ _)⟩

/-- Each register is loaded from its word. -/
theorem get_contextAt
    (distinct : loaded.Nodup)
    (noZero : (0 : Reg) ∉ loaded)
    (address : UInt32)
    {index : Nat}
    (inside : index < loaded.length) :
    (bus.contextAt address loaded registers).get loaded[index] =
      bus.read .word (address + UInt32.ofNat (4 * index)) := by
  induction loaded generalizing address registers index with
  | nil => cases inside
  | cons register rest inductionHypothesis =>
      rw [List.nodup_cons] at distinct
      rw [List.mem_cons, not_or] at noZero
      rw [contextAt]
      cases index with
      | zero =>
          rw [List.getElem_cons_zero, get_contextAt_of_notMem _ distinct.1,
            Registers.get_set_self _ (Ne.symm noZero.1), Nat.mul_zero, add_ofNat_zero]
      | succ index =>
          rw [List.getElem_cons_succ,
            inductionHypothesis _ distinct.2 noZero.2 (address + 4) (Nat.lt_of_succ_lt_succ inside),
            add_four_add_ofNat]

end Bus

namespace Action

theorem run_writeContext
    {address : UInt32}
    {saved : List Reg}
    (noPort :
      ∀ index, index < saved.length → port? (address + UInt32.ofNat (4 * index)) = none)
    (machine : Machine) :
    (writeContext address saved).run machine =
      .ok ()
        (machine.withMemory
          (machine.bus.memory.writeWords
            (contextWords machine.cpu.registers address saved))) := by
  induction saved generalizing address machine with
  | nil => rfl
  | cons register rest inductionHypothesis =>
      have here := noPort 0 (Nat.zero_lt_succ _)
      rw [Nat.mul_zero, add_ofNat_zero] at here
      rw [writeContext, EStateM.run_bind, run_getReg]
      simp only
      rw [EStateM.run_bind, run_write_of_noPort here]
      simp only
      rw [inductionHypothesis, contextWords_cons]
      · rfl
      · intro index inside
        rw [add_four_add_ofNat]
        exact noPort (index + 1) (Nat.succ_lt_succ inside)

section

variable {machine : Machine} {buffer : UInt32}
  (noPort : ∀ index, index < 12 → port? (buffer + UInt32.ofNat (4 * index)) = none)
  (isBuffer : machine.cpu.registers.get Reg.a0 = buffer)

include noPort isBuffer

/-- Saving a context stores the registers that it holds. -/
theorem run_callLibrary_saveContext :
    (callLibrary .saveContext).run machine =
      .ok ()
        (machine.answered 0
          (machine.bus.memory.writeWords
            (contextWords machine.cpu.registers buffer contextRegisters))) := by
  subst isBuffer
  have stored := @run_writeContext _ contextRegisters noPort machine
  rw [callLibrary, EStateM.run_bind, run_argument_zero]
  simp only
  rw [EStateM.run_bind, stored]
  rfl

theorem run_serveTrap_of_asksToSave
    (asks : machine.AsksLibrary .saveContext)
    (step : Action Unit) :
    (serveTrap step .tableA).run machine =
      .ok ()
        (machine.atCaller.answered 0
          (machine.bus.memory.writeWords
            (contextWords machine.cpu.registers buffer contextRegisters))) := by
  have saved := @run_callLibrary_saveContext machine.atCaller _ noPort isBuffer
  rw [contextWords_atCaller] at saved
  rw [run_serveTrap_of_asksLibrary asks]
  exact saved

end

theorem run_serveTrap_of_asksToGoBack
    {machine : Machine}
    {buffer value : UInt32}
    (goesBack : machine.AsksToGoBack buffer value)
    (step : Action Unit) :
    (serveTrap step .tableA).run machine =
      .ok () (machine.atCaller.restored buffer value) := by
  have isBuffer : machine.atCaller.cpu.registers.get Reg.a0 = buffer := goesBack.buffer
  have isValue : machine.atCaller.cpu.registers.get Reg.a1 = value := goesBack.value
  rw [run_serveTrap_of_asksLibrary goesBack.asks, run_callLibrary_restoreContext, isBuffer,
    isValue]

end Action

/-! ## Going back -/

namespace Machine

@[simp]
theorem pc_restored (machine : Machine) (address value : UInt32) :
    (machine.restored address value).cpu.registers.pc = machine.bus.read .word address := by
  rw [restored, withRegisters_registers]

theorem product_restored (machine : Machine) (address value : UInt32) :
    (machine.restored address value).cpu.registers.hi = machine.cpu.registers.hi ∧
      (machine.restored address value).cpu.registers.lo = machine.cpu.registers.lo := by
  simp only [restored, withRegisters_registers, Registers.hi_set, Registers.lo_set]
  exact machine.bus.product_contextAt _ _

/-- A register that a context holds is loaded from its word. -/
theorem get_restored_of_saved
    (machine : Machine)
    {index : Nat}
    (inside : index < 12)
    (address value : UInt32) :
    (machine.restored address value).cpu.registers.get contextRegisters[index] =
      machine.bus.read .word (address + UInt32.ofNat (4 * index)) := by
  have isSaved : contextRegisters[index] ∈ contextRegisters := List.getElem_mem inside
  have differs : Reg.v0 ≠ contextRegisters[index] := fun same =>
    absurd (same ▸ isSaved) (by decide)
  rw [restored, withRegisters_registers, Registers.get_pc,
    Registers.get_set_of_ne _ differs,
    Bus.get_contextAt _ _ nodup_contextRegisters (by decide) _ inside]

/-- Restoring a context brings back the registers whose words it finds. -/
theorem goesBackTo_restored
    {machine caller : Machine}
    {buffer : UInt32}
    (found :
      ∀ index (inside : index < 12),
        machine.bus.read .word (buffer + UInt32.ofNat (4 * index)) =
          caller.cpu.registers.get contextRegisters[index])
    (value : UInt32) :
    machine.GoesBackTo caller value (machine.atCaller.restored buffer value) where
  result := v0_restored _ _ _
  place := by
    have first := found 0 (by decide)
    rw [Nat.mul_zero, add_ofNat_zero] at first
    rw [pc_restored]
    exact first
  preserved register preserved := by
    have isSaved := (mem_contextRegisters_iff register).mpr preserved
    obtain ⟨index, inside, rfl⟩ := List.getElem_of_mem isSaved
    rw [get_restored_of_saved _ inside]
    exact found index inside
  sameRegisters register unpreserved differs := by
    have unsaved := mt (mem_contextRegisters_iff register).mp unpreserved
    exact get_restored machine.atCaller unsaved differs.symm _ _
  sameProduct := product_restored machine.atCaller _ _
  sameOtherwise := by
    rw [restored, withRegisters_registers]
    rfl

end Machine

/--
A context that has been saved is restored later on, whatever the machine has done since, if it
finds the bytes of the buffer unchanged.
-/
theorem restoreContext_goesBack
    {step : Action Unit}
    {machine : Machine}
    {buffer : UInt32}
    (asks : machine.AsksLibrary .saveContext)
    (isBuffer : machine.cpu.registers.get Reg.a0 = buffer)
    (sized : machine.bus.memory.IsSized)
    (holds : HoldsContext buffer) :
    ∃ saved,
      (Action.serveTrap step .tableA).run machine = .ok () saved ∧
        machine.ReturnsWith 0 saved ∧
        ∀ later value,
          later.AsksToGoBack buffer value →
          (∀ index,
            index < 48 →
            later.bus.memory.readByte (buffer + UInt32.ofNat index) =
              saved.bus.memory.readByte (buffer + UInt32.ofNat index)) →
          ∃ after,
            (Action.serveTrap step .tableA).run later = .ok () after ∧
              later.GoesBackTo machine value after := by
  refine
    ⟨_, Action.run_serveTrap_of_asksToSave (fun _ => holds.noPort) isBuffer asks step,
      machine.returnsWith_answered _ _, fun later value goesBack unchanged => ?_⟩
  refine
    ⟨_, Action.run_serveTrap_of_asksToGoBack goesBack step,
      Machine.goesBackTo_restored (fun index inside => ?_) value⟩
  -- the words that are found are those that were stored, byte by byte
  rw [Bus.read_of_noPort (holds.noPort inside),
    ← holds.read_contextWords sized machine.cpu.registers inside]
  refine AddressSpace.read_word_congr (holds.word inside) fun lane inWord => ?_
  rw [add_ofNat_add_ofNat, unchanged (4 * index + lane) (by omega), Machine.memory_answered]

/-- A machine that saves its context, to go on at 0x80010000. -/
def askingToSave (buffer : UInt32) : Machine :=
  let machine := callingLibrary .empty 0x13 buffer 0
  (machine.withRegisters (machine.cpu.registers.set Reg.ra 0x80010000)).withMemory
    AddressSpace.blank.setUp

/-- The machine goes back to a context, from a function that was called in between. -/
def Machine.askingToGoBack (machine : Machine) (value : UInt32) : Machine :=
  let registers := (machine.cpu.registers.set Reg.ra 0x80020000).set Reg.t1 0x14
  machine.withRegisters (registers.set Reg.a1 value)

theorem Machine.ReturnsWith.asksToGoBack
    {machine saved : Machine}
    (returns : machine.ReturnsWith 0 saved)
    (value : UInt32) :
    (saved.askingToGoBack value).AsksToGoBack (machine.cpu.registers.get Reg.a0) value where
  asks := by
    rw [AsksLibrary, askingToGoBack, withRegisters_registers,
      Registers.get_set_of_ne _ (by decide), Registers.get_set_self _ (by decide)]
    decide
  buffer := by
    rw [askingToGoBack, withRegisters_registers, Registers.get_set_of_ne _ (by decide),
      Registers.get_set_of_ne _ (by decide), Registers.get_set_of_ne _ (by decide)]
    exact returns.sameRegisters _ (by decide)
  value := Registers.get_set_self _ (by decide) _

/-- A context that has been saved, and gone back to with the answer 7. -/
theorem restoreContext_goesBack_fromCallee :
    (askingToSave 0x80010100).AsksLibrary .saveContext ∧
      HoldsContext 0x80010100 ∧
      ∃ saved after,
        (Action.serveTrap (pure ()) .tableA).run (askingToSave 0x80010100) = .ok () saved ∧
          (Action.serveTrap (pure ()) .tableA).run (saved.askingToGoBack 7) = .ok () after ∧
          after.cpu.registers.pc = 0x80010000 ∧
          after.cpu.registers.get Reg.ra = 0x80010000 ∧
          after.cpu.registers.get Reg.v0 = 7 := by
  have asks : (askingToSave 0x80010100).AsksLibrary .saveContext := rfl
  have lies : LiesInRam 0x80010100 48 := .inr ⟨⟨0x10100, by decide, by decide⟩, by decide⟩
  have holds : HoldsContext 0x80010100 := ⟨fun _ => lies.inRam, .inl (by decide)⟩
  obtain ⟨saved, ranSave, returns, goesBack⟩ :=
    restoreContext_goesBack asks rfl AddressSpace.isSized_blank.setUp holds
  obtain ⟨after, ranBack, goes⟩ :=
    goesBack (saved.askingToGoBack 7) 7 (returns.asksToGoBack 7) fun _ _ => rfl
  exact
    ⟨asks, holds, saved, after, ranSave, ranBack, goes.place, goes.preserved Reg.ra (by decide),
      goes.result⟩

/--
The first word of this buffer begins in one image of RAM and ends in the next one: the return
address is lost.
-/
theorem savedContext_isLost_acrossImageEnd :
    (askingToSave 0x801FFFFE).AsksLibrary .saveContext ∧
      (askingToSave 0x801FFFFE).cpu.registers.get Reg.a0 = 0x801FFFFE ∧
      (askingToSave 0x801FFFFE).bus.memory.IsSized ∧
      (∀ index, index < 48 → InRam (0x801FFFFE + UInt32.ofNat index)) ∧
      ∃ saved after,
        (Action.serveTrap (pure ()) .tableA).run (askingToSave 0x801FFFFE) = .ok () saved ∧
          (saved.askingToGoBack 7).AsksToGoBack 0x801FFFFE 7 ∧
          (saved.askingToGoBack 7).bus.memory = saved.bus.memory ∧
          (Action.serveTrap (pure ()) .tableA).run (saved.askingToGoBack 7) = .ok () after ∧
          (askingToSave 0x801FFFFE).cpu.registers.get Reg.ra = 0x80010000 ∧
          after.cpu.registers.pc = 0 := by
  have start : InRam 0x801FFFFE := ⟨0x1FFFFE, by decide, by decide⟩
  have inRam (index : Nat) (inside : index < 48) : InRam (0x801FFFFE + UInt32.ofNat index) :=
    start.add_of_lt (show 0x1FFFFE + index < 0x800000 by omega)
  have noPort (index : Nat) (inside : index < 12) :=
    (inRam (4 * index) (by omega)).noPort
  have asks : (askingToSave 0x801FFFFE).AsksLibrary .saveContext := rfl
  have isBuffer : (askingToSave 0x801FFFFE).cpu.registers.get Reg.a0 = 0x801FFFFE := rfl
  obtain ⟨memory, ranSave⟩ :
      ∃ memory,
        (Action.serveTrap (pure ()) .tableA).run (askingToSave 0x801FFFFE) =
          .ok () ((askingToSave 0x801FFFFE).atCaller.answered 0 memory) :=
    ⟨_, Action.run_serveTrap_of_asksToSave noPort isBuffer asks _⟩
  have goesBack := ((askingToSave 0x801FFFFE).returnsWith_answered 0 memory).asksToGoBack 7
  rw [isBuffer] at goesBack
  refine
    ⟨asks, isBuffer, AddressSpace.isSized_blank.setUp, inRam, _, _, ranSave, goesBack, rfl,
      Action.run_serveTrap_of_asksToGoBack goesBack _, rfl, ?_⟩
  have refused : place? 0x801FFFFE Width.word.bytes = none := by decide
  rw [Machine.pc_restored, Bus.read_of_noPort start.noPort]
  simp only [AddressSpace.read, refused]

end PsxPlayer
