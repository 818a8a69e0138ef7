import PsxPlayer.Proofs.Cpu.Guest
import PsxPlayer.Proofs.Memory.Lane

namespace PsxPlayer

/-!
# Unaligned words

A word at any address lies in two aligned words at most.  One instruction moves the part
of it from its lowest address on, another one the part up to its highest address.  In
either order, the two move all of its bytes and no others.
-/

open PsxPlayer.Action

/-! ## The two parts of a word -/

/-- The part of a word from its lowest address on, or the part up to its highest one. -/
inductive WordPart where
  | lower
  | upper
  deriving DecidableEq, Repr

namespace WordPart

def other : WordPart → WordPart
  | .lower => .upper
  | .upper => .lower

def loadOp : WordPart → LoadOp
  | .lower => .right
  | .upper => .left

def storeOp : WordPart → StoreOp
  | .lower => .right
  | .upper => .left

/-- The byte of the word at which the instruction for a part points. -/
def reach : WordPart → UInt32
  | .lower => 0
  | .upper => 3

/-- The aligned word that holds a part of the word at an address. -/
def home (part : WordPart) (address : UInt32) : UInt32 :=
  alignedWord (address + part.reach)

/-- A part of the word at an address has one of its bytes. -/
def Covers (part : WordPart) (address : UInt32) (lane : Nat) : Prop :=
  match part with
  | .lower => lane + (address + part.reach).toNat % 4 < 4
  | .upper => lane < 4 ∧ 3 ≤ lane + (address + part.reach).toNat % 4

/-- The lane of the aligned word in which a part has a byte. -/
def place (part : WordPart) (address : UInt32) (lane : Nat) : Nat :=
  match part with
  | .lower => lane + (address + part.reach).toNat % 4
  | .upper => lane + (address + part.reach).toNat % 4 - 3

/-- The register after a part of the word at an address has been loaded. -/
def loaded (part : WordPart) (address old memory : UInt32) : UInt32 :=
  match part with
  | .lower => pasteDown (bitsBelow (address + part.reach)) old memory
  | .upper => pasteUp (bitsAbove (address + part.reach)) old memory

/-- The aligned word after a part of the word at an address has been stored. -/
def stored (part : WordPart) (address memory value : UInt32) : UInt32 :=
  match part with
  | .lower => pasteUp (bitsBelow (address + part.reach)) memory value
  | .upper => pasteDown (bitsAbove (address + part.reach)) memory value

variable {part : WordPart} {address : UInt32} {lane : Nat}

/-- The address of the instruction for a part. -/
theorem toNat_add_reach (part : WordPart) (address : UInt32) :
    (address + part.reach).toNat =
      match part with
      | .lower => address.toNat
      | .upper => (address.toNat + 3) % 2 ^ 32 := by
  cases part with
  | lower => exact congrArg UInt32.toNat (UInt32.add_zero address)
  | upper => exact UInt32.toNat_add _ _

/-- The two parts make up the word. -/
theorem covers_or_other (part : WordPart) (address : UInt32) (inWord : lane < 4) :
    part.Covers address lane ∨ part.other.Covers address lane := by
  cases part <;> simp only [other, Covers, toNat_add_reach] <;> omega

theorem Covers.inWord (covers : part.Covers address lane) : lane < 4 := by
  cases part <;> simp only [Covers] at covers <;> omega

theorem Covers.inHome (covers : part.Covers address lane) :
    part.place address lane < 4 := by
  cases part <;> simp only [Covers, place] at covers ⊢ <;> omega

/-- A byte of a part is in the aligned word of the part. -/
theorem Covers.address_eq (covers : part.Covers address lane) :
    address + UInt32.ofNat lane =
      part.home address + UInt32.ofNat (part.place address lane) := by
  have small := address.toNat_lt
  rw [← UInt32.toNat_inj, home, UInt32.toNat_add, UInt32.toNat_add, toNat_alignedWord,
    UInt32.toNat_ofNat', UInt32.toNat_ofNat']
  cases part <;> simp only [Covers, place, toNat_add_reach] at covers ⊢ <;> omega

theorem laneByte_loaded_of_covers
    (covers : part.Covers address lane)
    (old memory : UInt32) :
    laneByte (part.loaded address old memory) lane =
      laneByte memory (part.place address lane) := by
  have inWord := covers.inWord
  cases part with
  | lower =>
      rw [loaded, laneByte_pasteDown (toNat_bitsBelow _) (by omega) inWord]
      exact if_pos covers
  | upper =>
      simp only [Covers] at covers
      rw [loaded, laneByte_pasteUp (toNat_bitsAbove _) (by omega) inWord,
        if_pos (by omega), place]
      congr 1
      omega

theorem laneByte_loaded_of_apart
    (inWord : lane < 4)
    (apart : ¬part.Covers address lane)
    (old memory : UInt32) :
    laneByte (part.loaded address old memory) lane = laneByte old lane := by
  cases part with
  | lower =>
      rw [loaded, laneByte_pasteDown (toNat_bitsBelow _) (by omega) inWord]
      exact if_neg apart
  | upper =>
      simp only [Covers] at apart
      rw [loaded, laneByte_pasteUp (toNat_bitsAbove _) (by omega) inWord,
        if_neg (by omega)]

theorem laneByte_stored_of_covers
    (covers : part.Covers address lane)
    (memory value : UInt32) :
    laneByte (part.stored address memory value) (part.place address lane) =
      laneByte value lane := by
  have home := covers.inHome
  cases part with
  | lower =>
      simp only [place] at home ⊢
      rw [stored, laneByte_pasteUp (toNat_bitsBelow _) (by omega) home,
        if_pos (by omega)]
      congr 1
      omega
  | upper =>
      simp only [Covers, place] at covers home ⊢
      rw [stored, laneByte_pasteDown (toNat_bitsAbove _) (by omega) home,
        if_pos (by omega)]
      congr 1
      omega

/-- A lane of the aligned word that is not in the part keeps its byte. -/
theorem laneByte_stored_of_apart
    {home : Nat}
    (inWord : home < 4)
    (apart : ∀ lane, part.Covers address lane → part.place address lane ≠ home)
    (memory value : UInt32) :
    laneByte (part.stored address memory value) home = laneByte memory home := by
  cases part with
  | lower =>
      simp only [Covers, place] at apart
      rw [stored, laneByte_pasteUp (toNat_bitsBelow _) (by omega) inWord, if_neg]
      intro above
      exact apart (home - (address + WordPart.lower.reach).toNat % 4) (by omega) (by omega)
  | upper =>
      simp only [Covers, place] at apart
      rw [stored, laneByte_pasteDown (toNat_bitsAbove _) (by omega) inWord, if_neg]
      intro below
      exact apart (home + 3 - (address + WordPart.upper.reach).toNat % 4) (by omega)
        (by omega)

/-! ### In RAM -/

theorem aligned_home (part : WordPart) (address : UInt32) :
    Width.word.aligned (part.home address) = true := by
  rw [aligned_iff, home, toNat_alignedWord]
  exact Nat.mul_mod_left _ 4

section

variable (inRam : ∀ part : WordPart, InRam (part.home address))

include inRam

/-- All bytes of the word are in RAM. -/
theorem inRam_lane (inWord : lane < 4) : InRam (address + UInt32.ofNat lane) := by
  rcases covers_or_other .lower address inWord with covers | covers
  all_goals
    rw [covers.address_eq]
    exact (inRam _).add (aligned_home _ address) covers.inHome

/-- The bytes of the word are apart, also where it goes on in the next mirror. -/
theorem lane_eq_of_alias
    {other : Nat}
    (inWord : lane < 4)
    (otherInWord : other < 4)
    (same :
      storedAt? (address + UInt32.ofNat lane) = storedAt? (address + UInt32.ofNat other)) :
    lane = other := by
  rw [storedAt?_of_inRam (inRam_lane inRam inWord),
    storedAt?_of_inRam (inRam_lane inRam otherInWord), Option.some.injEq, Place.mk.injEq,
    UInt32.toNat_add, UInt32.toNat_add, UInt32.toNat_ofNat', UInt32.toNat_ofNat'] at same
  omega

end

section

variable {memory : AddressSpace} (sized : memory.IsSized)
  (inRam : InRam (part.home address)) {other : UInt32} (value : UInt32)

include sized inRam

/-- Storing a part of a word shows its bytes at all of their aliases. -/
theorem readByte_store_of_alias
    (covers : part.Covers address lane)
    (same : storedAt? other = storedAt? (address + UInt32.ofNat lane)) :
    (memory.write .word (part.home address)
          (part.stored address (memory.read .word (part.home address)) value)).readByte
        other =
      laneByte value lane := by
  rw [covers.address_eq] at same
  rw [AddressSpace.readByte_write_of_alias sized (part.aligned_home address)
      ⟨_, storedAt?_of_inRam inRam, nofun⟩ covers.inHome same,
    laneByte_stored_of_covers covers]

/-- Storing a part of a word changes no other byte, also not in the aligned word. -/
theorem readByte_store_of_apart
    (apart :
      ∀ lane, part.Covers address lane →
        storedAt? other ≠ storedAt? (address + UInt32.ofNat lane)) :
    (memory.write .word (part.home address)
          (part.stored address (memory.read .word (part.home address)) value)).readByte
        other =
      memory.readByte other := by
  have aligned := part.aligned_home address
  -- the aligned word is written whole, with its own bytes where the part has none
  by_cases inHome :
      ∃ place, place < 4 ∧
        storedAt? other = storedAt? (part.home address + UInt32.ofNat place)
  · obtain ⟨place, inWord, same⟩ := inHome
    have spared (lane : Nat) (covers : part.Covers address lane) :
        part.place address lane ≠ place := by
      rintro rfl
      exact apart lane covers (same.trans (congrArg storedAt? covers.address_eq.symm))
    rw [AddressSpace.readByte_write_of_alias sized aligned
        ⟨_, storedAt?_of_inRam inRam, nofun⟩ inWord same,
      laneByte_stored_of_apart inWord spared, memory.laneByte_read aligned inWord,
      memory.readByte_congr same]
  · apply AddressSpace.readByte_write_of_apart _ aligned
    intro place inWord same
    exact inHome ⟨place, inWord, same⟩

end

end WordPart

/-! ## Moving a word -/

namespace Machine

/-- The machine with other memory. -/
def withMemory (machine : Machine) (memory : AddressSpace) : Machine :=
  machine.withBus { machine.bus with memory := memory }

/--
Some bytes of the word at an address have been loaded into a register.  Its other bytes,
the other registers and memory are as before.
-/
structure LoadsBytes
    (before : Machine)
    (bytes : Nat → Prop)
    (register : Reg)
    (address : UInt32)
    (after : Machine) : Prop where
  loaded :
    ∀ lane, bytes lane →
      laneByte (after.cpu.registers.get register) lane =
        before.bus.memory.readByte (address + UInt32.ofNat lane)
  kept :
    ∀ lane, lane < 4 → ¬bytes lane →
      laneByte (after.cpu.registers.get register) lane =
        laneByte (before.cpu.registers.get register) lane
  sameRegisters :
    ∀ other, register ≠ other →
      after.cpu.registers.get other = before.cpu.registers.get other
  sameMemory : after.bus.memory = before.bus.memory

/--
Some bytes of a word have been stored at an address, which shows at all of their aliases.
All other bytes of memory and the registers are as before.
-/
structure StoresBytes
    (before : Machine)
    (bytes : Nat → Prop)
    (value address : UInt32)
    (after : Machine) : Prop where
  stored :
    ∀ lane, bytes lane →
      ∀ other, storedAt? other = storedAt? (address + UInt32.ofNat lane) →
        after.bus.memory.readByte other = laneByte value lane
  spared :
    ∀ other,
      (∀ lane, bytes lane → storedAt? other ≠ storedAt? (address + UInt32.ofNat lane)) →
      after.bus.memory.readByte other = before.bus.memory.readByte other
  sameRegisters :
    ∀ register, after.cpu.registers.get register = before.cpu.registers.get register
  sameSystem : after.cpu.system = before.cpu.system

variable {part : WordPart} {address value : UInt32} {register : Reg}
  {before between after : Machine}

/-- The two parts together load the word. -/
theorem LoadsBytes.and_other
    (first : before.LoadsBytes (part.Covers address) register address between)
    (second : between.LoadsBytes (part.other.Covers address) register address after) :
    before.LoadsBytes (· < 4) register address after where
  loaded lane inWord := by
    -- the parts overlap if the word is aligned: what counts is the second one
    by_cases covered : part.other.Covers address lane
    · rw [second.loaded lane covered, first.sameMemory]
    · rw [second.kept lane inWord covered]
      exact
        first.loaded lane ((part.covers_or_other address inWord).resolve_right covered)
  kept lane inWord outside := absurd inWord outside
  sameRegisters other differs :=
    (second.sameRegisters other differs).trans (first.sameRegisters other differs)
  sameMemory := second.sameMemory.trans first.sameMemory

/-- The two parts together store the word. -/
theorem StoresBytes.and_other
    (inRam : ∀ part : WordPart, InRam (part.home address))
    (first : before.StoresBytes (part.Covers address) value address between)
    (second : between.StoresBytes (part.other.Covers address) value address after) :
    before.StoresBytes (· < 4) value address after where
  stored lane inWord other same := by
    by_cases covered : part.other.Covers address lane
    · exact second.stored lane covered other same
    · have isFirst := (part.covers_or_other address inWord).resolve_right covered
      rw [second.spared other]
      · exact first.stored lane isFirst other same
      · intro late covers again
        obtain rfl :=
          WordPart.lane_eq_of_alias inRam inWord covers.inWord (same.symm.trans again)
        exact covered covers
  spared other apart := by
    rw [second.spared other fun lane covers => apart lane covers.inWord]
    exact first.spared other fun lane covers => apart lane covers.inWord
  sameRegisters register :=
    (second.sameRegisters register).trans (first.sameRegisters register)
  sameSystem := second.sameSystem.trans first.sameSystem

end Machine

/-! ## The instructions -/

namespace Action

/-- Execute an instruction as if it had just been fetched, as a step does. -/
def executeFetched (instruction : Instruction) : Action Unit := fun machine =>
  (execute instruction).run machine.fetched

/-- Execute instructions one after the other. -/
def executeInTurn : List Instruction → Action Unit
  | [] => pure ()
  | instruction :: rest => do
      executeFetched instruction
      executeInTurn rest

theorem run_executeFetched (instruction : Instruction) (machine : Machine) :
    (executeFetched instruction).run machine =
      (executeWith (executeNested (nestingLimit - 1)) instruction).run machine.fetched := by
  change (execute instruction).run machine.fetched = _
  rw [execute_eq]

theorem run_executeInTurn_pair
    {first second : Instruction}
    {machine between after : Machine}
    (ran : (executeFetched first).run machine = .ok () between)
    (ranOn : (executeFetched second).run between = .ok () after) :
    (executeInTurn [first, second]).run machine = .ok () after := by
  rw [executeInTurn, EStateM.run_bind, ran]
  simp only
  rw [executeInTurn, EStateM.run_bind, ranOn]
  rfl

/-- A write goes to plain memory where there is no device. -/
theorem run_write_of_noPort
    {address : UInt32}
    (noPort : port? address = none)
    (width : Width)
    (value : UInt32)
    (machine : Machine) :
    (write width address value).run machine =
      .ok ()
        (machine.withMemory (machine.bus.memory.write width address value)) := by
  rw [write, run_onBus, Bus.write, noPort]
  rfl

/-- While the cache is not isolated, a store writes memory. -/
theorem run_writeThrough
    {machine : Machine}
    (shared :
      machine.cpu.system.get SystemRegisters.status &&& SystemRegisters.isolateBit = 0)
    (width : Width)
    (address value : UInt32) :
    (writeThrough width address value).run machine =
      (write width address value).run machine := by
  rw [writeThrough, EStateM.run_bind, run_getSystem]
  simp only [shared, ↓reduceIte]

variable {machine : Machine} {address : UInt32}
  (noPort : port? (alignedWord address) = none)

include noPort

theorem run_loadPart
    (paste : UInt32 → UInt32 → UInt32)
    (target : Reg)
    (machine : Machine) :
    (loadPart paste target address).run machine =
      .ok ()
        (machine.withRegisters
          (machine.cpu.registers.set target
            (paste (machine.cpu.registers.get target)
              (machine.bus.memory.read .word (alignedWord address))))) := by
  rw [loadPart, EStateM.run_bind, run_read, Bus.read_of_noPort noPort]
  rfl

theorem run_storePart
    (shared :
      machine.cpu.system.get SystemRegisters.status &&& SystemRegisters.isolateBit = 0)
    (paste : UInt32 → UInt32 → UInt32)
    (value : UInt32) :
    (storePart paste address value).run machine =
      .ok ()
        (machine.withMemory
          (machine.bus.memory.write .word (alignedWord address)
            (paste (machine.bus.memory.read .word (alignedWord address)) value))) := by
  rw [storePart, EStateM.run_bind, run_read, Bus.read_of_noPort noPort]
  simp only
  rw [run_writeThrough shared, run_write_of_noPort noPort]

end Action

/-- A register and how the instructions for the two parts of a word address it. -/
structure UnalignedAccess where
  register : Reg
  base : Reg
  offset : WordPart → UInt32

namespace UnalignedAccess

/-- The instruction that loads a part of the word. -/
def load (access : UnalignedAccess) (part : WordPart) : Instruction :=
  .load part.loadOp access.register access.base (access.offset part)

/-- The instruction that stores a part of the word. -/
def store (access : UnalignedAccess) (part : WordPart) : Instruction :=
  .store part.storeOp access.register access.base (access.offset part)

def loadPair (access : UnalignedAccess) (first : WordPart) : List Instruction :=
  [access.load first, access.load first.other]

def storePair (access : UnalignedAccess) (first : WordPart) : List Instruction :=
  [access.store first, access.store first.other]

/-- The instructions address the lowest and the highest byte of the word at an address. -/
def PointsTo (access : UnalignedAccess) (address : UInt32) (machine : Machine) : Prop :=
  ∀ part : WordPart,
    effectiveAddress (machine.cpu.registers.get access.base) (access.offset part) =
      address + part.reach

theorem PointsTo.congr
    {access : UnalignedAccess}
    {address : UInt32}
    {machine other : Machine}
    (points : access.PointsTo address machine)
    (same :
      other.cpu.registers.get access.base = machine.cpu.registers.get access.base) :
    access.PointsTo address other := by
  intro part
  rw [same]
  exact points part

section

variable {machine : Machine} {address : UInt32} {access : UnalignedAccess}
  (inRam : ∀ part : WordPart, InRam (part.home address))
  (points : access.PointsTo address machine) (part : WordPart)

include inRam points

/-- One instruction loads the bytes of its part. -/
theorem run_load (nonzero : access.register ≠ 0) :
    ∃ after,
      (executeFetched (access.load part)).run machine = .ok () after ∧
        machine.LoadsBytes (part.Covers address) access.register address after := by
  let registers := machine.fetched.cpu.registers
  let word := machine.bus.memory.read .word (part.home address)
  let value := part.loaded address (registers.get access.register) word
  have ran :
      (executeFetched (access.load part)).run machine =
        .ok ()
          (machine.fetched.withRegisters (registers.set access.register value)) := by
    have stillPoints : access.PointsTo address machine.fetched := points.congr rfl
    rw [run_executeFetched, UnalignedAccess.load, executeWith, Action.load,
      EStateM.run_bind, run_getReg]
    simp only [stillPoints part]
    cases part with
    | lower => exact run_loadPart (inRam .lower).noPort _ _ _
    | upper => exact run_loadPart (inRam .upper).noPort _ _ _
  have holds :
      (registers.set access.register value).get access.register = value :=
    registers.get_set_self nonzero value
  refine ⟨_, ran, ⟨?_, ?_, ?_, rfl⟩⟩
  · intro lane covers
    rw [Machine.withRegisters_registers, holds, WordPart.laneByte_loaded_of_covers covers,
      AddressSpace.laneByte_read _ (part.aligned_home address) covers.inHome,
      covers.address_eq]
  · intro lane inWord apart
    rw [Machine.withRegisters_registers, holds,
      WordPart.laneByte_loaded_of_apart inWord apart]
    rfl
  · intro other differs
    rw [Machine.withRegisters_registers, Registers.get_set_of_ne _ differs]
    rfl

/-- One instruction stores the bytes of its part. -/
theorem run_store
    (sized : machine.bus.memory.IsSized)
    (shared :
      machine.cpu.system.get SystemRegisters.status &&& SystemRegisters.isolateBit = 0) :
    ∃ after,
      (executeFetched (access.store part)).run machine = .ok () after ∧
        machine.StoresBytes (part.Covers address)
            (machine.cpu.registers.get access.register) address after ∧
        after.bus.memory.IsSized := by
  let memory := machine.bus.memory
  let value := machine.cpu.registers.get access.register
  have ran :
      (executeFetched (access.store part)).run machine =
        .ok ()
          (machine.fetched.withMemory
            (memory.write .word (part.home address)
              (part.stored address (memory.read .word (part.home address)) value))) := by
    have stillPoints : access.PointsTo address machine.fetched := points.congr rfl
    have stillShared :
        machine.fetched.cpu.system.get SystemRegisters.status &&&
            SystemRegisters.isolateBit =
          0 :=
      shared
    rw [run_executeFetched, UnalignedAccess.store, executeWith, Action.store,
      EStateM.run_bind, run_getReg]
    simp only [stillPoints part]
    rw [EStateM.run_bind, run_getReg]
    cases part with
    | lower => exact run_storePart (inRam .lower).noPort stillShared _ _
    | upper => exact run_storePart (inRam .upper).noPort stillShared _ _
  refine ⟨_, ran, ⟨?_, ?_, fun _ => rfl, rfl⟩, sized.write .word _ _⟩
  · intro lane covers other same
    exact WordPart.readByte_store_of_alias sized (inRam part) value covers same
  · intro other apart
    exact WordPart.readByte_store_of_apart sized (inRam part) value apart

/-- Both instructions load the word. -/
theorem run_loadPair
    (nonzero : access.register ≠ 0)
    (differs : access.register ≠ access.base) :
    ∃ after,
      (executeInTurn (access.loadPair part)).run machine = .ok () after ∧
        machine.LoadsBytes (· < 4) access.register address after := by
  obtain ⟨between, ran, first⟩ := run_load inRam points part nonzero
  have stillPoints : access.PointsTo address between :=
    points.congr (first.sameRegisters access.base differs)
  obtain ⟨after, ranOn, second⟩ := run_load inRam stillPoints part.other nonzero
  exact ⟨after, run_executeInTurn_pair ran ranOn, first.and_other second⟩

/-- Both instructions store the word. -/
theorem run_storePair
    (sized : machine.bus.memory.IsSized)
    (shared :
      machine.cpu.system.get SystemRegisters.status &&& SystemRegisters.isolateBit = 0) :
    ∃ after,
      (executeInTurn (access.storePair part)).run machine = .ok () after ∧
        machine.StoresBytes (· < 4) (machine.cpu.registers.get access.register) address
          after := by
  obtain ⟨between, ran, first, stillSized⟩ := run_store inRam points part sized shared
  have stillPoints : access.PointsTo address between :=
    points.congr (first.sameRegisters access.base)
  rw [← first.sameSystem] at shared
  obtain ⟨after, ranOn, second, -⟩ :=
    run_store inRam stillPoints part.other stillSized shared
  rw [first.sameRegisters] at second
  exact ⟨after, run_executeInTurn_pair ran ranOn, first.and_other inRam second⟩

end

/--
At every address whose two aligned words are in RAM, two instructions in either order
load the four bytes there and no others, and two store them and no others.  What has been
stored is what they load.
-/
theorem pairs_moveWord
    {machine : Machine}
    {address : UInt32}
    (inRam : ∀ part : WordPart, InRam (part.home address))
    {access : UnalignedAccess}
    (points : access.PointsTo address machine)
    (first : WordPart) :
    (access.register ≠ 0 → access.register ≠ access.base →
        ∃ after,
          (executeInTurn (access.loadPair first)).run machine = .ok () after ∧
            machine.LoadsBytes (· < 4) access.register address after) ∧
      (machine.bus.memory.IsSized →
        machine.cpu.system.get SystemRegisters.status &&& SystemRegisters.isolateBit = 0 →
        ∃ after,
          (executeInTurn (access.storePair first)).run machine = .ok () after ∧
            machine.StoresBytes (· < 4) (machine.cpu.registers.get access.register) address
              after ∧
            ∀ (back : UnalignedAccess) (second : WordPart),
              back.PointsTo address machine →
              back.register ≠ 0 → back.register ≠ back.base →
              ∃ returned,
                (executeInTurn (back.loadPair second)).run after = .ok () returned ∧
                  returned.cpu.registers.get back.register =
                    machine.cpu.registers.get access.register) := by
  refine ⟨run_loadPair inRam points first, fun sized shared => ?_⟩
  obtain ⟨after, ran, stores⟩ := run_storePair inRam points first sized shared
  refine ⟨after, ran, stores, fun back second backPoints nonzero differs => ?_⟩
  obtain ⟨returned, ranBack, loads⟩ :=
    run_loadPair inRam (backPoints.congr (stores.sameRegisters back.base)) second nonzero
      differs
  refine ⟨returned, ranBack, eq_of_laneByte_eq fun lane inWord => ?_⟩
  rw [loads.loaded lane inWord, stores.stored lane inWord _ rfl]

/-- A machine with a word in a register and two pointers close to the end of RAM. -/
def nearEndOfRam : Machine :=
  let registers := Registers.initial.set 8 0x801FFFF0
  let registers := registers.set 9 0x11223344
  ((Machine.guest [] 0x80010000).withRegisters (registers.set 11 0x80200000)).withMemory
    AddressSpace.blank.setUp

/-- Register 9, with two bytes before the end of RAM and two after it. -/
def acrossMirrors : UnalignedAccess where
  register := 9
  base := 8
  offset
    | .lower => 0xE
    | .upper => 0x11

/-- Register 10, with the same bytes as seen from the next mirror. -/
def backAcrossMirrors : UnalignedAccess where
  register := 10
  base := 11
  offset
    | .lower => 0xFFFE
    | .upper => 1

/--
A word over the last bytes of one mirror of RAM and the first of the next, moved and
moved back.
-/
theorem pairs_moveWord_acrossMirrors :
    (∃ after,
        (executeInTurn (acrossMirrors.loadPair .upper)).run nearEndOfRam = .ok () after ∧
          nearEndOfRam.LoadsBytes (· < 4) 9 0x801FFFFE after) ∧
      ∃ after,
        (executeInTurn (acrossMirrors.storePair .upper)).run nearEndOfRam = .ok () after ∧
          nearEndOfRam.StoresBytes (· < 4) 0x11223344 0x801FFFFE after ∧
          ∃ returned,
            (executeInTurn (backAcrossMirrors.loadPair .lower)).run after =
                .ok () returned ∧
              returned.cpu.registers.get 10 = 0x11223344 := by
  have inRam (part : WordPart) : InRam (part.home 0x801FFFFE) := by
    cases part with
    | lower => exact ⟨0x1FFFFC, by decide, by decide⟩
    | upper => exact ⟨0x200000, by decide, by decide⟩
  have points : acrossMirrors.PointsTo 0x801FFFFE nearEndOfRam := by
    intro part
    cases part <;> decide
  have backPoints : backAcrossMirrors.PointsTo 0x801FFFFE nearEndOfRam := by
    intro part
    cases part <;> decide
  obtain ⟨loads, stores⟩ := pairs_moveWord inRam points .upper
  obtain ⟨after, ran, stored, returns⟩ :=
    stores AddressSpace.isSized_blank.setUp (by decide)
  exact
    ⟨loads (by decide) (by decide), after, ran, stored,
      returns backAcrossMirrors .lower backPoints (by decide) (by decide)⟩

end UnalignedAccess

end PsxPlayer
