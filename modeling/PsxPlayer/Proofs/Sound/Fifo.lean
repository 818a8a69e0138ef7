import PsxPlayer.Proofs.Sound.Transfer

namespace PsxPlayer

/-!
# The transfer FIFO

A halfword through the FIFO is a block of two bytes: it goes in at the same address, forgets
the same instruments and moves the address as far.  So a block from an even address is the
same as its halfwords one after the other, in either direction and over any number of wraps.
-/

/-- The halfword of a block with this number. -/
def halfAt (data : ByteArray) (index : Nat) : UInt16 :=
  (getLittle data (2 * index) .half).toUInt16

/-- The halfwords of a block in order. -/
def halves (data : ByteArray) : List UInt16 :=
  (List.range (data.size / 2)).map (halfAt data)

namespace SoundProcessor

/-- Write halfwords through the FIFO. -/
def pushHalves (sound : SoundProcessor) (values : List UInt16) : SoundProcessor :=
  values.foldl pushHalf sound

/-- Write halfwords one after the other to a register. -/
def writeEach
    (sound : SoundProcessor)
    (address : UInt32)
    (values : List UInt16) :
    SoundProcessor :=
  values.foldl (fun sound value => sound.write address value) sound

/-- Read halfwords through the FIFO. -/
def popHalves (sound : SoundProcessor) : Nat → List UInt16 × SoundProcessor
  | 0 => ([], sound)
  | count + 1 =>
      let (value, sound) := sound.popHalf
      let (values, sound) := sound.popHalves count
      (value :: values, sound)

/-! ## Writing -/

/-- At an even address the FIFO writes the halfword there and nowhere else. -/
theorem even_place
    {address : Nat}
    (even : address % 2 = 0)
    (inRam : address < soundRamSize) :
    address % soundRamSize / 2 * 2 = address := by
  rw [Nat.mod_eq_of_lt inRam]
  omega

/-- Moving on by a halfword keeps an address even, also around the end of sound RAM. -/
theorem even_next
    {address : Nat}
    (even : address % 2 = 0) :
    (address + 2) % soundRamSize % 2 = 0 := by
  unfold soundRamSize
  omega

section

variable {sound : SoundProcessor}

/-- A halfword of a block goes in like a run of its two bytes. -/
theorem pushHalf_eq_copyIn
    {data : ByteArray}
    {index : Nat}
    (ready : sound.Ready)
    (even : sound.transferAddress % 2 = 0)
    (inBlock : 2 * index + 2 ≤ data.size) :
    sound.pushHalf (halfAt data index) =
      (sound.copyIn sound.transferAddress data (2 * index) 2).moveTo
        ((sound.transferAddress + 2) % soundRamSize) := by
  have inTarget : sound.transferAddress + 2 ≤ sound.ram.size := by
    have inRam := ready.inRam
    rw [ready.ramSize]
    unfold soundRamSize at *
    omega
  have stored := setLittle_half_eq_copySlice inBlock inTarget
  unfold pushHalf copyIn moveTo halfAt
  simp only [even_place even ready.inRam, stored]

theorem Ready.pushHalf
    (ready : sound.Ready)
    (value : UInt16) :
    (sound.pushHalf value).Ready where
  ramSize := (size_setLittle _ _ _ .half).trans ready.ramSize
  spanned := ready.spanned.invalidate _ _
  inRam := Nat.mod_lt _ (by decide)

/-- The rest of a block goes in like its halfwords, the first one being a block of its own. -/
theorem pushFrom_eq_pushHalves
    {data : ByteArray}
    {index count : Nat}
    (ready : sound.Ready)
    (even : sound.transferAddress % 2 = 0)
    (inBlock : data.size = 2 * (index + count)) :
    sound.pushFrom sound.transferAddress data (2 * index) =
      sound.pushHalves ((List.range' index count).map (halfAt data)) := by
  induction count generalizing sound index with
  | zero => exact pushFrom_of_noRoom (by omega)
  | succ count inductionHypothesis =>
      have inRam := ready.inRam
      have room : sound.transferAddress + 2 ≤ soundRamSize := by
        unfold soundRamSize at *
        omega
      have pushed :=
        pushHalf_eq_copyIn ready even (show 2 * index + 2 ≤ data.size by omega)
      have stillEven : (sound.pushHalf (halfAt data index)).transferAddress % 2 = 0 :=
        pushed ▸ even_next even
      calc
        sound.pushFrom sound.transferAddress data (2 * index)
        _ = (sound.copyIn sound.transferAddress data (2 * index) 2).pushFrom
              ((sound.transferAddress + 2) % soundRamSize) data (2 * index + 2) :=
            pushFrom_eq_copyIn ready.ramSize ready.spanned (by omega) (by omega) room
        _ = (sound.pushHalf (halfAt data index)).pushFrom
              (sound.pushHalf (halfAt data index)).transferAddress data (2 * (index + 1)) := by
            rw [pushed]
            exact (pushFrom_moveTo _ _ _ data _).symm
        _ = (sound.pushHalf (halfAt data index)).pushHalves
              ((List.range' (index + 1) count).map (halfAt data)) :=
            inductionHypothesis (ready.pushHalf _) stillEven (by omega)

theorem pushHalves_eq_pushBlock
    {data : ByteArray}
    (ready : sound.Ready)
    (even : sound.transferAddress % 2 = 0)
    (evenSize : data.size % 2 = 0) :
    sound.pushHalves (halves data) = sound.pushBlock data := by
  have whole :
      sound.pushFrom sound.transferAddress data (2 * 0) =
        sound.pushHalves ((List.range' 0 (data.size / 2)).map (halfAt data)) :=
    pushFrom_eq_pushHalves ready even (by omega)
  rw [halves, List.range_eq_range', ← whole, pushBlock, Nat.mod_eq_of_lt ready.inRam]

end

/-- The state with other values kept for the registers. -/
def keep (sound : SoundProcessor) (written : Vector UInt16 256) : SoundProcessor :=
  { sound with written := written }

/-- The values kept for the registers matter to no halfword. -/
theorem pushHalves_keep
    (sound : SoundProcessor)
    (written : Vector UInt16 256)
    (values : List UInt16) :
    (sound.keep written).pushHalves values = (sound.pushHalves values).keep written := by
  induction values generalizing sound with
  | nil => rfl
  | cons value rest inductionHypothesis => exact inductionHypothesis (sound.pushHalf value)

/-- The FIFO's register writes like the FIFO, and keeps the value besides. -/
theorem writeEach_fifo
    {fifo : UInt32}
    (isFifo : SoundRegister.ofAddress fifo = .transferFifo)
    (sound : SoundProcessor)
    (values : List UInt16) :
    ∃ written, sound.writeEach fifo values = (sound.pushHalves values).keep written := by
  induction values generalizing sound with
  | nil => exact ⟨sound.written, rfl⟩
  | cons value rest inductionHypothesis =>
      have first :
          ∃ written, sound.write fifo value = (sound.pushHalf value).keep written := by
        rw [write, isFifo]
        exact ⟨_, rfl⟩
      obtain ⟨written, first⟩ := first
      obtain ⟨later, restWritten⟩ := inductionHypothesis (sound.write fifo value)
      refine ⟨later, restWritten.trans ?_⟩
      rw [first, pushHalves_keep]
      rfl

/-! ## Reading -/

/-- The halfwords that come out stand one after the other from the transfer address on. -/
theorem popHalves_eq
    {sound : SoundProcessor}
    (even : sound.transferAddress % 2 = 0)
    (inRam : sound.transferAddress < soundRamSize)
    (count : Nat) :
    sound.popHalves count =
      ((List.range count).map fun index =>
          (getLittle sound.ram ((sound.transferAddress + 2 * index) % soundRamSize)
            .half).toUInt16,
        sound.moveTo ((sound.transferAddress + 2 * count) % soundRamSize)) := by
  induction count generalizing sound with
  | zero =>
      rw [popHalves, Nat.mul_zero, Nat.add_zero, Nat.mod_eq_of_lt inRam]
      rfl
  | succ count inductionHypothesis =>
      have first :
          sound.popHalf =
            ((getLittle sound.ram sound.transferAddress .half).toUInt16,
              sound.moveTo ((sound.transferAddress + 2) % soundRamSize)) := by
        rw [popHalf]
        simp only [even_place even inRam]
        rfl
      have next (index : Nat) :
          ((sound.transferAddress + 2) % soundRamSize + 2 * index) % soundRamSize =
            (sound.transferAddress + 2 * (index + 1)) % soundRamSize := by
        rw [Nat.mod_add_mod, Nat.mul_succ, Nat.add_assoc, Nat.add_comm 2]
      have rest :
          (sound.moveTo ((sound.transferAddress + 2) % soundRamSize)).popHalves count =
            ((List.range count).map fun index =>
                (getLittle sound.ram
                  ((sound.transferAddress + 2 * (index + 1)) % soundRamSize) .half).toUInt16,
              sound.moveTo ((sound.transferAddress + 2 * (count + 1)) % soundRamSize)) := by
        rw [inductionHypothesis (even_next even) (Nat.mod_lt _ (by decide))]
        simp only [moveTo, next]
      rw [popHalves, first]
      simp only [rest, List.range_succ_eq_map, List.map_cons, List.map_map, Function.comp_def,
        Nat.mul_zero, Nat.add_zero, Nat.mod_eq_of_lt inRam, Nat.succ_eq_add_one]

/-- A block comes out with the halfwords that the FIFO gives. -/
theorem halves_popBlock
    {sound : SoundProcessor}
    (ready : sound.Ready)
    (even : sound.transferAddress % 2 = 0)
    (count : Nat) :
    halves (sound.popBlock (2 * count)).1 = (sound.popHalves count).1 := by
  have size := size_popBlock ready.ramSize (2 * count)
  rw [popHalves_eq even ready.inRam, halves, size, Nat.mul_div_cancel_left count (by decide)]
  apply List.map_congr_left
  intro index inRange
  have inside := List.mem_range.mp inRange
  rw [halfAt]
  congr 1
  apply getLittle_half_congr
  · exact get!_popBlock ready.ramSize (by omega)
  · rw [get!_popBlock ready.ramSize (by omega), ← Nat.add_assoc]
    -- An even place is never the last one, so its upper byte is behind it.
    congr 1
    unfold soundRamSize
    omega

/--
Halfword by halfword, through the FIFO or its register, and as a block, the same bytes go in
and come out, the same instruments are forgotten, and the address ends up in the same place.
-/
theorem performAll_fifo_eq_block
    (operations : List Operation)
    {sound : SoundProcessor}
    (reached : sound = initial.performAll operations)
    (even : sound.transferAddress % 2 = 0)
    {data : ByteArray}
    (evenSize : data.size % 2 = 0)
    {fifo : UInt32}
    (isFifo : SoundRegister.ofAddress fifo = .transferFifo)
    (count : Nat) :
    sound.pushHalves (halves data) = sound.pushBlock data ∧
      (∃ written, sound.writeEach fifo (halves data) = (sound.pushBlock data).keep written) ∧
      (sound.popBlock (2 * count)).1.size = 2 * count ∧
      halves (sound.popBlock (2 * count)).1 = (sound.popHalves count).1 ∧
      (sound.popBlock (2 * count)).2 = (sound.popHalves count).2 := by
  have ready : sound.Ready := reached ▸ ready_performAll operations
  have pushed := pushHalves_eq_pushBlock ready even evenSize
  refine ⟨pushed, pushed ▸ writeEach_fifo isFifo sound _, size_popBlock ready.ramSize _,
    halves_popBlock ready even count, ?_⟩
  rw [popBlock_snd ready.ramSize, popHalves_eq even ready.inRam]

/-- Power-on, and then the last transfer address there is. -/
def atLastAddress : SoundProcessor :=
  initial.performAll [.command (.write 0x1F801DA6 0xFFFF)]

/-- A block that goes over the end of sound RAM from the last transfer address. -/
def overEnd : ByteArray :=
  ⟨#[1, 2, 3, 4, 5, 6, 7, 8, 9, 10, 11, 12, 13, 14, 15, 16]⟩

/-- Halfwords over the end of sound RAM, which go on at its start. -/
theorem performAll_fifo_eq_block_overEnd :
    atLastAddress.transferAddress = soundRamSize - 8 ∧
      halves overEnd = [0x201, 0x403, 0x605, 0x807, 0xA09, 0xC0B, 0xE0D, 0x100F] ∧
      atLastAddress.pushHalves (halves overEnd) = atLastAddress.pushBlock overEnd ∧
      (∃ written,
        atLastAddress.writeEach 0x1F801DA8 (halves overEnd) =
          (atLastAddress.pushBlock overEnd).keep written) ∧
      (atLastAddress.popBlock 16).2 = (atLastAddress.popHalves 8).2 := by
  have even : atLastAddress.transferAddress % 2 = 0 := rfl
  have evenSize : overEnd.size % 2 = 0 := rfl
  have isFifo : SoundRegister.ofAddress 0x1F801DA8 = .transferFifo := by decide
  obtain ⟨pushed, registered, -, -, moved⟩ :=
    performAll_fifo_eq_block _ rfl even evenSize isFifo 8
  exact ⟨rfl, by decide, pushed, registered, moved⟩

end SoundProcessor

end PsxPlayer
