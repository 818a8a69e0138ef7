import PsxPlayer.Proofs.Memory.Copy
import PsxPlayer.Proofs.Sound.Resampling
import PsxPlayer.Proofs.Sound.WellFormed

namespace PsxPlayer

/-!
# Block transfers of sound RAM

A block goes in and out run by run, each up to the end of sound RAM.  Put together, its bytes
stand one after the other from the transfer address on, modulo the size of sound RAM: of a
block that is longer than sound RAM the last bytes remain.
-/

namespace SoundBank

/-- Every instrument covers at least one byte. -/
def IsSpanned (bank : SoundBank) : Prop :=
  ∀ instrument, instrument ∈ bank.instruments → instrument.start < instrument.stop

theorem IsSpanned.invalidate
    {bank : SoundBank}
    (spanned : bank.IsSpanned)
    (first last : Nat) :
    (bank.invalidate first last).IsSpanned :=
  fun instrument member => spanned instrument (List.mem_filter.mp member).1

/-- To forget what touches a run is to forget what touches one of two parts of it. -/
theorem IsSpanned.invalidate_invalidate
    {bank : SoundBank}
    {first middle last : Nat}
    (spanned : bank.IsSpanned)
    (low : first ≤ middle)
    (high : middle ≤ last) :
    (bank.invalidate first middle).invalidate middle last = bank.invalidate first last := by
  unfold SoundBank.invalidate
  rw [List.filter_filter]
  congr 1
  apply List.filter_congr
  intro instrument member
  have ordered := spanned instrument member
  rw [Bool.eq_iff_iff]
  simp only [Instrument.isOutside, Bool.and_eq_true, Bool.or_eq_true, decide_eq_true_eq]
  omega

end SoundBank

/-- An instrument with samples covers the block it starts with. -/
theorem Instrument.IsDecoded.start_lt_stop
    {instrument : Instrument}
    (isDecoded : instrument.IsDecoded)
    (nonempty : 0 < instrument.samples.size) :
    instrument.start < instrument.stop := by
  obtain ⟨ram, address, rfl⟩ := isDecoded
  have isMadeFrom := isMadeFrom_decode ram address
  rw [isMadeFrom.nonempty_iff] at nonempty
  rw [isMadeFrom.stop]
  exact Nat.lt_add_of_pos_right (Nat.mul_pos nonempty (by decide))

namespace SoundProcessor

/-! ## The state between transfers -/

/-- What a transfer relies on. -/
structure Ready (sound : SoundProcessor) : Prop where
  ramSize : sound.ram.size = soundRamSize
  spanned : sound.bank.IsSpanned
  inRam : sound.transferAddress < soundRamSize

theorem pushFrom_inRam
    {address : Nat}
    (sound : SoundProcessor)
    (inRam : address < soundRamSize)
    (data : ByteArray)
    (first : Nat) :
    (sound.pushFrom address data first).transferAddress < soundRamSize := by
  fun_induction SoundProcessor.pushFrom sound address data first with
  | case1 sound address first room length next inductionHypothesis =>
      exact inductionHypothesis (Nat.mod_lt _ (by decide))
  | case2 sound address first noRoom => exact inRam

theorem popFrom_inRam
    {address : Nat}
    (inRam : address < soundRamSize)
    (ram : ByteArray)
    (remaining : Nat)
    (taken : ByteArray) :
    (popFrom ram address remaining taken).2 < soundRamSize := by
  fun_induction popFrom ram address remaining taken with
  | case1 address remaining taken room length inductionHypothesis =>
      exact inductionHypothesis (Nat.mod_lt _ (by decide))
  | case2 address remaining taken noRoom => exact inRam

/-- The transfer address is set and moved inside sound RAM. -/
theorem obey_inRam
    {sound : SoundProcessor}
    (inRam : sound.transferAddress < soundRamSize)
    (command : Command) :
    (sound.obey command).transferAddress < soundRamSize := by
  have wrapped (place : Nat) : place % soundRamSize < soundRamSize := Nat.mod_lt _ (by decide)
  cases command with
  | write address value =>
      simp only [obey, write]
      cases SoundRegister.ofAddress address with
      | transferAddress =>
          have below := value.toNat_lt
          change value.toNat * 8 < 0x80000
          omega
      | transferFifo => exact wrapped _
      | _ => exact inRam
  | keyOn voice =>
      simp only [obey, accept, keyOn]
      cases sound.voice voice <;> exact inRam
  | keyOff voice =>
      simp only [obey, accept, keyOff]
      cases sound.voice voice <;> exact inRam
  | overrideLoop voice =>
      simp only [obey, accept, overrideLoop]
      cases sound.voice voice <;> exact inRam
  | pushHalf value => exact wrapped _
  | popHalf => exact wrapped _
  | pushBlock data => exact pushFrom_inRam sound (wrapped _) data 0
  | popBlock length => exact popFrom_inRam (wrapped _) sound.ram length _
  | enableReverb enabled => exact inRam
  | mixFrame =>
      rw [obey, mixFrame_snd, runReverb]
      split <;> exact inRam

/-- Whatever a sound processor has been asked since power-on, it is ready for a transfer. -/
theorem ready_performAll (operations : List Operation) :
    (initial.performAll operations).Ready := by
  have kept :
      (initial.performAll operations).bank.IsDecoded ∧
        (initial.performAll operations).transferAddress < soundRamSize := by
    have started : initial.bank.IsDecoded ∧ initial.transferAddress < soundRamSize :=
      ⟨SoundBank.isDecoded_empty, by decide⟩
    generalize initial = sound at started ⊢
    induction operations generalizing sound with
    | nil => exact started
    | cons operation rest inductionHypothesis =>
        apply inductionHypothesis
        cases operation with
        | command command =>
            exact ⟨isDecoded_obey started.1 command, obey_inRam started.2 command⟩
        | reset => exact ⟨SoundBank.isDecoded_empty, Nat.two_pow_pos 19⟩
        | setFilter filter => exact started
  have wellFormed := wellFormed_initial.performAll operations
  refine ⟨wellFormed.ramSize, fun instrument member => ?_, kept.2⟩
  exact (kept.1 instrument member).start_lt_stop (wellFormed.bank instrument member).nonempty

/-! ## A block going in -/

/-- The transfer address is moved. -/
def moveTo (sound : SoundProcessor) (address : Nat) : SoundProcessor :=
  { sound with transferAddress := address }

/-- One run of a block goes in. -/
def copyIn
    (sound : SoundProcessor)
    (address : Nat)
    (data : ByteArray)
    (first length : Nat) :
    SoundProcessor :=
  { sound with
    ram := data.copySlice first sound.ram address length
    bank := sound.bank.invalidate address (address + length) }

section

variable {sound : SoundProcessor} {address first : Nat} {data : ByteArray}

/-- The first run goes up to the end of the block or of sound RAM. -/
theorem pushFrom_of_room
    (room : first < data.size)
    (inRam : address < soundRamSize) :
    sound.pushFrom address data first =
      (sound.copyIn address data first (transferRun address (data.size - first))).pushFrom
        ((address + transferRun address (data.size - first)) % soundRamSize) data
        (first + transferRun address (data.size - first)) := by
  rw [pushFrom, if_pos ⟨room, inRam⟩]
  rfl

theorem pushFrom_of_noRoom (noRoom : data.size ≤ first) :
    sound.pushFrom address data first = sound.moveTo address := by
  rw [pushFrom, if_neg (by omega)]
  rfl

/-- A run may go in as two parts. -/
theorem copyIn_copyIn
    {length rest : Nat}
    (spanned : sound.bank.IsSpanned)
    (inBlock : first + (length + rest) ≤ data.size)
    (inRam : address + (length + rest) ≤ sound.ram.size) :
    (sound.copyIn address data first length).copyIn (address + length) data (first + length)
        rest =
      sound.copyIn address data first (length + rest) := by
  have sameRam := copySlice_copySlice inBlock inRam
  have sameBank :=
    spanned.invalidate_invalidate (Nat.le_add_right address length)
      (Nat.le_add_right (address + length) rest)
  rw [Nat.add_assoc] at sameBank
  unfold copyIn
  simp only [sameRam, sameBank, Nat.add_assoc]

/-- Where a block goes is given, so the transfer address from before does not matter. -/
theorem pushFrom_moveTo
    (sound : SoundProcessor)
    (other address : Nat)
    (data : ByteArray)
    (first : Nat) :
    (sound.moveTo other).pushFrom address data first = sound.pushFrom address data first := by
  fun_induction SoundProcessor.pushFrom sound address data first with
  | case1 sound address first room length next inductionHypothesis =>
      rw [pushFrom_of_room room.1 room.2]
      exact inductionHypothesis
  | case2 sound address first noRoom =>
      rw [pushFrom, if_neg noRoom]
      rfl

/-- A block may go in as two parts, the first one without a wrap. -/
theorem pushFrom_eq_copyIn
    {length : Nat}
    (ramSize : sound.ram.size = soundRamSize)
    (spanned : sound.bank.IsSpanned)
    (some : 0 < length)
    (inBlock : first + length ≤ data.size)
    (inRam : address + length ≤ soundRamSize) :
    sound.pushFrom address data first =
      (sound.copyIn address data first length).pushFrom ((address + length) % soundRamSize) data
        (first + length) := by
  rw [pushFrom_of_room (by omega) (by omega)]
  obtain ⟨rest, split⟩ :
      ∃ rest, transferRun address (data.size - first) = length + rest :=
    Nat.exists_eq_add_of_le (by unfold transferRun; omega)
  have bounded : length + rest ≤ data.size - first ∧ length + rest ≤ soundRamSize - address := by
    unfold transferRun at split
    omega
  rw [split]
  by_cases isWhole : rest = 0
  · subst isWhole
    rfl
  · have inside : address + length < soundRamSize := by omega
    have laterRun :
        transferRun (address + length) (data.size - (first + length)) = rest := by
      unfold transferRun at split ⊢
      omega
    have laterRoom : first + length < data.size := by omega
    rw [Nat.mod_eq_of_lt inside, pushFrom_of_room laterRoom inside, laterRun,
      copyIn_copyIn spanned (by omega) (by omega)]
    simp only [Nat.add_assoc]

end

/-- A block goes in byte by byte from its address on, around the end of sound RAM. -/
theorem pushFrom_copied
    {sound : SoundProcessor}
    {address : Nat}
    (ramSize : sound.ram.size = soundRamSize)
    (inRam : address < soundRamSize)
    (data : ByteArray)
    (first : Nat) :
    Copied (data.size - first) (fun index => (address + index) % soundRamSize)
        (fun index => data.get! (first + index)) sound.ram
        (sound.pushFrom address data first).ram ∧
      (sound.pushFrom address data first).transferAddress =
        (address + (data.size - first)) % soundRamSize := by
  fun_induction SoundProcessor.pushFrom sound address data first with
  | case1 sound address first room length next inductionHypothesis =>
      have bounded : length ≤ data.size - first ∧ length ≤ soundRamSize - address := by
        unfold length transferRun
        omega
      have inBlock : first + length ≤ data.size := by omega
      have inTarget : address + length ≤ sound.ram.size := by omega
      have run :
          Copied length (fun index => (address + index) % soundRamSize)
            (fun index => data.get! (first + index)) sound.ram next.ram :=
        (copied_copySlice inBlock inTarget).congr
          (fun index inside => Nat.mod_eq_of_lt (by omega)) fun _ _ => rfl
      obtain ⟨rest, moved⟩ :=
        inductionHypothesis (run.sameSize.trans ramSize) (Nat.mod_lt _ (by decide))
      have whole : data.size - first = length + (data.size - (first + length)) := by omega
      rw [whole]
      refine ⟨run.append (rest.congr (fun index _ => ?_) fun index _ => ?_), ?_⟩
      · rw [Nat.mod_add_mod, Nat.add_assoc]
      · rw [Nat.add_assoc]
      · rw [moved, Nat.mod_add_mod, Nat.add_assoc]
  | case2 sound address first noRoom =>
      have noData : data.size - first = 0 := by omega
      rw [noData]
      exact ⟨.nothing, (Nat.mod_eq_of_lt inRam).symm⟩

/-- Bytes come to one place only when a whole round of sound RAM lies between them. -/
theorem place_ne_of_lt
    {early late : Nat}
    (address : Nat)
    (isLater : early < late)
    (inRound : late < early + soundRamSize) :
    (address + late) % soundRamSize ≠ (address + early) % soundRamSize := by
  unfold soundRamSize at *
  omega

/-! ## A block coming out -/

/-- What comes out stands behind what has been taken out before, byte by byte. -/
theorem popFrom_bytes
    {ram : ByteArray}
    {address : Nat}
    (ramSize : ram.size = soundRamSize)
    (inRam : address < soundRamSize)
    (remaining : Nat)
    (taken : ByteArray) :
    (popFrom ram address remaining taken).1.size = taken.size + remaining ∧
      (∀ index,
        index < taken.size →
        (popFrom ram address remaining taken).1.get! index = taken.get! index) ∧
      (∀ offset,
        offset < remaining →
        (popFrom ram address remaining taken).1.get! (taken.size + offset) =
          ram.get! ((address + offset) % soundRamSize)) ∧
      (popFrom ram address remaining taken).2 = (address + remaining) % soundRamSize := by
  fun_induction popFrom ram address remaining taken with
  | case1 address remaining taken room length inductionHypothesis =>
      have bounded : length ≤ remaining ∧ address + length ≤ soundRamSize := by
        unfold length transferRun
        omega
      have runSize : (ram.extract address (address + length)).size = length := by
        rw [ByteArray.size_extract]
        omega
      obtain ⟨size, earlier, later, moved⟩ := inductionHypothesis (Nat.mod_lt _ (by decide))
      rw [ByteArray.size_append, runSize] at size earlier later
      refine ⟨by omega, fun index inTaken => ?_, fun offset inRemaining => ?_, ?_⟩
      · rw [earlier index (by omega), get!_append_of_lt inTaken]
      · by_cases isLater : length ≤ offset
        · obtain ⟨rest, rfl⟩ := Nat.exists_eq_add_of_le isLater
          rw [← Nat.add_assoc, later rest (by omega), Nat.mod_add_mod, Nat.add_assoc]
        · rw [earlier _ (by omega), get!_append_add, get!_extract (by omega),
            Nat.mod_eq_of_lt (by omega)]
      · rw [moved, Nat.mod_add_mod]
        congr 1
        omega
  | case2 address remaining taken noRoom =>
      have nothing : remaining = 0 := by omega
      subst nothing
      exact ⟨rfl, fun index inTaken => rfl, fun offset inNothing => absurd inNothing (by omega),
        (Nat.mod_eq_of_lt inRam).symm⟩

section

variable {sound : SoundProcessor}

theorem size_popBlock
    (ramSize : sound.ram.size = soundRamSize)
    (length : Nat) :
    (sound.popBlock length).1.size = length := by
  obtain ⟨size, -⟩ :=
    popFrom_bytes ramSize (Nat.mod_lt sound.transferAddress (by decide)) length .empty
  exact size.trans (Nat.zero_add length)

theorem get!_popBlock
    {length offset : Nat}
    (ramSize : sound.ram.size = soundRamSize)
    (inside : offset < length) :
    (sound.popBlock length).1.get! offset =
      sound.ram.get! ((sound.transferAddress + offset) % soundRamSize) := by
  obtain ⟨-, -, bytes, -⟩ :=
    popFrom_bytes ramSize (Nat.mod_lt sound.transferAddress (by decide)) length .empty
  have found := bytes offset inside
  rw [ByteArray.size_empty, Nat.zero_add, Nat.mod_add_mod] at found
  exact found

theorem popBlock_snd
    (ramSize : sound.ram.size = soundRamSize)
    (length : Nat) :
    (sound.popBlock length).2 =
      sound.moveTo ((sound.transferAddress + length) % soundRamSize) := by
  obtain ⟨-, -, -, moved⟩ :=
    popFrom_bytes ramSize (Nat.mod_lt sound.transferAddress (by decide)) length .empty
  rw [Nat.mod_add_mod] at moved
  exact congrArg sound.moveTo moved

end

end SoundProcessor

end PsxPlayer
