import PsxPlayer.Proofs.Memory.Bytes
import PsxPlayer.Sound.Reverb

namespace PsxPlayer.Reverb

/-!
# Where the reverb stores

A step of the reverb stores eight halfwords of sound RAM, at the places that
eight of its registers give.  Everything else in sound RAM stays as it was.
-/

/-- One block of bytes is another with nothing but some halfwords overwritten. -/
structure StoredAt
    (addresses : List Nat)
    (before after : ByteArray) :
    Prop where
  sameSize : after.size = before.size
  sameOutside :
    ∀ index,
      (∀ address, address ∈ addresses → index < address ∨ address + 2 ≤ index) →
      after.get! index = before.get! index

namespace StoredAt

theorem refl
    (addresses : List Nat)
    (ram : ByteArray) :
    StoredAt addresses ram ram :=
  ⟨rfl, fun _ _ => rfl⟩

theorem trans
    {addresses : List Nat}
    {before middle after : ByteArray}
    (first : StoredAt addresses before middle)
    (second : StoredAt addresses middle after) :
    StoredAt addresses before after where
  sameSize := second.sameSize.trans first.sameSize
  sameOutside := by
    intro index outside
    rw [second.sameOutside index outside, first.sameOutside index outside]

/-- Storing a sample at one of the places overwrites nothing else. -/
theorem storeSample
    {addresses : List Nat}
    {address : Nat}
    (member : address ∈ addresses)
    (ram : ByteArray)
    (sample : Int) :
    StoredAt addresses ram (PsxPlayer.storeSample ram address sample) where
  sameSize := size_setLittle ram address _ .half
  sameOutside := by
    intro index outside
    exact get!_setLittle_of_outside (outside address member)

end StoredAt

/-- The registers that place the stores of a step. -/
def storePlaces : List (Fin 32) := [10, 11, 18, 19, 26, 28, 27, 29]

namespace Tap

/-- The addresses at which a step stores. -/
def storeAddresses (tap : Tap) : List Nat :=
  storePlaces.map fun place =>
    address tap.current tap.registers.base (tap.registers.distance place)

/-- A store at a place of the step stays within its stores. -/
theorem store_storedAt
    (tap : Tap)
    {place : Fin 32}
    (member : place ∈ storePlaces)
    (ram : ByteArray)
    (sample : Int) :
    StoredAt tap.storeAddresses ram
      (tap.store ram (tap.registers.distance place) sample) :=
  .storeSample (List.mem_map_of_mem member) ram sample

end Tap

/-- The reflections stay within the stores of the step. -/
theorem reflections_storedAt
    (tap : Tap)
    (left right : Int)
    (ram : ByteArray) :
    StoredAt tap.storeAddresses ram
      ((reflections left right).foldl (reflect tap) ram) := by
  have each (ram : ByteArray) {place : Fin 32} (wall : Fin 32) (input : Int)
      (member : place ∈ storePlaces) :
      StoredAt tap.storeAddresses ram (reflect tap ram ⟨place, wall, input⟩) :=
    tap.store_storedAt member ram _
  simp only [reflections, List.foldl_cons, List.foldl_nil]
  exact (((each _ _ _ (by decide)).trans (each _ _ _ (by decide))).trans
    (each _ _ _ (by decide))).trans (each _ _ _ (by decide))

/-- The output of a side stays within the stores of the step. -/
theorem sideOutput_storedAt
    (tap : Tap)
    (ram : ByteArray)
    {side : Side}
    (first : side.first ∈ storePlaces)
    (second : side.second ∈ storePlaces) :
    StoredAt tap.storeAddresses ram (sideOutput tap ram side).2 := by
  have each (state : Int × ByteArray) (filter : AllPass)
      (member : filter.place ∈ storePlaces) :
      StoredAt tap.storeAddresses state.2 (allPass tap state filter).2 :=
    tap.store_storedAt member state.2 _
  simp only [sideOutput, Side.filters, List.foldl_cons, List.foldl_nil]
  exact (each (combSum tap ram side, ram) _ first).trans (each _ _ second)

/-- A step overwrites the halfwords at its places and nothing else. -/
theorem step_storedAt
    (current : Nat)
    (registers : ReverbRegisters)
    (ram : ByteArray)
    (input : Stereo) :
    StoredAt
      (Tap.storeAddresses ⟨registers, settle current registers.base⟩)
      ram
      (step current registers ram input).2.2 := by
  simp only [step]
  exact ((reflections_storedAt _ _ _ ram).trans
    (sideOutput_storedAt _ _ (by decide) (by decide))).trans
    (sideOutput_storedAt _ _ (by decide) (by decide))

/-- The addresses at which the reverb stores with its next input. -/
def nextStores
    (reverb : Reverb)
    (registers : ReverbRegisters) :
    List Nat :=
  match reverb.pending? with
  | none => []
  | some _ => Tap.storeAddresses ⟨registers, settle reverb.current registers.base⟩

/-- Feeding the reverb overwrites the halfwords at its places and nothing else. -/
theorem process_storedAt
    (reverb : Reverb)
    (registers : ReverbRegisters)
    (ram : ByteArray)
    (input : Stereo) :
    StoredAt (reverb.nextStores registers) ram
      (reverb.process registers ram input).2.2 := by
  unfold process nextStores
  cases reverb.pending? with
  | none => exact .refl _ ram
  | some first => exact step_storedAt _ _ _ _

/-- The first input of a pair is only taken note of. -/
theorem process_of_not_pending
    {reverb : Reverb}
    (idle : reverb.pending? = none)
    (registers : ReverbRegisters)
    (ram : ByteArray)
    (input : Stereo) :
    (reverb.process registers ram input).2 =
      ({ reverb with pending? := some input }, ram) := by
  simp only [process, idle]

/-- The second input of a pair makes a step. -/
theorem process_of_pending
    {reverb : Reverb}
    {first : Stereo}
    (pending : reverb.pending? = some first)
    (registers : ReverbRegisters)
    (ram : ByteArray)
    (input : Stereo) :
    ∃ average,
      (reverb.process registers ram input).2.2 =
        (step reverb.current registers ram average).2.2 := by
  simp only [process, pending]
  exact ⟨_, rfl⟩

/-! A reverb with all registers zero clears the halfword at its current place. -/

/-- The halfword at an address is zero. -/
def ZeroAt
    (ram : ByteArray)
    (address : Nat) :
    Prop :=
  ram.get! address = 0 ∧ ram.get! (address + 1) = 0

theorem ZeroAt.loadSample
    {ram : ByteArray}
    {address : Nat}
    (zero : ZeroAt ram address) :
    PsxPlayer.loadSample ram address = 0 := by
  simp only [PsxPlayer.loadSample, getLittle, zero.1, zero.2]
  decide

theorem ZeroAt.storeSample
    {ram : ByteArray}
    {address other : Nat}
    {sample : Int}
    (zero : ZeroAt ram address)
    (apart : address + 2 ≤ other ∨ other + 2 ≤ address) :
    ZeroAt (PsxPlayer.storeSample ram other sample) address := by
  refine ⟨?_, ?_⟩
  · refine (get!_setLittle_of_outside ?_).trans zero.1
    simp only [Width.bytes]
    omega
  · refine (get!_setLittle_of_outside ?_).trans zero.2
    simp only [Width.bytes]
    omega

/-- Storing silence leaves a zero halfword. -/
theorem zeroAt_storeSample
    {ram : ByteArray}
    {address : Nat}
    (room : address + 2 ≤ ram.size) :
    ZeroAt (storeSample ram address 0) address := by
  have value : wordOfInt (clamp16 0) = 0 := by decide
  simp only [storeSample, setLittle, value]
  refine ⟨?_, ?_⟩
  · rw [get!_set!_of_ne (by omega), get!_set!_self (by omega)]
    rfl
  · rw [get!_set!_self (by simp; omega)]
    rfl

@[simp]
theorem scaled_zero (sample : Int) : scaled sample 0 = 0 := by
  simp [scaled]

@[simp]
theorem zero_scaled (coefficient : Int) : scaled 0 coefficient = 0 := by
  simp [scaled]

@[simp]
theorem coefficient_initial (index : Fin 32) :
    ReverbRegisters.initial.coefficient index = 0 := by
  simp [ReverbRegisters.coefficient, ReverbRegisters.initial, Vector.get, signedHalf]

@[simp]
theorem distance_initial (index : Fin 32) :
    ReverbRegisters.initial.distance index = 0 := by
  simp [ReverbRegisters.distance, ReverbRegisters.initial, Vector.get]

/-- The place of a reverb that has never stepped, with all registers zero. -/
def startTap : Tap := ⟨.initial, 0⟩

@[simp]
theorem startTap_load_zero (ram : ByteArray) :
    startTap.load ram 0 = loadSample ram 0 :=
  rfl

@[simp]
theorem startTap_load_behind (ram : ByteArray) :
    startTap.load ram (-2) = loadSample ram 0x7FFFE :=
  rfl

@[simp]
theorem startTap_store_zero
    (ram : ByteArray)
    (sample : Int) :
    startTap.store ram 0 sample = storeSample ram 0 sample :=
  rfl

/-- With silence behind its place, a reflection stores silence. -/
theorem reflect_startTap
    {ram : ByteArray}
    (silent : ZeroAt ram 0x7FFFE)
    (reflection : Reflection) :
    reflect startTap ram reflection = storeSample ram 0 0 := by
  have registers : startTap.registers = .initial := rfl
  simp [reflect, registers, silent.loadSample]

/-- With silence at its place, an all-pass filter passes silence on. -/
theorem allPass_startTap
    {ram : ByteArray}
    (silent : ZeroAt ram 0)
    (filter : AllPass) :
    allPass startTap (0, ram) filter = (0, storeSample ram 0 0) := by
  have registers : startTap.registers = .initial := rfl
  simp [allPass, registers, silent.loadSample]

/-- Comb filters of no volume add up to silence. -/
theorem combSum_startTap
    (ram : ByteArray)
    (side : Side) :
    combSum startTap ram side = 0 := by
  have registers : startTap.registers = .initial := rfl
  unfold combSum
  generalize side.combs.zip ReverbRegisters.combVolumes = combs
  induction combs with
  | nil => rfl
  | cons comb rest inductionHypothesis =>
      rw [List.foldl_cons]
      simp only [registers, coefficient_initial, scaled_zero, Int.add_zero] at *
      exact inductionHypothesis

/-- With silence at its place, a side stores silence twice. -/
theorem sideOutput_startTap
    {ram : ByteArray}
    (room : 2 ≤ ram.size)
    (silent : ZeroAt ram 0)
    (side : Side) :
    (sideOutput startTap ram side).2 =
      storeSample (storeSample ram 0 0) 0 0 := by
  have again : ZeroAt (storeSample ram 0 0) 0 := zeroAt_storeSample room
  simp [sideOutput, Side.filters, combSum_startTap, allPass_startTap silent,
    allPass_startTap again]

/-- The first step of a reverb with all registers zero clears its place. -/
theorem step_startTap
    {ram : ByteArray}
    (room : 2 ≤ ram.size)
    (silent : ZeroAt ram 0x7FFFE)
    (input : Stereo) :
    ZeroAt (step 0 .initial ram input).2.2 0 := by
  have apart : (0x7FFFE : Nat) + 2 ≤ 0 ∨ 0 + 2 ≤ 0x7FFFE := by decide
  have cleared {ram : ByteArray} (room : 2 ≤ ram.size) :
      2 ≤ (storeSample ram 0 0).size ∧ ZeroAt (storeSample ram 0 0) 0 := by
    have sameSize : (storeSample ram 0 0).size = ram.size :=
      size_setLittle ram 0 _ .half
    exact ⟨by omega, zeroAt_storeSample room⟩
  have reflected (left right : Int) :
      (reflections left right).foldl (reflect startTap) ram =
        storeSample (storeSample (storeSample (storeSample ram 0 0) 0 0) 0 0) 0 0 := by
    simp only [reflections, List.foldl_cons, List.foldl_nil]
    rw [reflect_startTap silent, reflect_startTap (silent.storeSample apart),
      reflect_startTap ((silent.storeSample apart).storeSample apart),
      reflect_startTap
        (((silent.storeSample apart).storeSample apart).storeSample apart)]
  have three := cleared (cleared (cleared room).1).1
  have four := cleared three.1
  have six := cleared (cleared four.1).1
  have seven := cleared six.1
  simp only [step]
  change
    ZeroAt
      (sideOutput startTap
        (sideOutput startTap
          ((reflections _ _).foldl (reflect startTap) ram) leftSide).2
        rightSide).2
      0
  rw [reflected, sideOutput_startTap four.1 four.2,
    sideOutput_startTap six.1 six.2]
  exact (cleared seven.1).2

end PsxPlayer.Reverb
