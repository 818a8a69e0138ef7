import PsxPlayer.Proofs.Sound.Checked.Level
import PsxPlayer.Proofs.Sound.WellFormed

namespace PsxPlayer

/-!
# The reverb in 32 bits

A product is computed in 64 bits and cut to 32; sums are computed in 32.  Since all
that the delay lines hold is limited to 16 bits, and no coefficient is larger than
one, nothing comes near the limits of a word.
-/

/-- `scaled`, which multiplies in 64 bits, with the result checked. -/
def scaled? (sample coefficient : Int) : Option Int :=
  int32? (scaled sample coefficient)

/-- The sum of the terms of a list, with every term and every sum checked. -/
def addAll? {Item : Type} (term? : Item → Option Int) (items : List Item) (start : Int) :
    Option Int :=
  items.foldlM (fun sum item => do
    let added ← term? item
    int32? (sum + added)) start

/-- A sum of bounded terms is bounded. -/
theorem addAll?_eq_some
    {Item : Type}
    {term? : Item → Option Int}
    {term : Item → Int}
    {bound : Nat}
    {items : List Item}
    {start : Int}
    (fits : ∀ item, term? item = some (term item))
    (bounded : ∀ item, (term item).natAbs ≤ bound)
    (room : start.natAbs + items.length * bound ≤ 0x7FFFFFFF) :
    addAll? term? items start = some (items.foldl (fun sum item => sum + term item) start) ∧
      (items.foldl (fun sum item => sum + term item) start).natAbs ≤
        start.natAbs + items.length * bound := by
  induction items generalizing start with
  | nil => exact ⟨rfl, Nat.le_add_right _ _⟩
  | cons item rest inductionHypothesis =>
      have first := bounded item
      rw [List.length_cons, Nat.add_one_mul] at room ⊢
      obtain ⟨later, laterBounded⟩ :=
        inductionHypothesis (show (start + term item).natAbs + rest.length * bound ≤ 0x7FFFFFFF by
          omega)
      refine ⟨?_, ?_⟩
      · rw [addAll?, List.foldlM_cons, fits, some_bind, int32?_eq_some (by omega), some_bind,
          List.foldl_cons]
        exact later
      · rw [List.foldl_cons]
        omega

theorem isSample_loadSample
    (ram : ByteArray)
    (address : Nat) :
    IsSample (loadSample ram address) :=
  isSample_signedHalf _

/-- A register is at most one in size, as a coefficient. -/
theorem ReverbRegisters.natAbs_coefficient_le
    (registers : ReverbRegisters)
    (index : Fin 32) :
    (registers.coefficient index).natAbs ≤ 1 * 0x8000 := by
  rw [Nat.one_mul]
  exact (isSample_signedHalf _).natAbs_le

theorem scaled?_eq_some
    {value coefficient : Int}
    {bound factor : Nat}
    (valueBounded : value.natAbs ≤ bound)
    (bounded : coefficient.natAbs ≤ factor * 0x8000)
    (fits : bound * factor ≤ 0x7FFFFFFF) :
    scaled? value coefficient = some (scaled value coefficient) :=
  int32?_eq_some_of_le (natAbs_scaled_le valueBounded bounded) fits

namespace Reverb

/-- The sample that `reflect` stores, with every value checked. -/
def reflected? (input wall wallVolume previous volume : Int) : Option Int := do
  let wall ← scaled? wall wallVolume
  let driven ← int32? (input + wall)
  let first ← scaled? driven volume
  let rest ← int32? (0x8000 - volume)
  let second ← scaled? previous rest
  int32? (first + second)

/-- `reflect` with every value checked. -/
def reflect? (tap : Tap) (ram : ByteArray) (reflection : Reflection) : Option ByteArray := do
  let registers := tap.registers
  let sample ←
    reflected? reflection.input
      (tap.load ram (registers.distance reflection.wall))
      (registers.coefficient ReverbRegisters.wallVolume)
      (tap.load ram (registers.distance reflection.place - 2))
      (registers.coefficient ReverbRegisters.reflectionVolume)
  return tap.store ram (registers.distance reflection.place) sample

/-- `combSum` with every value checked. -/
def combSum? (tap : Tap) (ram : ByteArray) (side : Side) : Option Int :=
  addAll?
    (fun (comb : Fin 32 × Fin 32) =>
      scaled? (tap.load ram (tap.registers.distance comb.1)) (tap.registers.coefficient comb.2))
    (side.combs.zip ReverbRegisters.combVolumes) 0

/-- The output of `allPass` and the sample that it stores, with every value checked. -/
def allPassed? (sample delayed volume : Int) : Option (Int × Int) := do
  let echo ← scaled? delayed volume
  let stored ← int32? (sample - echo)
  let passed ← scaled? (clamp16 stored) volume
  let output ← int32? (passed + delayed)
  return (output, stored)

/-- `allPass` with every value checked. -/
def allPass?
    (tap : Tap)
    (state : Int × ByteArray)
    (filter : AllPass) :
    Option (Int × ByteArray) := do
  let registers := tap.registers
  let delayed :=
    tap.load state.2 (registers.distance filter.place - registers.distance filter.delay)
  let passed ← allPassed? state.1 delayed (registers.coefficient filter.volume)
  return (passed.1, tap.store state.2 (registers.distance filter.place) passed.2)

/-- `sideOutput` with every value checked. -/
def sideOutput? (tap : Tap) (ram : ByteArray) (side : Side) : Option (Int × ByteArray) := do
  let sum ← combSum? tap ram side
  let state ← side.filters.foldlM (allPass? tap) (sum, ram)
  return (clamp16 state.1, state.2)

/-- `step` with every value checked. -/
def step?
    (current : Nat)
    (registers : ReverbRegisters)
    (ram : ByteArray)
    (input : Stereo) :
    Option (Stereo × Nat × ByteArray) := do
  let base ← word? registers.base
  let current := settle current base
  let tap : Tap := ⟨registers, current⟩
  let left ← scaled? input.left (registers.coefficient ReverbRegisters.inputLeft)
  let right ← scaled? input.right (registers.coefficient ReverbRegisters.inputRight)
  let ram ← (reflections left right).foldlM (reflect? tap) ram
  let (outLeft, ram) ← sideOutput? tap ram leftSide
  let (outRight, ram) ← sideOutput? tap ram rightSide
  let advanced ← word? (current + 2 : Nat)
  return (⟨outLeft, outRight⟩, if soundRamSize ≤ advanced then base else advanced, ram)

/-- `process` with every value checked. -/
def process?
    (reverb : Reverb)
    (registers : ReverbRegisters)
    (ram : ByteArray)
    (input : Stereo) :
    Option (Stereo × Reverb × ByteArray) :=
  match reverb.pending? with
  | none => some (reverb.held, { reverb with pending? := some input }, ram)
  | some first => do
      let left ← int32? (first.left + input.left)
      let right ← int32? (first.right + input.right)
      let (output, current, ram) ←
        step? reverb.current registers ram ⟨Int.tdiv left 2, Int.tdiv right 2⟩
      return (output, ⟨current, none, output⟩, ram)

theorem Tap.natAbs_load_le
    (tap : Tap)
    (ram : ByteArray)
    (distance : Int) :
    (tap.load ram distance).natAbs ≤ 0x8000 :=
  (isSample_loadSample _ _).natAbs_le

theorem reflected?_eq_some
    {input wall wallVolume previous volume : Int}
    (inputBounded : input.natAbs ≤ 0x8000)
    (wallBounded : wall.natAbs ≤ 0x8000)
    (wallVolumeBounded : wallVolume.natAbs ≤ 1 * 0x8000)
    (previousBounded : previous.natAbs ≤ 0x8000)
    (volumeBounded : volume.natAbs ≤ 1 * 0x8000) :
    reflected? input wall wallVolume previous volume =
      some
        (scaled (input + scaled wall wallVolume) volume +
          scaled previous (0x8000 - volume)) := by
  have wallScaled := natAbs_scaled_le wallBounded wallVolumeBounded
  have driven := natAbs_add_le inputBounded wallScaled
  have first := natAbs_scaled_le driven volumeBounded
  have rest : (0x8000 - volume).natAbs ≤ 2 * 0x8000 :=
    Nat.le_trans
      (natAbs_sub_le (show (0x8000 : Int).natAbs ≤ 0x8000 by decide) volumeBounded) (by decide)
  have sum := natAbs_add_le first (natAbs_scaled_le previousBounded rest)
  rw [reflected?, scaled?_eq_some wallBounded wallVolumeBounded (by decide), some_bind,
    int32?_eq_some_of_le driven (by decide), some_bind,
    scaled?_eq_some driven volumeBounded (by decide), some_bind,
    int32?_eq_some_of_le rest (by decide), some_bind,
    scaled?_eq_some previousBounded rest (by decide), some_bind,
    int32?_eq_some_of_le sum (by decide)]

/-- A reflection of a bounded input fits. -/
theorem reflect?_eq_some
    {reflection : Reflection}
    (tap : Tap)
    (ram : ByteArray)
    (bounded : reflection.input.natAbs ≤ 0x8000) :
    reflect? tap ram reflection = some (reflect tap ram reflection) := by
  rw [reflect?, reflected?_eq_some bounded (tap.natAbs_load_le _ _)
    (tap.registers.natAbs_coefficient_le _) (tap.natAbs_load_le _ _)
    (tap.registers.natAbs_coefficient_le _), some_bind]
  rfl

theorem length_combs_le (side : Side) :
    (side.combs.zip ReverbRegisters.combVolumes).length ≤ 4 := by
  rw [List.length_zip]
  exact Nat.min_le_right _ _

theorem combSum?_eq_some
    (tap : Tap)
    (ram : ByteArray)
    (side : Side) :
    combSum? tap ram side = some (combSum tap ram side) ∧
      (combSum tap ram side).natAbs ≤ 4 * 0x8000 := by
  have loaded (comb : Fin 32 × Fin 32) :=
    tap.natAbs_load_le ram (tap.registers.distance comb.1)
  have volume (comb : Fin 32 × Fin 32) := tap.registers.natAbs_coefficient_le comb.2
  have length_le := length_combs_le side
  obtain ⟨fits, bounded⟩ :=
    addAll?_eq_some
      (fun comb => scaled?_eq_some (loaded comb) (volume comb) (by decide))
      (fun comb => natAbs_scaled_le (loaded comb) (volume comb))
      (show (0 : Int).natAbs +
          (side.combs.zip ReverbRegisters.combVolumes).length * (0x8000 * 1) ≤ 0x7FFFFFFF by
        omega)
  exact ⟨fits, Nat.le_trans bounded (by omega)⟩

theorem allPassed?_eq_some
    {sample delayed volume : Int}
    (bounded : sample.natAbs ≤ 4 * 0x8000)
    (delayedBounded : delayed.natAbs ≤ 0x8000)
    (volumeBounded : volume.natAbs ≤ 1 * 0x8000) :
    allPassed? sample delayed volume =
        some
          (scaled (clamp16 (sample - scaled delayed volume)) volume + delayed,
            sample - scaled delayed volume) ∧
      (scaled (clamp16 (sample - scaled delayed volume)) volume + delayed).natAbs ≤
        4 * 0x8000 := by
  have echo := natAbs_scaled_le delayedBounded volumeBounded
  have stored := natAbs_sub_le bounded echo
  have limited := (isSample_clamp16 (sample - scaled delayed volume)).natAbs_le
  have output := natAbs_add_le (natAbs_scaled_le limited volumeBounded) delayedBounded
  refine ⟨?_, Nat.le_trans output (by decide)⟩
  rw [allPassed?, scaled?_eq_some delayedBounded volumeBounded (by decide), some_bind,
    int32?_eq_some_of_le stored (by decide), some_bind,
    scaled?_eq_some limited volumeBounded (by decide), some_bind,
    int32?_eq_some_of_le output (by decide), some_bind]
  rfl

/-- A bounded sample passes an all-pass filter within the same bounds. -/
theorem allPass?_eq_some
    {state : Int × ByteArray}
    (tap : Tap)
    (filter : AllPass)
    (bounded : state.1.natAbs ≤ 4 * 0x8000) :
    allPass? tap state filter = some (allPass tap state filter) ∧
      (allPass tap state filter).1.natAbs ≤ 4 * 0x8000 := by
  obtain ⟨fits, stillBounded⟩ :=
    allPassed?_eq_some bounded
      (tap.natAbs_load_le state.2
        (tap.registers.distance filter.place - tap.registers.distance filter.delay))
      (tap.registers.natAbs_coefficient_le filter.volume)
  refine ⟨?_, stillBounded⟩
  rw [allPass?, fits, some_bind]
  rfl

theorem sideOutput?_eq_some
    (tap : Tap)
    (ram : ByteArray)
    (side : Side) :
    sideOutput? tap ram side = some (sideOutput tap ram side) := by
  obtain ⟨sum, bounded⟩ := combSum?_eq_some tap ram side
  obtain ⟨passed, -⟩ :=
    foldlM_eq_some (fun state : Int × ByteArray => state.1.natAbs ≤ 4 * 0x8000)
      (combSum tap ram side, ram) side.filters bounded
      fun _ filter _ bounded => allPass?_eq_some tap filter bounded
  rw [sideOutput?, sum, some_bind, passed, some_bind]
  rfl

/-- The input of a reflection is the left one or the right one. -/
theorem natAbs_input_le
    {left right : Int}
    {bound : Nat}
    {reflection : Reflection}
    (leftBounded : left.natAbs ≤ bound)
    (rightBounded : right.natAbs ≤ bound)
    (member : reflection ∈ reflections left right) :
    reflection.input.natAbs ≤ bound := by
  simp only [reflections, List.mem_cons, List.not_mem_nil, or_false] at member
  rcases member with rfl | rfl | rfl | rfl <;> assumption

/-- A step fits when its place is in sound RAM. -/
theorem step?_eq_some
    {current : Nat}
    {input : Stereo}
    (registers : ReverbRegisters)
    (ram : ByteArray)
    (inside : current < soundRamSize)
    (leftBounded : input.left.natAbs ≤ 0x8000)
    (rightBounded : input.right.natAbs ≤ 0x8000) :
    step? current registers ram input = some (step current registers ram input) := by
  have base_lt := base_lt registers
  have settled : settle current registers.base < soundRamSize := by
    unfold settle
    split <;> omega
  have leftVolume := registers.natAbs_coefficient_le ReverbRegisters.inputLeft
  have rightVolume := registers.natAbs_coefficient_le ReverbRegisters.inputRight
  have left := natAbs_scaled_le leftBounded leftVolume
  have right := natAbs_scaled_le rightBounded rightVolume
  have reflected :=
    (foldlM_eq_some (fun _ => True) ram
      (reflections
        (scaled input.left (registers.coefficient ReverbRegisters.inputLeft))
        (scaled input.right (registers.coefficient ReverbRegisters.inputRight)))
      trivial
      fun later reflection member _ =>
        ⟨reflect?_eq_some ⟨registers, settle current registers.base⟩ later
            (natAbs_input_le left right member),
          trivial⟩).1
  rw [step?, word?_eq_some (Nat.le_trans (Nat.le_of_lt base_lt) (by decide)), some_bind]
  dsimp only
  rw [scaled?_eq_some leftBounded leftVolume (by decide), some_bind,
    scaled?_eq_some rightBounded rightVolume (by decide), some_bind, reflected, some_bind,
    sideOutput?_eq_some, some_bind, sideOutput?_eq_some, some_bind,
    word?_eq_some (by unfold soundRamSize at settled; omega), some_bind]
  simp only [step, advance, Option.pure_def]

/-- The reverb fits while it holds samples. -/
theorem InRange.process?_eq_some
    {reverb : Reverb}
    {input : Stereo}
    (inRange : reverb.InRange)
    (inputInRange : input.InRange)
    (registers : ReverbRegisters)
    (ram : ByteArray) :
    reverb.process? registers ram input = some (reverb.process registers ram input) := by
  have left := inputInRange.left.natAbs_le
  have right := inputInRange.right.natAbs_le
  have halved {sum : Int} (bounded : sum.natAbs ≤ 0x10000) :
      (Int.tdiv sum 2).natAbs ≤ 0x8000 := by
    rw [Int.natAbs_tdiv]
    exact Nat.div_le_of_le_mul bounded
  cases pending : reverb.pending? with
  | none => simp only [Reverb.process?, Reverb.process, pending]
  | some first =>
      have firstLeft := (inRange.pending first pending).left.natAbs_le
      have firstRight := (inRange.pending first pending).right.natAbs_le
      simp only [Reverb.process?, Reverb.process, pending]
      have leftSum := natAbs_add_le firstLeft left
      have rightSum := natAbs_add_le firstRight right
      rw [int32?_eq_some_of_le leftSum (by decide), some_bind,
        int32?_eq_some_of_le rightSum (by decide), some_bind,
        step?_eq_some registers ram inRange.current_lt (halved leftSum) (halved rightSum)]
      rfl

end Reverb

end PsxPlayer
