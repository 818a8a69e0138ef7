import PsxPlayer.Proofs.Sound.Checked.Level
import PsxPlayer.Proofs.Sound.WellFormed

namespace PsxPlayer.Reverb

/-!
# The reverb's work area

Whatever its registers hold, the reverb reads and writes whole halfwords between the start of
its work area and the end of sound RAM.  It goes on inside of that area after each step, and a
step's result is held until the next one.
-/

/-! ## Accesses -/

/-- A halfword of the work area that starts at `base`. -/
def InWorkArea (base address : Nat) : Prop :=
  address % 2 = 0 ∧ base ≤ address ∧ address + 2 ≤ soundRamSize

instance decidableInWorkArea (base address : Nat) : Decidable (InWorkArea base address) :=
  inferInstanceAs (Decidable (_ ∧ _))

/-- The work area starts at an even address. -/
theorem base_even (registers : ReverbRegisters) : registers.base % 2 = 0 := by
  unfold ReverbRegisters.base
  omega

/-- The wrapped distance is below the size of the area, and an even start survives halving. -/
theorem address_inWorkArea
    (current : Nat)
    {base : Nat}
    (even : base % 2 = 0)
    (inside : base < soundRamSize)
    (distance : Int) :
    InWorkArea base (address current base distance) := by
  have sizePos : (0 : Int) < (soundRamSize : Int) - base := by omega
  have below := Int.emod_lt_of_pos ((current : Int) - base + distance) sizePos
  have nonneg := Int.emod_nonneg ((current : Int) - base + distance) (Int.ne_of_gt sizePos)
  unfold address InWorkArea
  rw [if_pos inside]
  dsimp only
  generalize ((current : Int) - base + distance) % ((soundRamSize : Int) - base) = wrapped
    at below nonneg ⊢
  unfold soundRamSize at *
  omega

namespace Tap

/-- A tap reads and writes inside the work area, whatever its distance. -/
theorem address_inWorkArea
    (tap : Tap)
    (distance : Int) :
    InWorkArea tap.registers.base (address tap.current tap.registers.base distance) :=
  Reverb.address_inWorkArea tap.current (base_even tap.registers) (base_lt tap.registers) distance

/-- All stores of a step go to the work area. -/
theorem storeAddresses_inWorkArea
    (tap : Tap)
    {address : Nat}
    (member : address ∈ tap.storeAddresses) :
    InWorkArea tap.registers.base address := by
  obtain ⟨place, -, rfl⟩ := List.mem_map.mp member
  exact tap.address_inWorkArea _

end Tap

/-!
A reverb with every access checked: it answers `none` if one misses the halfwords of the work
area.
-/

namespace Guarded

/-- `Tap.load` with the address checked. -/
def load? (tap : Tap) (ram : ByteArray) (distance : Int) : Option Int :=
  let address := address tap.current tap.registers.base distance
  if InWorkArea tap.registers.base address then some (loadSample ram address) else none

/-- `Tap.store` with the address checked. -/
def store? (tap : Tap) (ram : ByteArray) (distance sample : Int) : Option ByteArray :=
  let address := address tap.current tap.registers.base distance
  if InWorkArea tap.registers.base address then some (storeSample ram address sample) else none

/-- `Reverb.reflect` with every access checked. -/
def reflect? (tap : Tap) (ram : ByteArray) (reflection : Reflection) : Option ByteArray := do
  let registers := tap.registers
  let volume := registers.coefficient ReverbRegisters.reflectionVolume
  let wall ← load? tap ram (registers.distance reflection.wall)
  let previous ← load? tap ram (registers.distance reflection.place - 2)
  let driven :=
    reflection.input + scaled wall (registers.coefficient ReverbRegisters.wallVolume)
  store? tap ram (registers.distance reflection.place)
    (scaled driven volume + scaled previous (0x8000 - volume))

/-- `Reverb.combSum` with every access checked. -/
def combSum? (tap : Tap) (ram : ByteArray) (side : Side) : Option Int :=
  (side.combs.zip ReverbRegisters.combVolumes).foldlM
    (fun sum (comb : Fin 32 × Fin 32) => do
      let sample ← load? tap ram (tap.registers.distance comb.1)
      return sum + scaled sample (tap.registers.coefficient comb.2))
    0

/-- `Reverb.allPass` with every access checked. -/
def allPass? (tap : Tap) (state : Int × ByteArray) (filter : AllPass) :
    Option (Int × ByteArray) := do
  let registers := tap.registers
  let volume := registers.coefficient filter.volume
  let delayed ←
    load? tap state.2 (registers.distance filter.place - registers.distance filter.delay)
  let sample := state.1 - scaled delayed volume
  let ram ← store? tap state.2 (registers.distance filter.place) sample
  return (scaled (clamp16 sample) volume + delayed, ram)

/-- `Reverb.sideOutput` with every access checked. -/
def sideOutput? (tap : Tap) (ram : ByteArray) (side : Side) : Option (Int × ByteArray) := do
  let sum ← combSum? tap ram side
  let state ← side.filters.foldlM (allPass? tap) (sum, ram)
  return (clamp16 state.1, state.2)

/-- `Reverb.step` with every access checked. -/
def step? (current : Nat) (registers : ReverbRegisters) (ram : ByteArray) (input : Stereo) :
    Option (Stereo × Nat × ByteArray) := do
  let current := settle current registers.base
  let tap : Tap := ⟨registers, current⟩
  let left := scaled input.left (registers.coefficient ReverbRegisters.inputLeft)
  let right := scaled input.right (registers.coefficient ReverbRegisters.inputRight)
  let ram ← (reflections left right).foldlM (reflect? tap) ram
  let leftOutput ← sideOutput? tap ram leftSide
  let rightOutput ← sideOutput? tap leftOutput.2 rightSide
  return (⟨leftOutput.1, rightOutput.1⟩, advance current registers.base, rightOutput.2)

/-- `Reverb.process` with every access checked. -/
def process? (reverb : Reverb) (registers : ReverbRegisters) (ram : ByteArray) (input : Stereo) :
    Option (Stereo × Reverb × ByteArray) :=
  match reverb.pending? with
  | none => some (reverb.held, { reverb with pending? := some input }, ram)
  | some first => do
      let average : Stereo :=
        ⟨Int.tdiv (first.left + input.left) 2, Int.tdiv (first.right + input.right) 2⟩
      let (output, current, ram) ← step? reverb.current registers ram average
      return (output, ⟨current, none, output⟩, ram)

/-- A fold of steps that all come through is the fold of what they give. -/
theorem foldlM_some
    {State Item : Type}
    {step? : State → Item → Option State}
    {step : State → Item → State}
    (comesThrough : ∀ state item, step? state item = some (step state item))
    (items : List Item)
    (state : State) :
    items.foldlM step? state = some (items.foldl step state) := by
  obtain rfl : step? = fun state item => some (step state item) :=
    funext fun state => funext fun item => comesThrough state item
  exact List.foldlM_pure

section

variable (tap : Tap) (ram : ByteArray)

/-- The checked load never fails and is the load. -/
theorem load?_eq_some (distance : Int) : load? tap ram distance = some (tap.load ram distance) :=
  if_pos (tap.address_inWorkArea distance)

/-- The checked store never fails and is the store. -/
theorem store?_eq_some (distance sample : Int) :
    store? tap ram distance sample = some (tap.store ram distance sample) :=
  if_pos (tap.address_inWorkArea distance)

/-- Every access of a reflection is checked, and passes. -/
theorem reflect?_eq_some (reflection : Reflection) :
    reflect? tap ram reflection = some (reflect tap ram reflection) := by
  simp only [reflect?, load?_eq_some, store?_eq_some, some_bind]
  rfl

/-- Every access of the comb filters is checked, and passes. -/
theorem combSum?_eq_some (side : Side) :
    combSum? tap ram side = some (combSum tap ram side) := by
  simp only [combSum?, load?_eq_some, some_bind]
  exact foldlM_some (fun _ _ => rfl) _ _

/-- Every access of an all-pass filter is checked, and passes. -/
theorem allPass?_eq_some (state : Int × ByteArray) (filter : AllPass) :
    allPass? tap state filter = some (allPass tap state filter) := by
  simp only [allPass?, load?_eq_some, store?_eq_some, some_bind]
  rfl

theorem sideOutput?_eq_some (side : Side) :
    sideOutput? tap ram side = some (sideOutput tap ram side) := by
  rw [sideOutput?, combSum?_eq_some, some_bind, foldlM_some (allPass?_eq_some tap), some_bind]
  rfl

/-- Every access of a whole step is checked, and passes. -/
theorem step?_eq_some
    (current : Nat)
    (registers : ReverbRegisters)
    (input : Stereo) :
    step? current registers ram input = some (step current registers ram input) := by
  rw [step?, foldlM_some (reflect?_eq_some _), some_bind, sideOutput?_eq_some, some_bind,
    sideOutput?_eq_some, some_bind]
  simp only [step, Option.pure_def]

/-- No access of the reverb misses the work area. -/
theorem process?_eq_some
    (reverb : Reverb)
    (registers : ReverbRegisters)
    (input : Stereo) :
    process? reverb registers ram input = some (reverb.process registers ram input) := by
  unfold process? Reverb.process
  cases reverb.pending? with
  | none => rfl
  | some first =>
      simp only [step?_eq_some, some_bind]
      rfl

end

end Guarded

/-! ## Steps -/

/-- A step stores nothing below the work area. -/
theorem get!_process_below
    (reverb : Reverb)
    (registers : ReverbRegisters)
    (ram : ByteArray)
    (input : Stereo)
    {index : Nat}
    (below : index < registers.base) :
    (reverb.process registers ram input).2.2.get! index = ram.get! index := by
  refine (reverb.process_storedAt registers ram input).sameOutside index fun address member => ?_
  unfold nextStores at member
  split at member
  · exact absurd member List.not_mem_nil
  · obtain ⟨-, above, -⟩ := Tap.storeAddresses_inWorkArea _ member
    exact .inl (Nat.lt_of_lt_of_le below above)

/-- A step goes on inside of the work area. -/
theorem advance_settle_inside
    (current : Nat)
    (registers : ReverbRegisters) :
    registers.base ≤ advance (settle current registers.base) registers.base ∧
      advance (settle current registers.base) registers.base < soundRamSize := by
  have inside := base_lt registers
  unfold advance settle
  repeat' split
  all_goals omega

/-- The position stays even as the work area is walked round. -/
theorem advance_settle_even
    {current : Nat}
    (even : current % 2 = 0)
    (registers : ReverbRegisters) :
    advance (settle current registers.base) registers.base % 2 = 0 := by
  have baseEven := base_even registers
  unfold advance settle
  repeat' split
  all_goals omega

/-! ## Histories -/

/-- What happens to a reverb. -/
inductive Event where
  | feed (registers : ReverbRegisters) (ram : ByteArray) (input : Stereo)
  | reset

/-- The reverb after an event. -/
def after (reverb : Reverb) : Event → Reverb
  | .feed registers ram input => (reverb.process registers ram input).2.1
  | .reset => initial

/-- The reverb after a history. -/
def afterAll (reverb : Reverb) (events : List Event) : Reverb :=
  events.foldl after reverb

/-- The inputs since the last reset, after those counted so far. -/
def fedSince (count : Nat) : List Event → Nat
  | [] => count
  | .feed .. :: rest => fedSince (count + 1) rest
  | .reset :: rest => fedSince 0 rest

/-- The next input is the second of a pair, so it makes a step. -/
def CompletesPair (events : List Event) : Prop :=
  fedSince 0 events % 2 = 1

/-- What holds of a reverb between calls, after some number of inputs since the last reset. -/
structure Coherent (reverb : Reverb) (count : Nat) : Prop where
  even : reverb.current % 2 = 0
  held : reverb.held.InRange
  pending_iff : reverb.pending?.isSome ↔ count % 2 = 1

theorem coherent_initial : initial.Coherent 0 where
  even := rfl
  held := ⟨isSample_zero, isSample_zero⟩
  pending_iff := by decide

namespace Coherent

variable {reverb : Reverb} {count : Nat}

/-- One input keeps the unit coherent with one more input counted. -/
theorem process
    (coherent : reverb.Coherent count)
    (registers : ReverbRegisters)
    (ram : ByteArray)
    (input : Stereo) :
    (reverb.process registers ram input).2.1.Coherent (count + 1) := by
  have parity := coherent.pending_iff
  unfold Reverb.process
  cases pending : reverb.pending? with
  | none =>
      rw [pending] at parity
      exact
        { coherent with
          pending_iff := iff_of_true rfl (by simp at parity; omega) }
  | some first =>
      rw [pending] at parity
      have odd := parity.mp rfl
      exact
        { even := advance_settle_even coherent.even registers
          held := (step_inRange reverb.current registers ram _).1
          pending_iff := iff_of_false nofun (by omega) }

/--
After any events the unit is coherent with the inputs counted since it was last cleared.
-/
theorem afterAll
    (coherent : reverb.Coherent count)
    (events : List Event) :
    (reverb.afterAll events).Coherent (fedSince count events) := by
  induction events generalizing reverb count with
  | nil => exact coherent
  | cons event rest inductionHypothesis =>
      cases event with
      | feed registers ram input =>
          exact inductionHypothesis (coherent.process registers ram input)
      | reset => exact inductionHypothesis coherent_initial

end Coherent

/-- What a call does, where `Steps` says whether it makes a step. -/
structure KeepsToWorkArea
    (reverb : Reverb)
    (Steps : Prop)
    (registers : ReverbRegisters)
    (ram : ByteArray)
    (input : Stereo) :
    Prop where
  /-- Every access is to a halfword of the work area. -/
  guarded :
    Guarded.process? reverb registers ram input = some (reverb.process registers ram input)
  sameSize : (reverb.process registers ram input).2.2.size = ram.size
  below_kept :
    ∀ index,
      index < registers.base →
      (reverb.process registers ram input).2.2.get! index = ram.get! index
  current_even : (reverb.process registers ram input).2.1.current % 2 = 0
  current_inside :
    Steps →
    registers.base ≤ (reverb.process registers ram input).2.1.current ∧
      (reverb.process registers ram input).2.1.current < soundRamSize
  inRange : (reverb.process registers ram input).1.InRange
  /-- What a step gives is given once more by the next call, whatever that is. -/
  held :
    Steps →
    ∀ laterRegisters laterRam laterInput,
      ((reverb.process registers ram input).2.1.process laterRegisters laterRam laterInput).1 =
        (reverb.process registers ram input).1

/--
After any events, and whatever the registers and the sound RAM then hold, the next input
makes checked accesses to the work area alone and leaves the memory below it. What it
gives are samples; at the second input of a pair they come from a step, and are given
once more.
-/
theorem afterAll_keepsToWorkArea
    (events : List Event)
    (registers : ReverbRegisters)
    (ram : ByteArray)
    (input : Stereo) :
    (initial.afterAll events).KeepsToWorkArea (CompletesPair events) registers ram input := by
  have coherent := coherent_initial.afterAll events
  generalize initial.afterAll events = reverb at coherent ⊢
  have parity : reverb.pending?.isSome ↔ CompletesPair events := coherent.pending_iff
  refine
    { guarded := Guarded.process?_eq_some ram reverb registers input
      sameSize := (reverb.process_storedAt registers ram input).sameSize
      below_kept := fun _ below => reverb.get!_process_below registers ram input below
      current_even := (coherent.process registers ram input).even
      current_inside := fun steps => ?_
      inRange := ?_
      held := fun steps laterRegisters laterRam laterInput => ?_ }
  · obtain ⟨first, pending⟩ := Option.isSome_iff_exists.mp (parity.mpr steps)
    simp only [process, pending]
    exact advance_settle_inside reverb.current registers
  · unfold process
    split
    · exact coherent.held
    · exact (step_inRange reverb.current registers ram _).1
  · obtain ⟨first, pending⟩ := Option.isSome_iff_exists.mp (parity.mpr steps)
    simp only [process, pending]

end PsxPlayer.Reverb
