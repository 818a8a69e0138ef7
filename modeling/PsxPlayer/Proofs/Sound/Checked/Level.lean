import PsxPlayer.Proofs.Sound.Interpolation
import PsxPlayer.Proofs.Sound.Level

namespace PsxPlayer

/-!
# Levels in 32 bits

The sound processor computes with mathematical integers.  A function whose name
ends in `?` is the same computation with every 32-bit value checked where a machine
keeps it in a signed or an unsigned word; it answers `none` if one does not fit.
Values that a machine computes in 64 bits are checked where they are cut to 32.
-/

/-- A value in a signed word. -/
def int32? (value : Int) : Option Int :=
  if fits32 value then some value else none

/-- A value in an unsigned word. -/
def word? (value : Int) : Option Nat :=
  if 0 ≤ value ∧ value < 0x100000000 then some value.toNat else none

/-- What follows a value that fits goes on with it. -/
theorem some_bind
    {First Second : Type}
    (value : First)
    (next : First → Option Second) :
    (some value >>= next) = next value :=
  rfl

/-- A value that fits a signed word passes the check. -/
theorem int32?_eq_some
    {value : Int}
    (bounded : value.natAbs ≤ 0x7FFFFFFF) :
    int32? value = some value := by
  have fits : fits32 value = true := by
    simp only [fits32, Bool.and_eq_true, decide_eq_true_eq]
    omega
  simp only [int32?, fits, ↓reduceIte]

theorem int32?_eq_some_of_le
    {value : Int}
    {bound : Nat}
    (bounded : value.natAbs ≤ bound)
    (fits : bound ≤ 0x7FFFFFFF) :
    int32? value = some value :=
  int32?_eq_some (Nat.le_trans bounded fits)

/-- A value that fits a word passes the check. -/
theorem word?_eq_some
    {value : Nat}
    (bounded : value ≤ 0xFFFFFFFF) :
    word? value = some value := by
  have fits : 0 ≤ (value : Int) ∧ (value : Int) < 0x100000000 := by omega
  simp only [word?, fits, and_self, ↓reduceIte, Int.toNat_natCast]

/-- A sample is bounded by the lowest one. -/
theorem IsSample.natAbs_le
    {value : Int}
    (isSample : IsSample value) :
    value.natAbs ≤ 0x8000 := by
  obtain ⟨low, high⟩ := isSample
  omega

theorem IsSample.int32?_eq_some
    {value : Int}
    (isSample : IsSample value) :
    int32? value = some value := by
  have bounded := isSample.natAbs_le
  exact PsxPlayer.int32?_eq_some (by omega)

theorem natAbs_add_le
    {first second : Int}
    {firstMax secondMax : Nat}
    (firstBounded : first.natAbs ≤ firstMax)
    (secondBounded : second.natAbs ≤ secondMax) :
    (first + second).natAbs ≤ firstMax + secondMax :=
  Nat.le_trans (Int.natAbs_add_le _ _) (Nat.add_le_add firstBounded secondBounded)

theorem natAbs_sub_le
    {first second : Int}
    {firstMax secondMax : Nat}
    (firstBounded : first.natAbs ≤ firstMax)
    (secondBounded : second.natAbs ≤ secondMax) :
    (first - second).natAbs ≤ firstMax + secondMax :=
  Nat.le_trans (Int.natAbs_sub_le _ _) (Nat.add_le_add firstBounded secondBounded)

theorem natAbs_mul_le
    {first second : Int}
    {firstMax secondMax : Nat}
    (firstBounded : first.natAbs ≤ firstMax)
    (secondBounded : second.natAbs ≤ secondMax) :
    (first * second).natAbs ≤ firstMax * secondMax := by
  rw [Int.natAbs_mul]
  exact Nat.mul_le_mul firstBounded secondBounded

/--
A fold of checked steps is the fold of the steps if every step fits from every state
that is good, and leads to a good one.
-/
theorem foldlM_eq_some
    {State Item : Type}
    (Good : State → Prop)
    {step? : State → Item → Option State}
    {step : State → Item → State}
    (state : State)
    (items : List Item)
    (good : Good state)
    (fits :
      ∀ state item,
        item ∈ items →
        Good state →
        step? state item = some (step state item) ∧ Good (step state item)) :
    items.foldlM step? state = some (items.foldl step state) ∧
      Good (items.foldl step state) := by
  induction items generalizing state with
  | nil => exact ⟨rfl, good⟩
  | cons item rest inductionHypothesis =>
      obtain ⟨first, goodNext⟩ := fits state item (.head _) good
      rw [List.foldlM_cons, first, List.foldl_cons]
      exact inductionHypothesis _ goodNext
        fun state item member => fits state item (.tail _ member)

namespace Filter

/-- `apply` with the result checked, not cut. -/
def interpolate? (filter : Filter) (ring : SampleRing) (fraction : Nat) : Option Int :=
  let fraction := fraction % 0x10000
  match filter with
  | .none => some ring.newest
  | .linear => int32? (linearAt ring fraction)
  | .gaussian => int32? (gaussianAt ring fraction)
  | .cubic => int32? (cubicAt ring fraction)

/-- No filter leaves the range of a word, so that cutting changes nothing. -/
theorem interpolate?_eq_some
    {ring : SampleRing}
    (filter : Filter)
    (inRange : ring.InRange)
    (fraction : Nat) :
    filter.interpolate? ring fraction = some (filter.apply ring fraction) := by
  have below : fraction % 0x10000 < 0x10000 := Nat.mod_lt _ (by decide)
  cases filter with
  | none => rfl
  | linear =>
      have line := isSample_linearAt inRange below
      rw [interpolate?, apply, wrap32_of_isSample line, line.int32?_eq_some]
  | gaussian =>
      have mean := isSample_gaussianAt inRange below
      rw [interpolate?, apply, wrap32_of_isSample mean, mean.int32?_eq_some]
  | cubic => exact (isSample_cubicAt ring _).int32?_eq_some

end Filter

namespace Envelope

/-- `tick`, which computes in 64 bits, with the new level checked. -/
def tick? (envelope : Envelope) : Option Envelope := do
  let level ← int32? envelope.tick.level
  return { envelope.tick with level := level }

/-- The level of an envelope in its range fits a signed word. -/
theorem InRange.int32?_level
    {envelope : Envelope}
    (inRange : envelope.InRange) :
    int32? envelope.level = some envelope.level := by
  have nonneg := inRange.nonneg
  have le_max := inRange.le_max
  unfold envelopeMax at le_max
  exact int32?_eq_some (by omega)

/-- Every step of a tick of an envelope in its range fits a signed word. -/
theorem InRange.tick?_eq_some
    {envelope : Envelope}
    (inRange : envelope.InRange) :
    envelope.tick? = some envelope.tick := by
  rw [tick?, inRange.tick.int32?_level, some_bind]
  rfl

end Envelope

namespace Volume

/-- `tick`, which ramps in 64 bits, with the new sweep and the new level checked. -/
def tick? (volume : Volume) : Option Volume := do
  let sweep ← int32? volume.tick.sweep
  let level ← int32? volume.tick.level
  return { volume.tick with sweep := sweep, level := level }

/-- `apply` with the product and the quotient checked. -/
def scale? (volume : Volume) (sample : Int) : Option Int := do
  let product ← int32? (sample * volume.level)
  int32? (Int.tdiv product 0x4000)

namespace InRange

/-- Every step of a tick of a volume in its range fits a signed word. -/
theorem tick?_eq_some
    {volume : Volume}
    (inRange : volume.InRange) :
    volume.tick? = some volume.tick := by
  obtain ⟨nonneg, le_max, sweepNonneg, sweep_le_max⟩ := inRange.tick
  unfold volumeMax at le_max
  unfold envelopeMax at sweep_le_max
  have sweep : int32? volume.tick.sweep = some volume.tick.sweep :=
    int32?_eq_some (by omega)
  have level : int32? volume.tick.level = some volume.tick.level :=
    int32?_eq_some (by omega)
  rw [tick?, sweep, some_bind, level, some_bind]
  rfl

/-- The product of a sample and a volume in its range fits a signed word. -/
theorem scale?_eq_some
    {volume : Volume}
    {sample : Int}
    (inRange : volume.InRange)
    (isSample : IsSample sample) :
    volume.scale? sample = some (volume.apply sample) := by
  have levelBounded : volume.level.natAbs ≤ 0x3FFF := by
    have nonneg := inRange.nonneg
    have le_max := inRange.le_max
    unfold volumeMax at le_max
    omega
  have product := natAbs_mul_le isSample.natAbs_le levelBounded
  rw [scale?, int32?_eq_some_of_le product (by decide), some_bind]
  exact (inRange.isSample_apply isSample).int32?_eq_some

end InRange

end Volume

namespace NoiseSource

/-- Take `count` periods off the counter, one after the other. -/
def takeOff? (period : Int) : Nat → Int → Option Int
  | 0, counter => some counter
  | count + 1, counter => do
      let counter ← int32? (counter - period)
      takeOff? period count counter

/-- `tick` with every value of the counter checked. -/
def tick? (noise : NoiseSource) : Option NoiseSource := do
  let step ← int32? (noise.step + 4)
  let counter ← int32? (noise.counter + step)
  let period ← int32? noise.period
  let rest ← takeOff? period (counter / period).toNat counter
  return { noise with
    register := shiftTimes (counter / period).toNat noise.register
    counter := rest.toNat }

/-- A whole period can be taken off. -/
theorem takeOff?_succ
    {period counter count : Nat}
    (bounded : counter ≤ 0x7FFFFFFF)
    (enough : period ≤ counter) :
    takeOff? period (count + 1) counter = takeOff? period count (counter - period : Nat) := by
  have less : (counter : Int) - period = (counter - period : Nat) := by omega
  have fits : ((counter - period : Nat) : Int).natAbs ≤ 0x7FFFFFFF := by omega
  rw [takeOff?, less, int32?_eq_some fits, some_bind]

/-- As many periods as there are can be taken off. -/
theorem takeOff?_eq_some
    {period counter count : Nat}
    (bounded : counter ≤ 0x7FFFFFFF)
    (enough : count * period ≤ counter) :
    takeOff? period count counter = some ((counter - count * period : Nat) : Int) := by
  induction count generalizing counter with
  | zero => simp [takeOff?]
  | succ count inductionHypothesis =>
      rw [Nat.add_one_mul] at enough ⊢
      have less : counter - period ≤ 0x7FFFFFFF := Nat.le_trans (Nat.sub_le _ _) bounded
      have still : count * period ≤ counter - period := Nat.le_sub_of_add_le enough
      have whole : period ≤ counter := by omega
      rw [takeOff?_succ bounded whole, inductionHypothesis less still, Nat.sub_sub,
        Nat.add_comm]

/-- Every step of a tick of the noise in its range fits its word. -/
theorem InRange.tick?_eq_some
    {noise : NoiseSource}
    (inRange : noise.InRange) :
    noise.tick? = some noise.tick := by
  have step_lt := inRange.step_lt
  have counter_lt := inRange.counter_lt
  obtain ⟨-, period_le⟩ := inRange.period_bounds
  have bounded : noise.counter + noise.step + 4 ≤ 0x7FFFFFFF := by omega
  have step : int32? (noise.step + 4) = some ((noise.step : Int) + 4) :=
    int32?_eq_some (by omega)
  have counter :
      int32? (noise.counter + (noise.step + 4)) =
        some ((noise.counter + noise.step + 4 : Nat) : Int) := by
    rw [int32?_eq_some (by omega)]
    congr 1
  have period : int32? noise.period = some (noise.period : Int) :=
    int32?_eq_some (by omega)
  rw [tick?, step, some_bind, counter, some_bind, period,
    some_bind, ← Int.natCast_ediv, Int.toNat_natCast,
    takeOff?_eq_some bounded (Nat.div_mul_le_self _ noise.period), some_bind,
    Int.toNat_natCast, ← Nat.mod_eq_sub_div_mul]
  rfl

end NoiseSource

end PsxPlayer
