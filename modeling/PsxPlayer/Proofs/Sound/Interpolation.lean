import PsxPlayer.Proofs.Sound.Sample

namespace PsxPlayer

/-!
# The range of interpolated samples

The weights of the bell filter are those of a mean at every position, so its
output lies among the four samples.  The straight line lies between its ends,
and the cubic is limited to 16 bits.
-/

namespace Weights

/-- The weights of a mean: none is negative, and they add up to one. -/
structure IsMean (weights : Weights) : Prop where
  oldest : 0 ≤ weights.oldest
  older : 0 ≤ weights.older
  newer : 0 ≤ weights.newer
  newest : 0 ≤ weights.newest
  total : weights.total = unity

/-- The bell curve is as high on one side of the middle as on the other. -/
theorem bell_neg (distance : Int) : bell (-distance) = bell distance := by
  simp only [bell, Int.mul_neg, Int.neg_mul, Int.neg_neg]

/-- The bell curve stays between zero and one, and near the middle above a half. -/
theorem bell_bounds :
    ∀ distance : Nat,
      distance ≤ 512 →
      0 ≤ bell distance ∧ bell distance ≤ fixedOne ∧
        (distance ≤ 128 → fixedOne ≤ 2 * bell distance) := by
  decide +kernel

/-- The share that `normalize` makes of a weight. -/
def share (total weight : Int) : Int :=
  (2 * weight * unity + total) / (2 * total)

/-- A rounded share is not negative and at most half a step too large. -/
theorem share_bounds
    {weight total : Int}
    (nonneg : 0 ≤ weight)
    (positive : 0 < total) :
    0 ≤ share total weight ∧
      share total weight * (2 * total) ≤ 2 * weight * unity + total := by
  refine ⟨Int.ediv_nonneg ?_ (by omega), Int.ediv_mul_le _ (by omega)⟩
  unfold unity
  omega

/-- A weight of at least a sixteenth of the whole has a share of at least two. -/
theorem two_le_share
    {weight total : Int}
    (positive : 0 < total)
    (large : total ≤ 16 * weight) :
    2 ≤ share total weight := by
  apply Int.le_ediv_of_mul_le (by omega)
  unfold unity
  omega

theorem normalize_eq (weights : Weights) :
    weights.normalize =
      ⟨share weights.total weights.oldest, share weights.total weights.older,
        share weights.total weights.newer, share weights.total weights.newest⟩ :=
  rfl

theorem total_normalize (weights : Weights) :
    weights.normalize.total =
      share weights.total weights.oldest + share weights.total weights.older +
        share weights.total weights.newer + share weights.total weights.newest :=
  rfl

/-- None of the weights is negative, and they are not all zero. -/
structure IsPositive (weights : Weights) : Prop where
  oldest : 0 ≤ weights.oldest
  older : 0 ≤ weights.older
  newer : 0 ≤ weights.newer
  newest : 0 ≤ weights.newest
  positive : 0 < weights.total

/-- The rounded shares exceed the whole by at most two. -/
theorem IsPositive.total_normalize_le
    {weights : Weights}
    (isPositive : weights.IsPositive) :
    weights.normalize.total ≤ unity + 2 := by
  obtain ⟨oldest, older, newer, newest, positive⟩ := isPositive
  have first := (share_bounds oldest positive).2
  have second := (share_bounds older positive).2
  have third := (share_bounds newer positive).2
  have fourth := (share_bounds newest positive).2
  have whole :
      2 * weights.oldest * unity + 2 * weights.older * unity +
          2 * weights.newer * unity + 2 * weights.newest * unity =
        unity * (2 * weights.total) := by
    unfold unity total
    omega
  have shares :
      weights.normalize.total * (2 * weights.total) ≤
        (unity + 2) * (2 * weights.total) := by
    rw [total_normalize, Int.add_mul, Int.add_mul, Int.add_mul, Int.add_mul, ← whole]
    omega
  exact Int.le_of_mul_le_mul_right shares (by omega)

/--
Balanced shares are the weights of a mean if the middle weight that takes what is
missing is at least a sixteenth of the whole.
-/
theorem IsPositive.isMean_balance
    {weights : Weights}
    {phase : Nat}
    (isPositive : weights.IsPositive)
    (heavy :
      weights.total ≤ 16 * (if phase < 128 then weights.older else weights.newer)) :
    (weights.normalize.balance phase).IsMean := by
  have excess := isPositive.total_normalize_le
  have oldest := (share_bounds isPositive.oldest isPositive.positive).1
  have older := (share_bounds isPositive.older isPositive.positive).1
  have newer := (share_bounds isPositive.newer isPositive.positive).1
  have newest := (share_bounds isPositive.newest isPositive.positive).1
  have middle := two_le_share isPositive.positive heavy
  rw [normalize_eq] at excess ⊢
  unfold balance
  split at middle
  · next early =>
    simp only [early, ↓reduceIte]
    constructor <;> simp only [total] at * <;> omega
  · next late =>
    simp only [late, ↓reduceIte]
    constructor <;> simp only [total] at * <;> omega

theorem isMean_atPhase
    {phase : Nat}
    (below : phase < 256) :
    (atPhase phase).IsMean := by
  have first := bell_bounds (256 + phase) (by omega)
  have second := bell_bounds phase (by omega)
  have third := bell_bounds (256 - phase) (by omega)
  have fourth := bell_bounds (512 - phase) (by omega)
  have left : bell (256 * (0 - 1) - phase) = bell (256 + phase : Nat) := by
    rw [← bell_neg]
    congr 1
    omega
  have middleLeft : bell (256 * (1 - 1) - phase) = bell phase := by
    rw [← bell_neg]
    congr 1
    omega
  have middleRight : bell (256 * (2 - 1) - phase) = bell (256 - phase : Nat) := by
    congr 1
    omega
  have right : bell (256 * (3 - 1) - phase) = bell (512 - phase : Nat) := by
    congr 1
    omega
  unfold atPhase
  simp only [left, middleLeft, middleRight, right]
  have one : 0 < fixedOne := by decide
  apply IsPositive.isMean_balance
  · constructor <;> simp only [total] <;> omega
  · simp only [total]
    split <;> omega

/-- Every position has a row of the table, and its weights are those of a mean. -/
theorem exists_row
    {phase : Nat}
    (below : phase < 256) :
    ∃ weights, gaussianTable[phase]? = some weights ∧ weights.IsMean := by
  have found : (List.range 256)[phase]? = some phase := List.getElem?_range below
  refine ⟨atPhase phase, ?_, isMean_atPhase below⟩
  rw [gaussianTable, List.getElem?_toArray, List.getElem?_map, found, Option.map_some]

end Weights

namespace SampleRing

/-- The lowest of the four samples. -/
def lowest (ring : SampleRing) : Int :=
  min (min ring.oldest ring.older) (min ring.newer ring.newest)

/-- The highest of the four samples. -/
def highest (ring : SampleRing) : Int :=
  max (max ring.oldest ring.older) (max ring.newer ring.newest)

/-- A mean of four samples lies among them, also when it is rounded down. -/
theorem weighted_between
    (ring : SampleRing)
    {weights : Weights}
    (isMean : weights.IsMean) :
    ring.lowest ≤ ring.weighted weights >>> (15 : Nat) ∧
      ring.weighted weights >>> (15 : Nat) ≤ ring.highest := by
  have part {weight sample : Int} (nonneg : 0 ≤ weight)
      (above : ring.lowest ≤ sample) (below : sample ≤ ring.highest) :
      weight * ring.lowest ≤ weight * sample ∧ weight * sample ≤ weight * ring.highest :=
    ⟨Int.mul_le_mul_of_nonneg_left above nonneg, Int.mul_le_mul_of_nonneg_left below nonneg⟩
  have share (bound : Int) :
      weights.oldest * bound + weights.older * bound + weights.newer * bound +
          weights.newest * bound =
        bound * 2 ^ 15 := by
    rw [← Int.add_mul, ← Int.add_mul, ← Int.add_mul, Int.mul_comm]
    exact congrArg (bound * ·) isMean.total
  have low := share ring.lowest
  have high := share ring.highest
  have first := @part _ ring.oldest isMean.oldest (by unfold lowest; omega)
    (by unfold highest; omega)
  have second := @part _ ring.older isMean.older (by unfold lowest; omega)
    (by unfold highest; omega)
  have third := @part _ ring.newer isMean.newer (by unfold lowest; omega)
    (by unfold highest; omega)
  have fourth := @part _ ring.newest isMean.newest (by unfold lowest; omega)
    (by unfold highest; omega)
  rw [Int.shiftRight_eq_div_pow, weighted]
  constructor
  · apply Int.le_ediv_of_mul_le (by decide)
    change ring.lowest * 2 ^ 15 ≤ _
    omega
  · apply Int.ediv_le_of_le_mul (by decide)
    change _ ≤ ring.highest * 2 ^ 15
    omega

/-- Whatever lies among four samples is a sample. -/
theorem InRange.isSample_of_between
    {ring : SampleRing}
    (inRange : ring.InRange)
    {value : Int}
    (between : ring.lowest ≤ value ∧ value ≤ ring.highest) :
    IsSample value := by
  obtain ⟨oldest, older, newer, newest⟩ := inRange
  unfold lowest highest at between
  unfold IsSample at *
  omega

end SampleRing

namespace Filter

/-- The straight line lies between its ends. -/
theorem linearAt_between
    (ring : SampleRing)
    {fraction : Nat}
    (below : fraction < 0x10000) :
    min ring.newer ring.newest ≤ linearAt ring fraction ∧
      linearAt ring fraction ≤ max ring.newer ring.newest := by
  have ends :
      min 0 (ring.newest - ring.newer) ≤ (ring.newest - ring.newer) * fraction / 2 ^ 16 ∧
        (ring.newest - ring.newer) * fraction / 2 ^ 16 ≤
          max 0 (ring.newest - ring.newer) := by
    generalize ring.newest - ring.newer = rise
    rcases Int.le_total 0 rise with rising | falling
    · have low : 0 ≤ rise * fraction := Int.mul_nonneg rising (by omega)
      have high : rise * fraction ≤ rise * 0x10000 :=
        Int.mul_le_mul_of_nonneg_left (by omega) rising
      omega
    · have high : rise * fraction ≤ 0 := Int.mul_nonpos_of_nonpos_of_nonneg falling (by omega)
      have low : rise * 0x10000 ≤ rise * fraction :=
        Int.mul_le_mul_of_nonpos_left falling (by omega)
      omega
  unfold linearAt
  rw [Int.shiftRight_eq_div_pow]
  omega

theorem isSample_linearAt
    {ring : SampleRing}
    {fraction : Nat}
    (inRange : ring.InRange)
    (below : fraction < 0x10000) :
    IsSample (linearAt ring fraction) := by
  have between := linearAt_between ring below
  apply inRange.isSample_of_between
  unfold SampleRing.lowest SampleRing.highest
  omega

/-- The bell-weighted sum lies among the samples. -/
theorem gaussianAt_between
    (ring : SampleRing)
    {fraction : Nat}
    (below : fraction < 0x10000) :
    ring.lowest ≤ gaussianAt ring fraction ∧ gaussianAt ring fraction ≤ ring.highest := by
  have inTable : fraction / 256 < 256 := by omega
  obtain ⟨weights, found, isMean⟩ := Weights.exists_row inTable
  have row : gaussianAt ring fraction = ring.weighted weights >>> (15 : Nat) := by
    unfold gaussianAt
    rw [found]
  rw [row]
  exact ring.weighted_between isMean

theorem isSample_gaussianAt
    {ring : SampleRing}
    {fraction : Nat}
    (inRange : ring.InRange)
    (below : fraction < 0x10000) :
    IsSample (gaussianAt ring fraction) :=
  inRange.isSample_of_between (gaussianAt_between ring below)

theorem isSample_cubicAt
    (ring : SampleRing)
    (fraction : Int) :
    IsSample (cubicAt ring fraction) :=
  isSample_clamp16 _

/-- Reducing a sample to 32 bits changes nothing. -/
theorem wrap32_of_isSample
    {value : Int}
    (isSample : IsSample value) :
    wrap32 value = value := by
  obtain ⟨low, high⟩ := isSample
  exact Int32.toInt_ofInt_of_le (by omega) (by omega)

section

variable {ring : SampleRing} (inRange : ring.InRange) (fraction : Nat)

include inRange

/-- The line and the bell-weighted sum are samples, so that reducing them changes nothing. -/
theorem apply_linear :
    linear.apply ring fraction = linearAt ring (fraction % 0x10000 : Nat) :=
  wrap32_of_isSample (isSample_linearAt inRange (Nat.mod_lt _ (by decide)))

theorem apply_gaussian :
    gaussian.apply ring fraction = gaussianAt ring (fraction % 0x10000) :=
  wrap32_of_isSample (isSample_gaussianAt inRange (Nat.mod_lt _ (by decide)))

end

/-- Every filter makes a sample of four samples. -/
theorem isSample_apply
    {ring : SampleRing}
    (filter : Filter)
    (inRange : ring.InRange)
    (fraction : Nat) :
    IsSample (filter.apply ring fraction) := by
  have below : fraction % 0x10000 < 0x10000 := Nat.mod_lt _ (by decide)
  cases filter with
  | none => exact inRange.newest
  | linear =>
      rw [apply_linear inRange]
      exact isSample_linearAt inRange below
  | gaussian =>
      rw [apply_gaussian inRange]
      exact isSample_gaussianAt inRange below
  | cubic => exact isSample_cubicAt ring _

/-- A constant has no differences, so that the cubic through it is constant. -/
theorem cubicAt_constant
    {value : Int}
    (isSample : IsSample value)
    (fraction : Int) :
    cubicAt ⟨value, value, value, value⟩ fraction = value := by
  have second : value - 2 * value + value = 0 := by omega
  have third : value - 3 * value + 3 * value - value = 0 := by omega
  obtain ⟨low, high⟩ := isSample
  unfold cubicAt
  simp only [second, third, Int.sub_self, Int.zero_mul, Int.zero_tdiv, Int.zero_shiftRight,
    Int.add_zero]
  unfold clamp16
  omega

/-- Every filter leaves a constant as it is. -/
theorem apply_constant
    {value : Int}
    (inRange : (⟨value, value, value, value⟩ : SampleRing).InRange)
    (fraction : Nat)
    (filter : Filter) :
    filter.apply ⟨value, value, value, value⟩ fraction = value := by
  have below : fraction % 0x10000 < 0x10000 := Nat.mod_lt _ (by decide)
  cases filter with
  | none => rfl
  | linear =>
      have between := linearAt_between ⟨value, value, value, value⟩ below
      rw [apply_linear inRange]
      rw [Int.min_self, Int.max_self] at between
      exact Int.le_antisymm between.2 between.1
  | gaussian =>
      have between := gaussianAt_between ⟨value, value, value, value⟩ below
      rw [apply_gaussian inRange]
      simp only [SampleRing.lowest, SampleRing.highest, Int.min_self, Int.max_self] at between
      exact Int.le_antisymm between.2 between.1
  | cubic => exact cubicAt_constant inRange.newest _

/--
No filter leaves the range of samples: the newest sample and the line lie between the two newest
samples, the bell-weighted sum lies among all four, and the cubic is a sample.  Every filter
leaves a constant as it is.
-/
theorem apply_keepsRange
    {ring : SampleRing}
    (inRange : ring.InRange)
    (fraction : Nat) :
    (∀ filter, filter = none ∨ filter = linear →
        min ring.newer ring.newest ≤ filter.apply ring fraction ∧
          filter.apply ring fraction ≤ max ring.newer ring.newest) ∧
      (ring.lowest ≤ gaussian.apply ring fraction ∧
        gaussian.apply ring fraction ≤ ring.highest) ∧
      IsSample (cubic.apply ring fraction) ∧
      ∀ value,
        ring = ⟨value, value, value, value⟩ →
        ∀ filter : Filter, filter.apply ring fraction = value := by
  have below : fraction % 0x10000 < 0x10000 := Nat.mod_lt _ (by decide)
  refine ⟨?_, ?_, isSample_apply cubic inRange fraction, ?_⟩
  · rintro filter (rfl | rfl)
    · exact ⟨Int.min_le_right _ _, Int.le_max_right _ _⟩
    · rw [apply_linear inRange]
      exact linearAt_between ring below
  · rw [apply_gaussian inRange]
    exact gaussianAt_between ring below
  · rintro value rfl filter
    exact apply_constant inRange fraction filter

/-- The lowest of all constants at the last position before the next sample. -/
theorem apply_keepsRange_atLowest :
    (⟨-32768, -32768, -32768, -32768⟩ : SampleRing).InRange ∧
      ∀ filter : Filter, filter.apply ⟨-32768, -32768, -32768, -32768⟩ 0xFFFF = -32768 := by
  have lowest : IsSample (-32768) := by decide
  have inRange : (⟨-32768, -32768, -32768, -32768⟩ : SampleRing).InRange :=
    ⟨lowest, lowest, lowest, lowest⟩
  exact ⟨inRange, (apply_keepsRange inRange 0xFFFF).2.2.2 (-32768) rfl⟩

end Filter

end PsxPlayer
