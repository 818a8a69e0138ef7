import Mathlib.LinearAlgebra.Lagrange
import Mathlib.Tactic.ComputeDegree
import Mathlib.Tactic.FinCases
import Mathlib.Tactic.Linarith
import Mathlib.Tactic.Positivity
import Mathlib.Tactic.Ring
import PsxPlayer.Proofs.Sound.Sample

namespace PsxPlayer

/-!
# The cubic through four samples

The cubic filter computes by forward differences what the cubic through the four samples is between
the middle two of them.  It cuts off three times, less than one unit each time.  The first of these
errors is then halved, and the first two are doubled, at most, so that the filter stays within four
units of the cubic.  It is exact where the cubic meets a sample.
-/

namespace SampleRing

/-! ## The cubic -/

/-- The four samples, oldest first. -/
def sampleAt (ring : SampleRing) : Fin 4 → Int :=
  ![ring.oldest, ring.older, ring.newer, ring.newest]

/-- The cubic through the four samples at 0, 1, 2 and 3. -/
noncomputable def curve (ring : SampleRing) : Polynomial ℚ :=
  Lagrange.interpolate Finset.univ (fun place : Fin 4 => ((place : Nat) : ℚ))
    fun place => (ring.sampleAt place : ℚ)

open Polynomial in
/-- The cubic by the forward differences of the samples. -/
noncomputable def differenceForm (ring : SampleRing) : Polynomial ℚ :=
  C (ring.oldest : ℚ) +
    X *
      (C (ring.older - ring.oldest : ℚ) +
        C (1 / 2) * (X - 1) *
          (C (ring.newer - 2 * ring.older + ring.oldest : ℚ) +
            C (1 / 3) * (X - 2) *
              C (ring.newest - 3 * ring.newer + 3 * ring.older - ring.oldest : ℚ)))

theorem eval_differenceForm (ring : SampleRing) (place : ℚ) :
    ring.differenceForm.eval place =
      ring.oldest +
        place *
          ((ring.older - ring.oldest) +
            1 / 2 * (place - 1) *
              ((ring.newer - 2 * ring.older + ring.oldest) +
                1 / 3 * (place - 2) *
                  (ring.newest - 3 * ring.newer + 3 * ring.older - ring.oldest))) := by
  simp [differenceForm]

/-- There is only one cubic through four samples. -/
theorem differenceForm_eq_curve (ring : SampleRing) : ring.differenceForm = ring.curve := by
  apply Lagrange.eq_interpolate_of_eval_eq
  · intro first _ second _ same
    exact Fin.ext (Nat.cast_injective same)
  · unfold differenceForm
    compute_degree!
  · intro place _
    rw [eval_differenceForm]
    fin_cases place <;> simp [sampleAt] <;> ring

end SampleRing

/-! ## What is cut off -/

/--
A quotient that is cut to a whole number, and then down to whole multiples of 65536, is less than
one of these off.
-/
theorem abs_cutQuotient_sub_lt
    (value : Int)
    {divisor : Int}
    (positive : 0 < divisor) :
    |((Int.tdiv value divisor >>> (16 : Nat) : Int) : ℚ) - value / (divisor * 0x10000 : Int)| <
      1 := by
  have whole := Int.tmod_add_mul_tdiv value divisor
  have restAbove := Int.lt_tmod_of_pos value positive
  have restBelow := Int.tmod_lt_of_pos value positive
  generalize value.tdiv divisor = quotient at *
  have shifted : quotient >>> (16 : Nat) = quotient / 2 ^ 16 :=
    Int.shiftRight_eq_div_pow quotient 16
  have low := Int.mul_ediv_add_emod quotient (2 ^ 16)
  have lowNonneg : 0 ≤ divisor * (quotient % 2 ^ 16) :=
    Int.mul_nonneg positive.le (Int.emod_nonneg _ (by decide))
  have lowBelow : divisor * (quotient % 2 ^ 16) ≤ divisor * (2 ^ 16 - 1) :=
    Int.mul_le_mul_of_nonneg_left (by omega) positive.le
  rw [shifted]
  generalize quotient / 2 ^ 16 = cut at *
  have split :
      value = cut * (divisor * 0x10000) + divisor * (quotient % 2 ^ 16) + value.tmod divisor := by
    rw [← low] at whole
    linarith
  have above : (cut - 1) * (divisor * 0x10000) < value := by linarith
  have below : value < (cut + 1) * (divisor * 0x10000) := by linarith
  have unit : (0 : ℚ) < (divisor * 0x10000 : Int) := by
    exact_mod_cast Int.mul_pos positive (by decide)
  rw [abs_sub_lt_iff, sub_lt_comm, lt_div_iff₀ unit, sub_lt_iff_lt_add', div_lt_iff₀ unit]
  exact ⟨by exact_mod_cast above, by exact_mod_cast below⟩

/-- Of three errors the first one is halved, and the first two are then doubled, at most. -/
theorem abs_nestedError_lt
    {share first second third : ℚ}
    (nonneg : 0 ≤ share)
    (le_one : share ≤ 1)
    (firstSmall : |first| < 1)
    (secondSmall : |second| < 1)
    (thirdSmall : |third| < 1) :
    |(1 + share) * (share / 2 * first + second) + third| < 4 := by
  have half : |share / 2 * first| ≤ 1 / 2 := by
    rw [abs_mul, abs_of_nonneg (by linarith)]
    nlinarith [abs_nonneg first]
  have inner : |share / 2 * first + second| < 3 / 2 := by
    linarith [abs_add_le (share / 2 * first) second]
  have outer : |(1 + share) * (share / 2 * first + second)| ≤ 3 := by
    rw [abs_mul, abs_of_nonneg (by linarith)]
    nlinarith [abs_nonneg (share / 2 * first + second)]
  linarith [abs_add_le ((1 + share) * (share / 2 * first + second)) third]

namespace Filter

/-- Before it is limited, the cubic filter is less than four units off the cubic. -/
theorem exists_unlimited
    (ring : SampleRing)
    {fraction : Nat}
    (below : fraction ≤ 0xFFFF) :
    ∃ sum : Int,
      cubicAt ring fraction = clamp16 sum ∧
        |(sum : ℚ) - ring.curve.eval (1 + fraction / 0x10000 : ℚ)| < 4 := by
  refine ⟨_, rfl, ?_⟩
  set third : Int := ring.newest - 3 * ring.newer + 3 * ring.older - ring.oldest with thirdIs
  set second : Int := ring.newer - 2 * ring.older + ring.oldest with secondIs
  set x : Int := 0x10000 + fraction with xIs
  -- The places that cut off, from the inside out; each one works on what the one before left.
  have firstCut := abs_cutQuotient_sub_lt (third * (x - 2 * 0x10000)) (show (0 : Int) < 3 by decide)
  set curvature := Int.tdiv (third * (x - 2 * 0x10000)) 3 >>> (16 : Nat)
  have secondCut := abs_cutQuotient_sub_lt ((curvature + second) * (x - 0x10000))
    (show (0 : Int) < 2 by decide)
  set slope := Int.tdiv ((curvature + second) * (x - 0x10000)) 2 >>> (16 : Nat)
  have thirdCut := abs_cutQuotient_sub_lt ((slope + (ring.older - ring.oldest)) * x)
    (show (0 : Int) < 1 by decide)
  rw [Int.tdiv_one] at thirdCut
  set rise := ((slope + (ring.older - ring.oldest)) * x) >>> (16 : Nat)
  have shareNonneg : (0 : ℚ) ≤ fraction / 0x10000 := by positivity
  have shareLeOne : (fraction : ℚ) / 0x10000 ≤ 1 := by
    rw [div_le_one₀ (by norm_num)]
    exact_mod_cast le_trans below (by decide)
  have nested := abs_nestedError_lt shareNonneg shareLeOne firstCut secondCut thirdCut
  rw [← SampleRing.differenceForm_eq_curve, SampleRing.eval_differenceForm]
  convert nested using 2
  rw [thirdIs, secondIs, xIs]
  push_cast
  ring

/-- The value in the range of samples that is nearest to this one. -/
def limited (value : ℚ) : ℚ :=
  max (-32768) (min value 32767)

theorem cast_clamp16 (value : Int) : (clamp16 value : ℚ) = limited value := by
  unfold clamp16 limited
  push_cast
  rfl

/-- What is limited comes no further apart. -/
theorem abs_limited_sub_le (first second : ℚ) :
    |limited first - limited second| ≤ |first - second| :=
  calc |limited first - limited second|
    _ ≤ |min first 32767 - min second 32767| := by
        unfold limited
        rw [max_comm, max_comm (-32768 : ℚ)]
        exact abs_sup_sub_sup_le_abs _ _ _
    _ ≤ |first - second| := abs_inf_sub_inf_le_abs _ _ _

/-- At the older of the two middle samples the differences cancel. -/
theorem cubicAt_zero
    {ring : SampleRing}
    (inRange : ring.InRange) :
    cubicAt ring 0 = ring.older := by
  obtain ⟨low, high⟩ := inRange.older
  have whole (value : Int) : (value * 0x10000) >>> (16 : Nat) = value := by
    rw [Int.shiftRight_eq_div_pow]
    exact Int.mul_ediv_cancel value (by decide)
  unfold cubicAt
  simp only [Int.add_zero, Int.sub_self, Int.mul_zero, Int.zero_tdiv, Int.zero_shiftRight,
    Int.zero_add, whole]
  unfold clamp16
  omega

/--
The cubic filter is less than four units off the cubic through the four samples, limited to the
range of samples, at every position between the middle two.  At the first of these it is exact.
-/
theorem cubic_tracksCurve
    {ring : SampleRing}
    (inRange : ring.InRange)
    {fraction : Nat}
    (below : fraction ≤ 0xFFFF) :
    |(cubic.apply ring fraction : ℚ) -
          limited (ring.curve.eval (1 + fraction / 0x10000 : ℚ))| < 4 ∧
      cubic.apply ring 0 = ring.older := by
  refine ⟨?_, cubicAt_zero inRange⟩
  obtain ⟨sum, isClamped, near⟩ := exists_unlimited ring below
  have applied : cubic.apply ring fraction = clamp16 sum := by
    rw [← isClamped, apply, Nat.mod_eq_of_lt (Nat.lt_succ_of_le below)]
  rw [applied, cast_clamp16]
  exact lt_of_le_of_lt (abs_limited_sub_le _ _) near

/-- Samples between which the cubic leaves the range, half of the way. -/
theorem cubic_tracksCurve_overshooting :
    (⟨-32768, 32767, 32767, -32768⟩ : SampleRing).InRange ∧
      |(cubic.apply ⟨-32768, 32767, 32767, -32768⟩ 0x8000 : ℚ) -
          limited ((⟨-32768, 32767, 32767, -32768⟩ : SampleRing).curve.eval
            (1 + (0x8000 : Nat) / 0x10000 : ℚ))| < 4 ∧
      cubic.apply ⟨-32768, 32767, 32767, -32768⟩ 0 = 32767 := by
  have inRange : (⟨-32768, 32767, 32767, -32768⟩ : SampleRing).InRange :=
    ⟨by decide, by decide, by decide, by decide⟩
  exact ⟨inRange, cubic_tracksCurve inRange (by decide)⟩

end Filter

end PsxPlayer
