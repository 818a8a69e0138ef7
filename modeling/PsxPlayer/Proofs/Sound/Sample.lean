import PsxPlayer.Sound.Interpolation
import PsxPlayer.Sound.Reverb

namespace PsxPlayer

/-!
# The range of samples

Samples are signed 16-bit values.  Limiting, scaling by a level that is at most
the whole, and every interpolation filter keep a value in that range.
-/

/-- A value that a 16-bit sample can hold. -/
def IsSample (value : Int) : Prop :=
  -32768 ≤ value ∧ value ≤ 32767

instance (value : Int) : Decidable (IsSample value) :=
  inferInstanceAs (Decidable (_ ∧ _))

theorem isSample_zero : IsSample 0 := by
  decide

theorem isSample_clamp16 (value : Int) : IsSample (clamp16 value) := by
  unfold IsSample clamp16
  omega

theorem isSample_signedHalf (value : UInt16) : IsSample (signedHalf value) :=
  ⟨Int16.le_toInt value.toInt16, Int.le_of_lt_add_one (Int16.toInt_lt value.toInt16)⟩

/-- A share of a value lies between zero and the value. -/
theorem tdiv_mul_between
    (value : Int)
    {share whole : Int}
    (nonneg : 0 ≤ share)
    (le_whole : share ≤ whole)
    (positive : 0 < whole) :
    (0 ≤ value → 0 ≤ Int.tdiv (value * share) whole ∧ Int.tdiv (value * share) whole ≤ value) ∧
      (value ≤ 0 →
        value ≤ Int.tdiv (value * share) whole ∧ Int.tdiv (value * share) whole ≤ 0) := by
  have nonnegCase {value : Int} (valueNonneg : 0 ≤ value) :
      0 ≤ Int.tdiv (value * share) whole ∧ Int.tdiv (value * share) whole ≤ value := by
    have product : 0 ≤ value * share := Int.mul_nonneg valueNonneg nonneg
    refine ⟨Int.tdiv_nonneg product (Int.le_of_lt positive), ?_⟩
    rw [Int.tdiv_eq_ediv_of_nonneg product]
    apply Int.ediv_le_of_le_mul positive
    exact Int.mul_le_mul_of_nonneg_left le_whole valueNonneg
  refine ⟨nonnegCase, ?_⟩
  intro nonpos
  have mirrored := nonnegCase (Int.neg_nonneg_of_nonpos nonpos)
  rw [Int.neg_mul, Int.neg_tdiv] at mirrored
  omega

theorem IsSample.share
    {sample share whole : Int}
    (isSample : IsSample sample)
    (nonneg : 0 ≤ share)
    (le_whole : share ≤ whole)
    (positive : 0 < whole) :
    IsSample (Int.tdiv (sample * share) whole) := by
  obtain ⟨above, below⟩ :=
    tdiv_mul_between sample nonneg le_whole positive
  unfold IsSample at *
  omega

/-- A coefficient of at most `factor` enlarges a value at most so many times. -/
theorem natAbs_scaled_le
    {value coefficient : Int}
    {bound factor : Nat}
    (valueBounded : value.natAbs ≤ bound)
    (bounded : coefficient.natAbs ≤ factor * 0x8000) :
    (scaled value coefficient).natAbs ≤ bound * factor := by
  unfold scaled
  rw [Int.natAbs_tdiv, Int.natAbs_mul]
  apply Nat.div_le_of_le_mul
  calc
    value.natAbs * coefficient.natAbs
    _ ≤ bound * (factor * 0x8000) := Nat.mul_le_mul valueBounded bounded
    _ = 0x8000 * (bound * factor) := by rw [← Nat.mul_assoc, Nat.mul_comm]

/-- Four samples. -/
structure SampleRing.InRange (ring : SampleRing) : Prop where
  oldest : IsSample ring.oldest
  older : IsSample ring.older
  newer : IsSample ring.newer
  newest : IsSample ring.newest

namespace SampleRing.InRange

theorem silent : SampleRing.silent.InRange :=
  ⟨isSample_zero, isSample_zero, isSample_zero, isSample_zero⟩

theorem push
    {ring : SampleRing}
    {sample : Int}
    (inRange : ring.InRange)
    (isSample : IsSample sample) :
    (ring.push sample).InRange :=
  ⟨inRange.older, inRange.newer, inRange.newest, isSample⟩

end SampleRing.InRange

end PsxPlayer
