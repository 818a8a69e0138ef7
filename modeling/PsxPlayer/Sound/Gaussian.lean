namespace PsxPlayer

/-!
# Gaussian weights

The weights with which the four latest samples are summed at each of 256
positions between the middle two. They are the bell curve of deviation 0.7,
scaled so that each row sums to 0x8000. The curve is computed in fixed point
with 64 fraction bits.
-/

/-- One in fixed point. -/
def fixedOne : Int := 0x10000000000000000

/--
Terms `index`, `index + 1`, … of the series of exp(-num/den), `count` of them,
when `term` is the term at `index`.
-/
def expSeries (num den : Int) : Nat → Nat → Int → Int
  | 0, _, _ => 0
  | count + 1, index, term =>
      term + expSeries num den count (index + 1) (-(term * num) / (den * (index + 1)))

/-- The bell curve at a distance of `distance`/256 samples. -/
def bell (distance : Int) : Int :=
  expSeries (25 * distance * distance) 1605632 48 0 fixedOne

/-- Weights of the four latest samples, oldest first. -/
structure Weights where
  oldest : Int
  older : Int
  newer : Int
  newest : Int
  deriving DecidableEq, Repr

namespace Weights

/-- Sum of the weights. -/
def total (weights : Weights) : Int :=
  weights.oldest + weights.older + weights.newer + weights.newest

/-- The sum of the weights of a row. -/
def unity : Int := 0x8000

/-- Each weight as a share of `unity`, rounded to the nearest. -/
def normalize (weights : Weights) : Weights :=
  let total := weights.total
  let share := fun weight => (2 * weight * unity + total) / (2 * total)
  ⟨share weights.oldest, share weights.older, share weights.newer, share weights.newest⟩

/-- Put what is missing to `unity` on the heavier middle weight. -/
def balance (weights : Weights) (phase : Nat) : Weights :=
  let residue := unity - weights.total
  if phase < 128 then
    { weights with older := weights.older + residue }
  else
    { weights with newer := weights.newer + residue }

/-- The weights at position `phase`/256 between the second and the third sample. -/
def atPhase (phase : Nat) : Weights :=
  let distance := fun tap => bell (256 * (tap - 1) - phase)
  (normalize ⟨distance 0, distance 1, distance 2, distance 3⟩).balance phase

end Weights

/-- The weights at every position. -/
def gaussianTable : Array Weights :=
  ((List.range 256).map Weights.atPhase).toArray

end PsxPlayer
