import PsxPlayer.Word
import PsxPlayer.Fault
import PsxPlayer.Sound.Gaussian

namespace PsxPlayer

/-!
# Interpolation

A voice plays between samples. It keeps the four latest samples and the fraction
of the way to the next one, and a filter turns both into one output sample.
-/

/-- The four latest samples. -/
structure SampleRing where
  oldest : Int
  older : Int
  newer : Int
  newest : Int
  deriving DecidableEq, Repr

namespace SampleRing

/-- Silence. -/
def silent : SampleRing := ⟨0, 0, 0, 0⟩

/-- Take in a sample and drop the oldest. -/
def push (ring : SampleRing) (sample : Int) : SampleRing :=
  ⟨ring.older, ring.newer, ring.newest, sample⟩

/-- The sum of the samples by weight. -/
def weighted (ring : SampleRing) (weights : Weights) : Int :=
  weights.oldest * ring.oldest + weights.older * ring.older +
    weights.newer * ring.newer + weights.newest * ring.newest

end SampleRing

/-- Interpolation filters. -/
inductive Filter where
  /-- The newest sample. -/
  | none
  /-- The straight line between the two newest samples. -/
  | linear
  /-- The bell-weighted sum of the four samples. -/
  | gaussian
  /-- The cubic through the four samples. -/
  | cubic
  deriving DecidableEq, Repr

namespace Filter

/-- All filters. -/
def all : List Filter :=
  [.none, .linear, .gaussian, .cubic]

/-- The name in settings. -/
def name : Filter → String
  | .none => "none"
  | .linear => "linear"
  | .gaussian => "gaussian"
  | .cubic => "cubic"

/-- The filter with exactly this name. -/
def ofName? (text : String) : Option Filter :=
  all.find? fun filter => filter.name == text

/-- The filter of a name in any mixture of upper and lower case. -/
def parse (text : String) : Except Fault Filter :=
  let lower := text.map Char.toLower
  match ofName? lower with
  | some filter => .ok filter
  | Option.none => .error (.unknownFilter lower)

/-- The straight line between the two newest samples, `fraction`/65536 of the way. -/
def linearAt (ring : SampleRing) (fraction : Int) : Int :=
  ring.newer + (((ring.newest - ring.newer) * fraction) >>> (16 : Nat))

/-- The bell-weighted sum at the nearest lower of 256 positions. -/
def gaussianAt (ring : SampleRing) (fraction : Nat) : Int :=
  match gaussianTable[fraction / 256]? with
  | some weights => ring.weighted weights >>> (15 : Nat)
  | Option.none => 0

/--
The cubic through the samples at 0, 1, 2 and 3, taken at 1 + `fraction`/65536 by
forward differences in 16-bit fixed point.
-/
def cubicAt (ring : SampleRing) (fraction : Int) : Int :=
  let one : Int := 0x10000
  let first := ring.older - ring.oldest
  let second := ring.newer - 2 * ring.older + ring.oldest
  let third := ring.newest - 3 * ring.newer + 3 * ring.older - ring.oldest
  let x := one + fraction
  let sum := Int.tdiv (third * (x - 2 * one)) 3 >>> (16 : Nat)
  let sum := Int.tdiv ((sum + second) * (x - one)) 2 >>> (16 : Nat)
  let sum := ((sum + first) * x) >>> (16 : Nat)
  clamp16 (ring.oldest + sum)

/-- One output sample, `fraction`/65536 of the way; higher bits do not count. -/
def apply (filter : Filter) (ring : SampleRing) (fraction : Nat) : Int :=
  let fraction := fraction % 0x10000
  match filter with
  | .none => ring.newest
  | .linear => wrap32 (linearAt ring fraction)
  | .gaussian => wrap32 (gaussianAt ring fraction)
  | .cubic => cubicAt ring fraction

end Filter

end PsxPlayer
