namespace PsxPlayer

/-!
# Envelopes

Every voice has a 31-bit level that rises in the attack phase, falls in the
decay phase, follows a ramp while the note is held and falls again after
release. One table of steps, indexed by rate, serves all phases; exponential
curves move the index with the level. The top bits of the level are what a
listener hears.
-/

/-- The highest level. -/
def envelopeMax : Int := 0x7FFFFFFF

/-- The largest step. -/
def stepMax : Int := 0x3FFFFFFF

/-- Progress in building the step table. -/
structure StepGrowth where
  step : Int
  increment : Int
  /-- Steps taken with this increment; the first round has one more. -/
  taken : Nat

namespace StepGrowth

/-- The next step: four with each increment, which then doubles. -/
def next (growth : StepGrowth) : StepGrowth :=
  if growth.step < stepMax then
    let step := min (growth.step + growth.increment) stepMax
    if growth.taken + 1 = 5 then
      ⟨step, growth.increment * 2, 1⟩
    else
      ⟨step, growth.increment, growth.taken + 1⟩
  else
    ⟨stepMax, growth.increment, growth.taken⟩

/-- The next `count` steps. -/
def steps : Nat → StepGrowth → List Int
  | 0, _ => []
  | count + 1, growth => growth.next.step :: steps count growth.next

end StepGrowth

/-- The step table: 32 zeros, then growing steps. -/
def rateTable : Array Int :=
  (List.replicate 32 0 ++ StepGrowth.steps 128 ⟨3, 1, 0⟩).toArray

/-- The step at an index; indices past the end give the largest step. -/
def rateStep (index : Nat) : Int :=
  rateTable.getD (min index 159) 0

/-- How far an exponential curve moves the index at this level. -/
def curveOffset (level : Int) : Nat :=
  match (level >>> (28 : Nat)) % 8 with
  | 0 => 0
  | 1 => 4
  | 2 => 6
  | 3 => 8
  | 4 => 9
  | 5 => 10
  | 6 => 11
  | _ => 12

/-- The table offset of a 7-bit rate; lower rates are faster. -/
def rateIndex (rate : UInt8) : Nat :=
  ((rate ^^^ 0x7F) &&& 0x7F).toNat

/-- The table offset of a 5-bit rate, which counts in fours. -/
def coarseRateIndex (rate : UInt8) : Nat :=
  4 * ((rate ^^^ 0x1F) &&& 0x1F).toNat

/-- The level above which exponential rises slow down. -/
def slowdownLevel : Int := 0x60000000

/-- The step of a rise. -/
def riseStep (level : Int) (rate : UInt8) (exponential : Bool) : Int :=
  if exponential && level ≥ slowdownLevel then
    rateStep (rateIndex rate + 32 - 0x18)
  else
    rateStep (rateIndex rate + 32 - 0x10)

/-- The step of a fall at a 7-bit rate. -/
def fallStep (level : Int) (rate : UInt8) (exponential : Bool) : Int :=
  if exponential then
    rateStep (rateIndex rate + 32 + curveOffset level - 0x1B)
  else
    rateStep (rateIndex rate + 32 - 0x0F)

/-- One step of a ramp, kept between zero and the highest level. -/
def ramp (level : Int) (rate : UInt8) (exponential decrease : Bool) : Int :=
  let next :=
    if decrease then
      level - fallStep level rate exponential
    else
      level + riseStep level rate exponential
  max 0 (min next envelopeMax)

/-- Phase of an envelope. -/
inductive Phase where
  | off
  | attack
  | decay
  | sustain
  | release
  deriving DecidableEq, Repr

/-- An envelope with its settings. -/
structure Envelope where
  attackExponential : Bool
  attackRate : UInt8
  decayRate : UInt8
  sustainLevel : UInt8
  sustainExponential : Bool
  sustainDecrease : Bool
  sustainRate : UInt8
  releaseExponential : Bool
  releaseRate : UInt8
  phase : Phase
  level : Int
  deriving DecidableEq, Repr

namespace Envelope

/-- Silent, with all settings zero. -/
def initial : Envelope where
  attackExponential := false
  attackRate := 0
  decayRate := 0
  sustainLevel := 0
  sustainExponential := false
  sustainDecrease := false
  sustainRate := 0
  releaseExponential := false
  releaseRate := 0
  phase := .off
  level := 0

/-- Start a note from silence. -/
def keyOn (envelope : Envelope) : Envelope :=
  { envelope with
    phase := .attack
    level := 0 }

/-- Release the note, if one sounds. -/
def keyOff (envelope : Envelope) : Envelope :=
  if envelope.phase = .off then
    envelope
  else
    { envelope with phase := .release }

/-- Fall silent at once. -/
def silence (envelope : Envelope) : Envelope :=
  { envelope with
    phase := .off
    level := 0 }

/-- The audible level, 0 to 1023. -/
def audible (envelope : Envelope) : Int :=
  envelope.level >>> (21 : Nat)

/-- One sample of the attack phase; the highest level ends it. -/
def tickAttack (envelope : Envelope) : Envelope :=
  let next :=
    envelope.level +
      riseStep envelope.level envelope.attackRate envelope.attackExponential
  if next > envelopeMax then
    { envelope with
      phase := .decay
      level := envelopeMax }
  else
    { envelope with level := next }

/-- One sample of the decay phase; the sustain level ends it. -/
def tickDecay (envelope : Envelope) : Envelope :=
  let index := coarseRateIndex envelope.decayRate + 32 + curveOffset envelope.level - 0x18
  let next := max (envelope.level - rateStep index) 0
  if (next >>> (27 : Nat)) % 16 ≤ envelope.sustainLevel.toNat then
    { envelope with
      phase := .sustain
      level := next }
  else
    { envelope with level := next }

/-- One sample of the sustain phase. -/
def tickSustain (envelope : Envelope) : Envelope :=
  { envelope with
    level :=
      ramp envelope.level envelope.sustainRate
        envelope.sustainExponential envelope.sustainDecrease }

/-- The step of the release phase. -/
def releaseStep (envelope : Envelope) : Int :=
  let index := coarseRateIndex envelope.releaseRate + 32
  if envelope.releaseExponential then
    rateStep (index + curveOffset envelope.level - 0x18)
  else
    rateStep (index - 0x0C)

/-- One sample of the release phase; level zero ends the note. -/
def tickRelease (envelope : Envelope) : Envelope :=
  let next := envelope.level - envelope.releaseStep
  if next ≤ 0 then
    envelope.silence
  else
    { envelope with level := next }

/-- Advance by one sample. -/
def tick (envelope : Envelope) : Envelope :=
  match envelope.phase with
  | .off => envelope
  | .attack => envelope.tickAttack
  | .decay => envelope.tickDecay
  | .sustain => envelope.tickSustain
  | .release => envelope.tickRelease

/--
Load the first settings word: attack curve in bit 15, attack rate in bits 14-8,
decay rate in bits 7-4, sustain level in bits 3-0.
-/
def setLowWord (envelope : Envelope) (value : UInt16) : Envelope :=
  { envelope with
    attackExponential := value &&& 0x8000 != 0
    attackRate := ((value >>> 8) &&& 0x7F).toUInt8
    decayRate := ((value >>> 4) &&& 0xF).toUInt8
    sustainLevel := (value &&& 0xF).toUInt8 }

/--
Load the second settings word: sustain curve in bit 15 and direction in bit 14,
sustain rate in bits 12-6, release curve in bit 5, release rate in bits 4-0.
-/
def setHighWord (envelope : Envelope) (value : UInt16) : Envelope :=
  { envelope with
    sustainExponential := value &&& 0x8000 != 0
    sustainDecrease := value &&& 0x4000 != 0
    sustainRate := ((value >>> 6) &&& 0x7F).toUInt8
    releaseExponential := value &&& 0x20 != 0
    releaseRate := (value &&& 0x1F).toUInt8 }

/-- The bit `1 <<< index` when `flag` holds. -/
def flagBit (flag : Bool) (index : UInt16) : UInt16 :=
  if flag then 1 <<< index else 0

/-- The first settings word. -/
def lowWord (envelope : Envelope) : UInt16 :=
  flagBit envelope.attackExponential 15 |||
    ((envelope.attackRate &&& 0x7F).toUInt16 <<< 8) |||
    ((envelope.decayRate &&& 0xF).toUInt16 <<< 4) |||
    (envelope.sustainLevel &&& 0xF).toUInt16

/-- The second settings word. -/
def highWord (envelope : Envelope) : UInt16 :=
  flagBit envelope.sustainExponential 15 |||
    flagBit envelope.sustainDecrease 14 |||
    ((envelope.sustainRate &&& 0x7F).toUInt16 <<< 6) |||
    flagBit envelope.releaseExponential 5 |||
    (envelope.releaseRate &&& 0x1F).toUInt16

end Envelope

end PsxPlayer
