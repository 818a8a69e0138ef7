import PsxPlayer.Proofs.Sound.Sample
import PsxPlayer.Sound.Noise
import PsxPlayer.Sound.Volume

namespace PsxPlayer

/-!
# The range of levels

Steps of the rate table are never negative, so an envelope stays between silence
and its highest level whatever its settings are, and so does the sweep of a
volume.  The noise source counts below its longest period.
-/

/-- A rate never steps back. -/
theorem rateStep_nonneg (index : Nat) : 0 ≤ rateStep index := by
  have inTable : ∀ index, index < 160 → 0 ≤ rateTable.getD index 0 := by
    decide +kernel
  unfold rateStep
  exact inTable (min index 159) (by omega)

/-- A rise never steps down. -/
theorem riseStep_nonneg
    (level : Int)
    (rate : UInt8)
    (exponential : Bool) :
    0 ≤ riseStep level rate exponential := by
  unfold riseStep
  split <;> exact rateStep_nonneg _

/-- A ramp stays between silence and the largest level. -/
theorem ramp_bounds
    (level : Int)
    (rate : UInt8)
    (exponential decrease : Bool) :
    0 ≤ ramp level rate exponential decrease ∧
      ramp level rate exponential decrease ≤ envelopeMax := by
  unfold ramp
  dsimp only
  unfold envelopeMax
  omega

namespace Envelope

/-- A release never steps up. -/
theorem releaseStep_nonneg (envelope : Envelope) : 0 ≤ envelope.releaseStep := by
  unfold releaseStep
  dsimp only
  split <;> exact rateStep_nonneg _

/-- The level lies between silence and the highest level. -/
structure InRange (envelope : Envelope) : Prop where
  nonneg : 0 ≤ envelope.level
  le_max : envelope.level ≤ envelopeMax

/-- An envelope starts in range. -/
theorem inRange_initial : initial.InRange :=
  ⟨by decide, by decide⟩

theorem inRange_silence (envelope : Envelope) : envelope.silence.InRange :=
  ⟨Int.le_refl 0, show (0 : Int) ≤ envelopeMax by decide⟩

/-- A note starts in range. -/
theorem inRange_keyOn (envelope : Envelope) : envelope.keyOn.InRange :=
  ⟨Int.le_refl 0, show (0 : Int) ≤ envelopeMax by decide⟩

namespace InRange

/-- Releasing a note keeps the level in range. -/
theorem keyOff
    {envelope : Envelope}
    (inRange : envelope.InRange) :
    envelope.keyOff.InRange := by
  unfold Envelope.keyOff
  split
  · exact inRange
  · exact ⟨inRange.nonneg, inRange.le_max⟩

/-- The attack ends at the highest level. -/
theorem tickAttack
    {envelope : Envelope}
    (inRange : envelope.InRange) :
    envelope.tickAttack.InRange := by
  have step :=
    riseStep_nonneg envelope.level envelope.attackRate envelope.attackExponential
  have nonneg := inRange.nonneg
  unfold Envelope.tickAttack
  dsimp only
  split
  · exact ⟨show (0 : Int) ≤ envelopeMax by decide, Int.le_refl _⟩
  · next notAbove => exact ⟨by dsimp only; omega, Int.not_lt.mp notAbove⟩

/-- The decay keeps the level in range. -/
theorem tickDecay
    {envelope : Envelope}
    (inRange : envelope.InRange) :
    envelope.tickDecay.InRange := by
  have nonneg := inRange.nonneg
  have le_max := inRange.le_max
  have falls (index : Nat) :
      0 ≤ max (envelope.level - rateStep index) 0 ∧
        max (envelope.level - rateStep index) 0 ≤ envelopeMax := by
    have step := rateStep_nonneg index
    omega
  unfold Envelope.tickDecay
  dsimp only
  split <;> exact ⟨(falls _).1, (falls _).2⟩

/-- The release ends in silence. -/
theorem tickRelease
    {envelope : Envelope}
    (inRange : envelope.InRange) :
    envelope.tickRelease.InRange := by
  have step := envelope.releaseStep_nonneg
  have le_max := inRange.le_max
  unfold Envelope.tickRelease
  dsimp only
  split
  · exact inRange_silence envelope
  · exact ⟨by dsimp only; omega, by dsimp only; omega⟩

/-- A tick of an envelope keeps its level in range. -/
theorem tick
    {envelope : Envelope}
    (inRange : envelope.InRange) :
    envelope.tick.InRange := by
  unfold Envelope.tick
  cases envelope.phase with
  | off => exact inRange
  | attack => exact inRange.tickAttack
  | decay => exact inRange.tickDecay
  | sustain =>
      have bounds :=
        ramp_bounds envelope.level envelope.sustainRate
          envelope.sustainExponential envelope.sustainDecrease
      exact ⟨bounds.1, bounds.2⟩
  | release => exact inRange.tickRelease

/-- The audible level is a share of 1023. -/
theorem audible_bounds
    {envelope : Envelope}
    (inRange : envelope.InRange) :
    0 ≤ envelope.audible ∧ envelope.audible ≤ 1023 := by
  have nonneg := inRange.nonneg
  have le_max := inRange.le_max
  unfold envelopeMax at le_max
  unfold audible
  rw [Int.shiftRight_eq_div_pow]
  omega

end InRange

/-- A silent envelope does not come back by itself. -/
theorem tick_of_off
    {envelope : Envelope}
    (off : envelope.phase = .off) :
    envelope.tick = envelope := by
  unfold tick
  rw [off]

end Envelope

namespace Volume

/-- The level and the state of the sweep lie within their scales. -/
structure InRange (volume : Volume) : Prop where
  nonneg : 0 ≤ volume.level
  le_max : volume.level ≤ volumeMax
  sweepNonneg : 0 ≤ volume.sweep
  sweep_le_max : volume.sweep ≤ envelopeMax

/-- A volume starts in range. -/
theorem inRange_initial : initial.InRange :=
  ⟨by decide, by decide, by decide, by decide⟩

/-- A fixed volume lies between silence and the largest one. -/
theorem fixedLevel_bounds (value : UInt16) :
    0 ≤ fixedLevel value ∧ fixedLevel value ≤ volumeMax := by
  have low : (value &&& 0x3FFF).toNat ≤ 0x3FFF := by
    rw [UInt16.toNat_and]
    exact Nat.and_le_right
  unfold fixedLevel volumeMax
  dsimp only
  split <;> omega

namespace InRange

/-- Both a fixed level and a sweep from the level in effect are within their scales. -/
theorem set
    {volume : Volume}
    (inRange : volume.InRange)
    (value : UInt16) :
    (volume.set value).InRange := by
  obtain ⟨nonneg, le_max, sweepNonneg, sweep_le_max⟩ := inRange
  unfold Volume.set
  split
  · refine ⟨nonneg, le_max, ?_, ?_⟩
    · dsimp only
      omega
    · dsimp only
      unfold volumeMax at le_max
      unfold envelopeMax
      omega
  · obtain ⟨fixedNonneg, fixed_le_max⟩ := fixedLevel_bounds value
    exact ⟨fixedNonneg, fixed_le_max, sweepNonneg, sweep_le_max⟩

/-- A tick of a volume keeps its level in range. -/
theorem tick
    {volume : Volume}
    (inRange : volume.InRange) :
    volume.tick.InRange := by
  unfold Volume.tick
  split
  · obtain ⟨sweepNonneg, sweep_le_max⟩ :=
      ramp_bounds volume.sweep (volume.raw &&& 0x7F).toUInt8
        (volume.raw &&& 0x4000 != 0) (volume.raw &&& 0x2000 != 0)
    refine ⟨?_, ?_, sweepNonneg, sweep_le_max⟩
    · dsimp only
      omega
    · dsimp only
      unfold volumeMax
      omega
  · exact inRange

/-- A volume makes a sample of a sample. -/
theorem isSample_apply
    {volume : Volume}
    {sample : Int}
    (inRange : volume.InRange)
    (isSample : IsSample sample) :
    IsSample (volume.apply sample) := by
  refine isSample.share inRange.nonneg ?_ (by decide)
  exact Int.le_trans inRange.le_max (by decide)

end InRange

end Volume

namespace NoiseSource

/-- The settings fit their fields, and the counter is below the longest period. -/
structure InRange (noise : NoiseSource) : Prop where
  shift_lt : noise.shift < 16
  step_lt : noise.step < 4
  counter_lt : noise.counter < 0x20000

/-- The noise starts in range. -/
theorem inRange_initial : initial.InRange :=
  ⟨by decide, by decide, by decide⟩

/-- The noise is a sample. -/
theorem isSample_output (noise : NoiseSource) : IsSample noise.output := by
  unfold output
  split <;> decide

namespace InRange

/-- Any clock may be set for the noise. -/
theorem setFrequency
    {noise : NoiseSource}
    (inRange : noise.InRange)
    (shift step : Nat) :
    (noise.setFrequency shift step).InRange :=
  ⟨Nat.mod_lt _ (by decide), Nat.mod_lt _ (by decide), inRange.counter_lt⟩

/-- Every period is between four and the longest one. -/
theorem period_bounds
    {noise : NoiseSource}
    (inRange : noise.InRange) :
    4 ≤ noise.period ∧ noise.period ≤ 0x20000 := by
  have every : ∀ shift, shift < 16 → 4 ≤ 0x20000 >>> shift ∧ 0x20000 >>> shift ≤ 0x20000 := by
    decide
  exact every _ inRange.shift_lt

/-- A tick of the noise keeps its counter in range. -/
theorem tick
    {noise : NoiseSource}
    (inRange : noise.InRange) :
    noise.tick.InRange := by
  obtain ⟨low, high⟩ := inRange.period_bounds
  refine ⟨inRange.shift_lt, inRange.step_lt, ?_⟩
  exact Nat.lt_of_lt_of_le (Nat.mod_lt _ (by omega)) high

end InRange

end NoiseSource

end PsxPlayer
