import Mathlib.Logic.Function.Iterate
import PsxPlayer.Proofs.Sound.Level

namespace PsxPlayer

/-!
# Sweeps

The level of a volume and the state of its sweep are one thing on two scales.  A sweep starts with
the state of the level in effect, and while it lasts the level is the state without its low bits.
So the level goes the way of the ramp, in steps that may be too small to show.
-/

/-! ## Ramps -/

/-- A fall never raises the level. -/
theorem fallStep_nonneg
    (level : Int)
    (rate : UInt8)
    (exponential : Bool) :
    0 ≤ fallStep level rate exponential := by
  unfold fallStep
  split <;> exact rateStep_nonneg _

/-- A rising ramp does not fall, below the maximum. -/
theorem le_ramp
    {level : Int}
    (le_max : level ≤ envelopeMax)
    (rate : UInt8)
    (exponential : Bool) :
    level ≤ ramp level rate exponential false := by
  have step := riseStep_nonneg level rate exponential
  simp only [ramp, Bool.false_eq_true, ↓reduceIte]
  omega

/-- A falling ramp does not rise, above zero. -/
theorem ramp_le
    {level : Int}
    (nonneg : 0 ≤ level)
    (rate : UInt8)
    (exponential : Bool) :
    ramp level rate exponential true ≤ level := by
  have step := fallStep_nonneg level rate exponential
  simp only [ramp, ↓reduceIte]
  omega

namespace Volume

/-! ## The level of a state -/

/-- The level that a state of the sweep stands for. -/
def levelOf (sweep : Int) : Int :=
  sweep >>> (17 : Nat)

theorem levelOf_mono
    {lower higher : Int}
    (ordered : lower ≤ higher) :
    levelOf lower ≤ levelOf higher := by
  unfold levelOf
  rw [Int.shiftRight_eq_div_pow, Int.shiftRight_eq_div_pow]
  exact Int.ediv_le_ediv (by decide) ordered

/-- A level is that of the state which a sweep starts with. -/
theorem levelOf_start (level : Int) : levelOf (level * 0x20000) = level := by
  unfold levelOf
  rw [Int.shiftRight_eq_div_pow]
  exact Int.mul_ediv_cancel _ (by decide)

/-- The highest state stands for the highest level, so that no level has to be cut off. -/
theorem limit_levelOf
    {sweep : Int}
    (nonneg : 0 ≤ sweep)
    (le_max : sweep ≤ envelopeMax) :
    max 0 (min (levelOf sweep) volumeMax) = levelOf sweep := by
  have lowest : levelOf 0 ≤ levelOf sweep := levelOf_mono nonneg
  have highest : levelOf sweep ≤ levelOf envelopeMax := levelOf_mono le_max
  rw [show levelOf 0 = 0 by decide] at lowest
  rw [show levelOf envelopeMax = volumeMax by decide] at highest
  rw [Int.min_eq_left highest, Int.max_eq_right lowest]

/-! ## Single commands -/

theorem raw_set (volume : Volume) (value : UInt16) : (volume.set value).raw = value := by
  unfold set
  split <;> rfl

/-- A tick keeps the register of the volume. -/
theorem raw_tick (volume : Volume) : volume.tick.raw = volume.raw := by
  unfold tick
  split <;> rfl

/-- A sweep starts from the level in effect. -/
theorem level_set_of_describesSweep
    (volume : Volume)
    {value : UInt16}
    (sweeps : describesSweep value) :
    (volume.set value).level = volume.level := by
  rw [set, if_pos sweeps]

/-- What a sample does to a sweep, in terms of its state alone. -/
theorem tick_of_isSweep
    {volume : Volume}
    (sweeps : volume.isSweep) :
    volume.tick.sweep =
        ramp volume.sweep (volume.raw &&& 0x7F).toUInt8 (volume.raw &&& 0x4000 != 0)
          (volume.raw &&& 0x2000 != 0) ∧
      volume.tick.level = levelOf volume.tick.sweep := by
  obtain ⟨nonneg, le_max⟩ :=
    ramp_bounds volume.sweep (volume.raw &&& 0x7F).toUInt8
      (volume.raw &&& 0x4000 != 0) (volume.raw &&& 0x2000 != 0)
  simp only [tick, if_pos sweeps, true_and]
  exact limit_levelOf nonneg le_max

/-- What holds of a volume at all times. -/
structure WellFormed (volume : Volume) : Prop where
  inRange : volume.InRange
  /-- The level of a sweep is that of its state. -/
  coupled : volume.isSweep → volume.level = levelOf volume.sweep

theorem wellFormed_initial : initial.WellFormed :=
  ⟨inRange_initial, nofun⟩

namespace WellFormed

variable {volume : Volume}

/-- A write to the register leaves the volume well formed. -/
theorem set
    (wellFormed : volume.WellFormed)
    (value : UInt16) :
    (volume.set value).WellFormed := by
  refine ⟨wellFormed.inRange.set value, fun sweeps => ?_⟩
  rw [isSweep, raw_set] at sweeps
  simp only [Volume.set, if_pos sweeps]
  exact (levelOf_start _).symm

/-- A tick leaves the volume well formed. -/
theorem tick (wellFormed : volume.WellFormed) : volume.tick.WellFormed := by
  refine ⟨wellFormed.inRange.tick, fun sweeps => ?_⟩
  rw [isSweep, raw_tick] at sweeps
  exact (tick_of_isSweep sweeps).2

/-- A sample does not lower the level unless the register says so. -/
theorem level_le_tick
    (wellFormed : volume.WellFormed)
    (rises : volume.raw &&& 0x2000 = 0) :
    volume.level ≤ volume.tick.level := by
  by_cases sweeps : volume.isSweep = true
  · obtain ⟨ramped, levelled⟩ := tick_of_isSweep sweeps
    rw [rises, bne_self_eq_false] at ramped
    rw [wellFormed.coupled sweeps, levelled, ramped]
    exact levelOf_mono (le_ramp wellFormed.inRange.sweep_le_max _ _)
  · have same : volume.tick = volume := if_neg sweeps
    exact Int.le_of_eq (congrArg level same).symm

/-- A tick of a falling sweep does not raise the volume. -/
theorem tick_level_le
    (wellFormed : volume.WellFormed)
    (falls : volume.raw &&& 0x2000 ≠ 0) :
    volume.tick.level ≤ volume.level := by
  by_cases sweeps : volume.isSweep = true
  · obtain ⟨ramped, levelled⟩ := tick_of_isSweep sweeps
    rw [bne_iff_ne.mpr falls] at ramped
    rw [wellFormed.coupled sweeps, levelled, ramped]
    exact levelOf_mono (ramp_le wellFormed.inRange.sweepNonneg _ _)
  · have same : volume.tick = volume := if_neg sweeps
    exact Int.le_of_eq (congrArg level same)

end WellFormed

/-! ## Runs -/

/-- What may be done to a volume. -/
inductive Command where
  | set (value : UInt16)
  | tick

/-- Carry out a command. -/
def obey (volume : Volume) : Command → Volume
  | .set value => volume.set value
  | .tick => volume.tick

/-- Carry out commands one after the other. -/
def obeyAll
    (volume : Volume)
    (commands : List Command) :
    Volume :=
  commands.foldl obey volume

namespace WellFormed

variable {volume : Volume}

/-- Any commands leave the volume well formed. -/
theorem obeyAll
    (wellFormed : volume.WellFormed)
    (commands : List Command) :
    (volume.obeyAll commands).WellFormed := by
  induction commands generalizing volume with
  | nil => exact wellFormed
  | cons command rest inductionHypothesis =>
      cases command with
      | set value => exact inductionHypothesis (wellFormed.set value)
      | tick => exact inductionHypothesis wellFormed.tick

/-- Samples leave the register as it is. -/
theorem iterate_tick
    (wellFormed : volume.WellFormed)
    (count : Nat) :
    (Volume.tick^[count] volume).WellFormed ∧
      (Volume.tick^[count] volume).raw = volume.raw := by
  induction count with
  | zero => exact ⟨wellFormed, rfl⟩
  | succ count inductionHypothesis =>
      obtain ⟨stillWellFormed, sameRaw⟩ := inductionHypothesis
      rw [Function.iterate_succ_apply']
      exact ⟨stillWellFormed.tick, (raw_tick _).trans sameRaw⟩

/-- A rising sweep never falls between two of its ticks. -/
theorem level_iterate_mono
    (wellFormed : volume.WellFormed)
    (rises : volume.raw &&& 0x2000 = 0)
    {fewer more : Nat}
    (ordered : fewer ≤ more) :
    (Volume.tick^[fewer] volume).level ≤ (Volume.tick^[more] volume).level := by
  induction ordered with
  | refl => exact Int.le_refl _
  | @step more _ inductionHypothesis =>
      obtain ⟨stillWellFormed, sameRaw⟩ := wellFormed.iterate_tick more
      rw [Function.iterate_succ_apply']
      exact Int.le_trans inductionHypothesis (stillWellFormed.level_le_tick (sameRaw ▸ rises))

/-- A falling sweep never rises between two of its ticks. -/
theorem level_iterate_anti
    (wellFormed : volume.WellFormed)
    (falls : volume.raw &&& 0x2000 ≠ 0)
    {fewer more : Nat}
    (ordered : fewer ≤ more) :
    (Volume.tick^[more] volume).level ≤ (Volume.tick^[fewer] volume).level := by
  induction ordered with
  | refl => exact Int.le_refl _
  | @step more _ inductionHypothesis =>
      obtain ⟨stillWellFormed, sameRaw⟩ := wellFormed.iterate_tick more
      rw [Function.iterate_succ_apply']
      exact Int.le_trans (stillWellFormed.tick_level_le (sameRaw ▸ falls)) inductionHypothesis

end WellFormed

/--
Whatever has been written to a volume since power-on, its level and the state of its sweep are in
their ranges, and during a sweep the level is the state without its low 17 bits.  A sweep that is
written now starts from the level in effect, and until the register is written again the level
only goes up, or only down if the sweep is a decreasing one.
-/
theorem obeyAll_sweepsOneWay (commands : List Command) :
    let volume := initial.obeyAll commands
    (0 ≤ volume.level ∧ volume.level ≤ volumeMax) ∧
      (0 ≤ volume.sweep ∧ volume.sweep ≤ envelopeMax) ∧
      (volume.isSweep → volume.level = volume.sweep >>> (17 : Nat)) ∧
      ∀ value,
        describesSweep value →
        let after (ticks : Nat) := tick^[ticks] (volume.set value)
        (after 0).level = volume.level ∧
          ∀ fewer more,
            fewer ≤ more →
            (value &&& 0x2000 = 0 → (after fewer).level ≤ (after more).level) ∧
              (value &&& 0x2000 ≠ 0 → (after more).level ≤ (after fewer).level) := by
  intro volume
  have wellFormed : volume.WellFormed := wellFormed_initial.obeyAll commands
  have inRange := wellFormed.inRange
  refine
    ⟨⟨inRange.nonneg, inRange.le_max⟩, ⟨inRange.sweepNonneg, inRange.sweep_le_max⟩,
      wellFormed.coupled, fun value sweeps => ?_⟩
  have started := wellFormed.set value
  have written := volume.raw_set value
  refine ⟨volume.level_set_of_describesSweep sweeps, fun fewer more ordered => ⟨?_, ?_⟩⟩
  · intro rises
    exact started.level_iterate_mono (written.symm ▸ rises) ordered
  · intro falls
    exact started.level_iterate_anti (written.symm ▸ falls) ordered

/-- A rising and a falling sweep that are written during a sweep. -/
theorem obeyAll_sweepsOneWay_duringSweep :
    let volume := initial.obeyAll [.set 0x1FFF, .set 0xE000, .tick]
    (volume.isSweep ∧ volume.level = volume.sweep >>> (17 : Nat)) ∧
      (describesSweep 0xC000 ∧
        (0xC000 : UInt16) &&& 0x2000 = 0 ∧
        1 ≤ 3 ∧
        (tick^[1] (volume.set 0xC000)).level ≤ (tick^[3] (volume.set 0xC000)).level) ∧
      (describesSweep 0xA000 ∧
        (0xA000 : UInt16) &&& 0x2000 ≠ 0 ∧
        1 ≤ 3 ∧
        (tick^[3] (volume.set 0xA000)).level ≤ (tick^[1] (volume.set 0xA000)).level) := by
  intro volume
  have sweeps : volume.isSweep := by decide +kernel
  obtain ⟨-, -, coupled, oneWay⟩ := obeyAll_sweepsOneWay [.set 0x1FFF, .set 0xE000, .tick]
  have rising := (oneWay 0xC000 (by decide)).2 1 3 (by decide)
  have falling := (oneWay 0xA000 (by decide)).2 1 3 (by decide)
  exact
    ⟨⟨sweeps, coupled sweeps⟩,
      ⟨by decide, by decide, by decide, rising.1 (by decide)⟩,
      ⟨by decide, by decide, by decide, falling.2 (by decide)⟩⟩

end Volume

end PsxPlayer
