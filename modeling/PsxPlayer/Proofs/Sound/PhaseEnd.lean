import Mathlib.Logic.Function.Iterate
import PsxPlayer.Proofs.Sound.Level

namespace PsxPlayer

/-!
# Where a phase ends

A phase ends if every sample on the way moves the level.  The table has a step at the
indices from 32 on and none before, so slow rates stand still; and because an exponential
curve moves the index with the level, such a phase may set out and come to rest part of
the way.  Whether it does is told by the lowest index on its way, and so by its rate.
-/

/-! ## Steps of the table -/

/-- The table moves the level from index 32 on. -/
theorem rateStep_pos_iff (index : Nat) : 0 < rateStep index ↔ 32 ≤ index := by
  have inTable : ∀ index, index < 160 → (0 < rateTable.getD index 0 ↔ 32 ≤ index) := by
    decide +kernel
  have found := inTable (min index 159) (by omega)
  unfold rateStep
  omega

/-- Below index 32 the rate is too slow for any step. -/
theorem rateStep_eq_zero {index : Nat} (low : index < 32) : rateStep index = 0 := by
  have noStep := (rateStep_pos_iff index).not.mpr (Nat.not_le.mpr low)
  exact Int.le_antisymm (Int.not_lt.mp noStep) (rateStep_nonneg index)

/-- The first steps of the table are short. -/
theorem rateStep_le_short {index : Nat} (low : index < 44) : rateStep index ≤ 32 := by
  have inTable : ∀ index, index < 44 → rateTable.getD index 0 ≤ 32 := by
    decide +kernel
  unfold rateStep
  exact inTable (min index 159) (by omega)

theorem rateIndex_of_lt {rate : UInt8} (small : rate.toNat < 0x80) :
    rateIndex rate = 0x7F - rate.toNat := by
  have every : ∀ count, count < 0x80 → rateIndex (.ofNat count) = 0x7F - count := by
    decide +kernel
  have found := every rate.toNat small
  rwa [UInt8.ofNat_toNat] at found

theorem coarseRateIndex_of_lt {rate : UInt8} (small : rate.toNat < 0x20) :
    coarseRateIndex rate = 4 * (0x1F - rate.toNat) := by
  have every : ∀ count, count < 0x20 → coarseRateIndex (.ofNat count) = 4 * (0x1F - count) := by
    decide +kernel
  have found := every rate.toNat small
  rwa [UInt8.ofNat_toNat] at found

/-- The exponential curve shifts the index of a rate by 12 at most. -/
theorem curveOffset_le (level : Int) : curveOffset level ≤ 12 := by
  unfold curveOffset
  split <;> decide

/-- The curve has its lowest index at the lowest levels. -/
theorem curveOffset_of_low {level : Int} (nonneg : 0 ≤ level) (low : level < 0x10000000) :
    curveOffset level = 0 := by
  have lowest : (level >>> (28 : Nat)) % 8 = 0 := by
    rw [Int.shiftRight_eq_div_pow]
    omega
  simp only [curveOffset, lowest]

namespace Envelope

/-! ## Reaching a phase -/

/-- The envelope comes to a phase when nothing but samples happens to it. -/
def Reaches (envelope : Envelope) (phase : Phase) : Prop :=
  ∃ count, (tick^[count] envelope).phase = phase

/-- A phase is reached if every sample before lowers what remains. -/
theorem reaches_of_lowers
    (waits : Envelope → Prop)
    (remaining : Envelope → Nat)
    {phase : Phase}
    (lowers :
      ∀ envelope,
        waits envelope →
        envelope.tick.phase = phase ∨
          waits envelope.tick ∧ remaining envelope.tick < remaining envelope)
    {envelope : Envelope}
    (start : waits envelope) :
    envelope.Reaches phase := by
  induction left : remaining envelope using Nat.strongRecOn generalizing envelope with
  | ind left inductionHypothesis =>
      rcases lowers envelope start with ended | ⟨waitsOn, less⟩
      · exact ⟨1, ended⟩
      · obtain ⟨count, reached⟩ := inductionHypothesis _ (by omega) waitsOn rfl
        exact ⟨count + 1, reached⟩

/-- A phase is not reached from where no sample leads out and the phase is another one. -/
theorem not_reaches_of_stays
    (stays : Envelope → Prop)
    {phase : Phase}
    (step : ∀ envelope, stays envelope → stays envelope.tick)
    (apart : ∀ envelope, stays envelope → envelope.phase ≠ phase)
    {envelope : Envelope}
    (start : stays envelope) :
    ¬ envelope.Reaches phase := by
  rintro ⟨count, reached⟩
  induction count generalizing envelope with
  | zero => exact apart envelope start reached
  | succ count inductionHypothesis => exact inductionHypothesis (step envelope start) reached

/-- The envelope with its settings in another phase and at another level. -/
def inPhase (envelope : Envelope) (phase : Phase) (level : Int) : Envelope :=
  { envelope with phase := phase, level := level }

variable (envelope : Envelope) (level : Int)

/-! ## The attack phase -/

/-- The index of a step of the attack phase. -/
def attackIndex : Nat :=
  if envelope.attackExponential ∧ slowdownLevel ≤ level then
    rateIndex envelope.attackRate + 8
  else
    rateIndex envelope.attackRate + 16

theorem riseStep_attack :
    riseStep level envelope.attackRate envelope.attackExponential =
      rateStep (envelope.attackIndex level) := by
  simp only [riseStep, attackIndex, Bool.and_eq_true, decide_eq_true_eq]
  split <;> rfl

/--
One tick of an attack: the level rises by the step of its index, and the phase ends when
it passes the maximum.
-/
theorem tick_attack :
    (envelope.inPhase .attack level).tick =
      if envelopeMax < level + rateStep (envelope.attackIndex level) then
        envelope.inPhase .decay envelopeMax
      else
        envelope.inPhase .attack (level + rateStep (envelope.attackIndex level)) := by
  rw [← riseStep_attack]
  rfl

/-- The index is lowest at the upper end of the level. -/
theorem attackIndex_slowdown_le :
    envelope.attackIndex slowdownLevel ≤ envelope.attackIndex level := by
  unfold attackIndex
  split <;> split <;> simp_all

/-- An attack that stands still at the upper end gets there by short steps at most. -/
theorem add_attackStep_le
    (stands : envelope.attackIndex slowdownLevel < 32)
    (below : level ≤ slowdownLevel + 32) :
    level + rateStep (envelope.attackIndex level) ≤ slowdownLevel + 32 := by
  by_cases slowed : slowdownLevel ≤ level
  · have sameIndex : envelope.attackIndex level = envelope.attackIndex slowdownLevel := by
      simp only [attackIndex, slowed, Int.le_refl]
    rw [sameIndex, rateStep_eq_zero stands, Int.add_zero]
    exact below
  · have short : rateStep (envelope.attackIndex level) ≤ 32 := by
      apply rateStep_le_short
      unfold attackIndex at stands ⊢
      split at stands <;> split <;> omega
    omega

/--
An attack ends exactly when it still moves above the level at which an exponential rise
slows down.
-/
theorem attack_reaches_decay_iff :
    (envelope.inPhase .attack 0).Reaches .decay ↔
      32 ≤ envelope.attackIndex slowdownLevel := by
  constructor
  · intro reaches
    by_contra stands
    refine not_reaches_of_stays
      (fun after =>
        ∃ level, level ≤ slowdownLevel + 32 ∧ after = envelope.inPhase .attack level)
      ?_ ?_ ⟨0, by decide, rfl⟩ reaches
    · rintro _ ⟨level, below, rfl⟩
      have stillBelow := envelope.add_attackStep_le level (Nat.not_le.mp stands) below
      have notEnded : ¬ envelopeMax < level + rateStep (envelope.attackIndex level) :=
        Int.not_lt.mpr (Int.le_trans stillBelow (by decide))
      rw [tick_attack, if_neg notEnded]
      exact ⟨_, stillBelow, rfl⟩
    · rintro _ ⟨level, -, rfl⟩
      exact Phase.noConfusion
  · intro moves
    refine reaches_of_lowers
      (fun after => ∃ level, after = envelope.inPhase .attack level)
      (fun after => (envelopeMax + 1 - after.level).toNat)
      ?_ ⟨0, rfl⟩
    rintro _ ⟨level, rfl⟩
    rw [tick_attack]
    split
    · exact .inl rfl
    · next notEnded =>
        have rises : 0 < rateStep (envelope.attackIndex level) :=
          (rateStep_pos_iff _).mpr (Nat.le_trans moves (envelope.attackIndex_slowdown_le level))
        refine .inr ⟨⟨_, rfl⟩, ?_⟩
        simp only [inPhase]
        omega

/-! ## The decay phase -/

/-- The index of a step of the decay phase. -/
def decayIndex : Nat :=
  coarseRateIndex envelope.decayRate + 32 + curveOffset level - 0x18

/-- The level after a sample of the decay phase. -/
def decayed : Int :=
  max (level - rateStep (envelope.decayIndex level)) 0

/--
One tick of a decay: the level falls, and the phase ends when its top bits reach the
sustain level.
-/
theorem tick_decay :
    (envelope.inPhase .decay level).tick =
      if (envelope.decayed level >>> (27 : Nat)) % 16 ≤ envelope.sustainLevel.toNat then
        envelope.inPhase .sustain (envelope.decayed level)
      else
        envelope.inPhase .decay (envelope.decayed level) :=
  rfl

/-- Silence is below every sustain level. -/
theorem decay_reaches_sustain (small : envelope.decayRate.toNat < 0x10) :
    (envelope.inPhase .decay level).Reaches .sustain := by
  refine reaches_of_lowers
    (fun after => ∃ level, after = envelope.inPhase .decay level)
    (fun after => after.level.toNat)
    ?_ ⟨level, rfl⟩
  rintro _ ⟨level, rfl⟩
  rw [tick_decay]
  split
  · exact .inl rfl
  · next above =>
      have moves : 32 ≤ envelope.decayIndex level := by
        have index := coarseRateIndex_of_lt (Nat.lt_trans small (by decide))
        unfold decayIndex
        omega
      have falls := (rateStep_pos_iff _).mpr moves
      have sounds : envelope.decayed level ≠ 0 := by
        intro silent
        rw [silent] at above
        exact above (Int.natCast_nonneg _)
      refine .inr ⟨⟨_, rfl⟩, ?_⟩
      simp only [inPhase]
      unfold decayed at sounds ⊢
      omega

/-! ## The release phase -/

/-- The index of a step of the release phase. -/
def releaseIndex : Nat :=
  if envelope.releaseExponential then
    coarseRateIndex envelope.releaseRate + 8 + curveOffset level
  else
    coarseRateIndex envelope.releaseRate + 20

theorem releaseStep_inPhase (phase : Phase) :
    (envelope.inPhase phase level).releaseStep = rateStep (envelope.releaseIndex level) := by
  have curved :
      coarseRateIndex envelope.releaseRate + 32 + curveOffset level - 0x18 =
        coarseRateIndex envelope.releaseRate + 8 + curveOffset level := by
    omega
  have straight :
      coarseRateIndex envelope.releaseRate + 32 - 0x0C =
        coarseRateIndex envelope.releaseRate + 20 := by
    omega
  simp only [releaseStep, releaseIndex, inPhase, curved, straight]
  split
  · rfl
  · rfl

/--
One tick of a release: the level falls by the step of its index, and the voice is off at
zero.
-/
theorem tick_release :
    (envelope.inPhase .release level).tick =
      if level - rateStep (envelope.releaseIndex level) ≤ 0 then
        envelope.inPhase .off 0
      else
        envelope.inPhase .release (level - rateStep (envelope.releaseIndex level)) := by
  rw [← releaseStep_inPhase envelope level .release]
  rfl

/-- The index is lowest at the lowest levels. -/
theorem releaseIndex_of_low (nonneg : 0 ≤ level) (low : level < 0x10000000) :
    envelope.releaseIndex level = envelope.releaseIndex 0 := by
  simp only [releaseIndex, curveOffset_of_low nonneg low,
    curveOffset_of_low (Int.le_refl 0) (by decide)]

/-- A release is slowest at level zero. -/
theorem releaseIndex_zero_le : envelope.releaseIndex 0 ≤ envelope.releaseIndex level := by
  have lowest := curveOffset_of_low (Int.le_refl 0) (by decide)
  unfold releaseIndex
  split <;> omega

/-- A release that stands still at the lowest levels does not get to silence. -/
theorem releaseStep_lt (stands : envelope.releaseIndex 0 < 32) (sounds : 0 < level) :
    rateStep (envelope.releaseIndex level) < level := by
  by_cases low : level < 0x10000000
  · rw [envelope.releaseIndex_of_low level (Int.le_of_lt sounds) low, rateStep_eq_zero stands]
    exact sounds
  · have short : rateStep (envelope.releaseIndex level) ≤ 32 := by
      apply rateStep_le_short
      have offset := curveOffset_le level
      unfold releaseIndex at stands ⊢
      split at stands <;> split <;> omega
    omega

/-- A release from zero or below ends at once. -/
theorem tick_release_of_silent (silent : level ≤ 0) :
    (envelope.inPhase .release level).tick = envelope.inPhase .off 0 := by
  have step := rateStep_nonneg (envelope.releaseIndex level)
  rw [tick_release, if_pos (by omega)]

/--
A release ends exactly when it still moves at level zero, or has nothing left to fall.
-/
theorem release_reaches_off_iff :
    (envelope.inPhase .release level).Reaches .off ↔
      level ≤ 0 ∨ 32 ≤ envelope.releaseIndex 0 := by
  constructor
  · intro reaches
    by_contra goesOn
    obtain ⟨sounds, stands⟩ := not_or.mp goesOn
    refine not_reaches_of_stays
      (fun after => ∃ level, 0 < level ∧ after = envelope.inPhase .release level)
      ?_ ?_ ⟨level, Int.not_le.mp sounds, rfl⟩ reaches
    · rintro _ ⟨level, sounds, rfl⟩
      have less := envelope.releaseStep_lt level (Nat.not_le.mp stands) sounds
      rw [tick_release, if_neg (by omega)]
      exact ⟨_, Int.sub_pos_of_lt less, rfl⟩
    · rintro _ ⟨level, -, rfl⟩
      exact Phase.noConfusion
  · rintro (silent | moves)
    · exact ⟨1, congrArg Envelope.phase (envelope.tick_release_of_silent level silent)⟩
    · refine reaches_of_lowers
        (fun after => ∃ level, after = envelope.inPhase .release level)
        (fun after => after.level.toNat)
        ?_ ⟨level, rfl⟩
      rintro _ ⟨level, rfl⟩
      rw [tick_release]
      split
      · exact .inl rfl
      · have falls : 0 < rateStep (envelope.releaseIndex level) :=
          (rateStep_pos_iff _).mpr (Nat.le_trans moves (envelope.releaseIndex_zero_le level))
        refine .inr ⟨⟨_, rfl⟩, ?_⟩
        simp only [inPhase]
        omega

/-! ## Loaded settings -/

/-- The envelope with both settings words loaded. -/
def load (low high : UInt16) : Envelope :=
  (envelope.setLowWord low).setHighWord high

/-- The words hold rates that fit their fields. -/
theorem load_rates (low high : UInt16) :
    (envelope.load low high).attackRate.toNat < 0x80 ∧
      (envelope.load low high).decayRate.toNat < 0x10 ∧
      (envelope.load low high).releaseRate.toNat < 0x20 := by
  have masked (value : UInt16) {mask : UInt16} {bound : Nat} (small : mask.toNat < bound) :
      (value &&& mask).toUInt8.toNat < bound := by
    rw [UInt16.toNat_toUInt8, UInt16.toNat_and]
    exact Nat.lt_of_le_of_lt (Nat.mod_le _ _) (Nat.lt_of_le_of_lt Nat.and_le_right small)
  exact ⟨masked _ (by decide), masked _ (by decide), masked _ (by decide)⟩

/-- The attack rates which end, in the values of the register. -/
theorem attackIndex_slowdown_iff (small : envelope.attackRate.toNat < 0x80) :
    32 ≤ envelope.attackIndex slowdownLevel ↔
      envelope.attackRate ≤ if envelope.attackExponential then 0x67 else 0x6F := by
  have index := rateIndex_of_lt small
  simp only [attackIndex, Int.le_refl, and_true, UInt8.le_iff_toNat_le]
  split <;> simp only [UInt8.reduceToNat] <;> omega

/-- The release rates which end, in the values of the register. -/
theorem releaseIndex_zero_iff (small : envelope.releaseRate.toNat < 0x20) :
    32 ≤ envelope.releaseIndex 0 ↔
      envelope.releaseRate ≤ if envelope.releaseExponential then 25 else 28 := by
  have index := coarseRateIndex_of_lt small
  have lowest := curveOffset_of_low (Int.le_refl 0) (by decide)
  simp only [releaseIndex, lowest, UInt8.le_iff_toNat_le]
  split <;> simp only [UInt8.reduceToNat] <;> omega

/--
With settings that have been loaded from words and stay as they are, a started attack
comes to its end if and only if its rate is one of the faster ones of its curve; the decay
phase always does; and a release does from every level above zero if and only if its rate
is one of the faster ones.  A release from zero ends at once.
-/
theorem phases_end_iff (low high : UInt16) :
    let loaded := envelope.load low high
    (loaded.keyOn.Reaches .decay ↔
        loaded.attackRate ≤ if loaded.attackExponential then 0x67 else 0x6F) ∧
      (loaded.inPhase .decay level).Reaches .sustain ∧
      ((loaded.inPhase .release level).Reaches .off ↔
        level ≤ 0 ∨ loaded.releaseRate ≤ if loaded.releaseExponential then 25 else 28) ∧
      (loaded.inPhase .release 0).tick.phase = .off := by
  obtain ⟨attackRate, decayRate, releaseRate⟩ := envelope.load_rates low high
  intro loaded
  refine ⟨?_, loaded.decay_reaches_sustain level decayRate, ?_, ?_⟩
  · exact loaded.attack_reaches_decay_iff.trans (loaded.attackIndex_slowdown_iff attackRate)
  · rw [loaded.release_reaches_off_iff level, loaded.releaseIndex_zero_iff releaseRate]
  · rw [loaded.tick_release_of_silent 0 (Int.le_refl 0)]
    rfl

end Envelope

end PsxPlayer
