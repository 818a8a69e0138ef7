import PsxPlayer.Proofs.Sound.Level

namespace PsxPlayer

/-!
# The phases of an envelope

An envelope goes through its phases in one direction, whatever is done to its settings
in the meantime.  Its level rises in the attack phase, falls in the decay and the release
phase, and is zero once the envelope is off.  The step of every sample is found in the
table at an index that is not negative.
-/

/-- The phases in which one sample may leave an envelope. -/
def Phase.successors : Phase → List Phase
  | .off => [.off]
  | .attack => [.attack, .decay]
  | .decay => [.decay, .sustain]
  | .sustain => [.sustain]
  | .release => [.release, .off]

/-! ## Indices of the step table -/

/-- The step at an index that is computed as an integer and may turn out negative. -/
def rateStep? (index : Int) : Option Int :=
  if 0 ≤ index then some (rateStep index.toNat) else none

/-- `riseStep` with its index checked. -/
def riseStep? (level : Int) (rate : UInt8) (exponential : Bool) : Option Int :=
  if exponential && level ≥ slowdownLevel then
    rateStep? (rateIndex rate + 32 - 0x18)
  else
    rateStep? (rateIndex rate + 32 - 0x10)

/-- `fallStep` with its index checked. -/
def fallStep? (level : Int) (rate : UInt8) (exponential : Bool) : Option Int :=
  if exponential then
    rateStep? (rateIndex rate + 32 + curveOffset level - 0x1B)
  else
    rateStep? (rateIndex rate + 32 - 0x0F)

/-- A difference of numbers that is not negative is an index of the table. -/
theorem rateStep?_sub
    {index offset : Nat}
    (enough : offset ≤ index) :
    rateStep? ((index : Int) - offset) = some (rateStep (index - offset)) := by
  have difference : (index : Int) - offset = (index - offset : Nat) :=
    (Int.ofNat_sub enough).symm
  rw [difference, rateStep?, if_pos (Int.natCast_nonneg _), Int.toNat_natCast]

theorem riseStep?_eq_some
    (level : Int)
    (rate : UInt8)
    (exponential : Bool) :
    riseStep? level rate exponential = some (riseStep level rate exponential) := by
  have lookUp {offset : Nat} (small : offset ≤ 32) :
      rateStep? (rateIndex rate + 32 - offset) =
        some (rateStep (rateIndex rate + 32 - offset)) :=
    rateStep?_sub (Nat.le_trans small (Nat.le_add_left _ _))
  unfold riseStep? riseStep
  split
  · exact lookUp (by decide)
  · exact lookUp (by decide)

theorem fallStep?_eq_some
    (level : Int)
    (rate : UInt8)
    (exponential : Bool) :
    fallStep? level rate exponential = some (fallStep level rate exponential) := by
  unfold fallStep? fallStep
  split
  · have enough : 0x1B ≤ rateIndex rate + 32 + curveOffset level := by omega
    exact rateStep?_sub enough
  · have enough : 0x0F ≤ rateIndex rate + 32 := by omega
    exact rateStep?_sub enough

namespace Envelope

/-- The step of the decay phase, with its index checked. -/
def decayStep? (envelope : Envelope) : Option Int :=
  rateStep? (coarseRateIndex envelope.decayRate + 32 + curveOffset envelope.level - 0x18)

/-- `releaseStep` with its index checked. -/
def releaseStep? (envelope : Envelope) : Option Int :=
  if envelope.releaseExponential then
    rateStep? (coarseRateIndex envelope.releaseRate + 32 + curveOffset envelope.level - 0x18)
  else
    rateStep? (coarseRateIndex envelope.releaseRate + 32 - 0x0C)

/-- The step of the next sample, with its index checked; a silent envelope takes none. -/
def nextStep? (envelope : Envelope) : Option Int :=
  match envelope.phase with
  | .off => some 0
  | .attack => riseStep? envelope.level envelope.attackRate envelope.attackExponential
  | .decay => envelope.decayStep?
  | .sustain =>
      if envelope.sustainDecrease then
        fallStep? envelope.level envelope.sustainRate envelope.sustainExponential
      else
        riseStep? envelope.level envelope.sustainRate envelope.sustainExponential
  | .release => envelope.releaseStep?

/-- The envelope after a sample with a given step. -/
def moveBy (envelope : Envelope) (step : Int) : Envelope :=
  match envelope.phase with
  | .off => envelope
  | .attack =>
      if envelope.level + step > envelopeMax then
        { envelope with phase := .decay, level := envelopeMax }
      else
        { envelope with level := envelope.level + step }
  | .decay =>
      let next := max (envelope.level - step) 0
      if (next >>> (27 : Nat)) % 16 ≤ envelope.sustainLevel.toNat then
        { envelope with phase := .sustain, level := next }
      else
        { envelope with level := next }
  | .sustain =>
      let next :=
        if envelope.sustainDecrease then envelope.level - step else envelope.level + step
      { envelope with level := max 0 (min next envelopeMax) }
  | .release =>
      if envelope.level - step ≤ 0 then
        envelope.silence
      else
        { envelope with level := envelope.level - step }

/-- `tick` with the index of its step checked. -/
def indexedTick? (envelope : Envelope) : Option Envelope :=
  envelope.nextStep?.map envelope.moveBy

theorem releaseStep?_eq_some (envelope : Envelope) :
    envelope.releaseStep? = some envelope.releaseStep := by
  unfold releaseStep? releaseStep
  split
  · have enough :
        0x18 ≤ coarseRateIndex envelope.releaseRate + 32 + curveOffset envelope.level := by
      omega
    exact rateStep?_sub enough
  · have enough : 0x0C ≤ coarseRateIndex envelope.releaseRate + 32 := by omega
    exact rateStep?_sub enough

/-- No index of the table is negative, whatever the settings are. -/
theorem indexedTick?_eq_some (envelope : Envelope) :
    envelope.indexedTick? = some envelope.tick := by
  cases phase : envelope.phase with
  | off => simp only [indexedTick?, nextStep?, moveBy, tick, phase, Option.map_some]
  | attack =>
      simp only [indexedTick?, nextStep?, tick, phase, riseStep?_eq_some, Option.map_some,
        moveBy, tickAttack]
  | decay =>
      have enough :
          0x18 ≤ coarseRateIndex envelope.decayRate + 32 + curveOffset envelope.level := by
        omega
      have lookedUp : envelope.decayStep? = _ := rateStep?_sub enough
      simp only [indexedTick?, nextStep?, tick, phase, lookedUp, Option.map_some, moveBy,
        tickDecay]
  | sustain =>
      cases falls : envelope.sustainDecrease with
      | true =>
          simp only [indexedTick?, nextStep?, tick, phase, falls, ↓reduceIte,
            fallStep?_eq_some, Option.map_some, moveBy, tickSustain, ramp]
      | false =>
          simp only [indexedTick?, nextStep?, tick, phase, falls, Bool.false_eq_true,
            ↓reduceIte, riseStep?_eq_some, Option.map_some, moveBy, tickSustain, ramp]
  | release =>
      simp only [indexedTick?, nextStep?, tick, phase, releaseStep?_eq_some,
        Option.map_some, moveBy, tickRelease]

/-! ## One sample -/

/-- One sample goes on in the same phase or in the one that follows. -/
theorem phase_tick_mem_successors (envelope : Envelope) :
    envelope.tick.phase ∈ envelope.phase.successors := by
  cases phase : envelope.phase with
  | off => simp [tick, phase, Phase.successors]
  | attack =>
      simp only [tick, phase, tickAttack]
      split <;> simp [Phase.successors]
  | decay =>
      simp only [tick, phase, tickDecay]
      split <;> simp [Phase.successors]
  | sustain => simp [tick, phase, tickSustain, Phase.successors]
  | release =>
      simp only [tick, phase, tickRelease]
      split <;> simp [Phase.successors, silence]

namespace InRange

variable {envelope : Envelope}

/-- The attack phase does not lower the level. -/
theorem level_le_tick
    (inRange : envelope.InRange)
    (attacks : envelope.phase = .attack) :
    envelope.level ≤ envelope.tick.level := by
  have step :=
    riseStep_nonneg envelope.level envelope.attackRate envelope.attackExponential
  simp only [Envelope.tick, attacks, Envelope.tickAttack]
  split
  · exact inRange.le_max
  · exact Int.le_add_of_nonneg_right step

/-- The decay and the release phase do not raise the level. -/
theorem tick_le_level
    (inRange : envelope.InRange)
    (falls : envelope.phase = .decay ∨ envelope.phase = .release) :
    envelope.tick.level ≤ envelope.level := by
  rcases falls with decays | releases
  · have step (index : Nat) : max (envelope.level - rateStep index) 0 ≤ envelope.level :=
      Int.max_le.2 ⟨Int.sub_le_self _ (rateStep_nonneg index), inRange.nonneg⟩
    simp only [Envelope.tick, decays, Envelope.tickDecay]
    split <;> exact step _
  · simp only [Envelope.tick, releases, Envelope.tickRelease]
    split
    · exact inRange.nonneg
    · exact Int.sub_le_self _ envelope.releaseStep_nonneg

end InRange

/-! ## Runs -/

/-- A setting of the envelope with a value for it, in or out of the range of its field. -/
inductive Setting where
  | attackExponential (value : Bool)
  | attackRate (value : UInt8)
  | decayRate (value : UInt8)
  | sustainLevel (value : UInt8)
  | sustainExponential (value : Bool)
  | sustainDecrease (value : Bool)
  | sustainRate (value : UInt8)
  | releaseExponential (value : Bool)
  | releaseRate (value : UInt8)

/-- Give one setting its value. -/
def assign (envelope : Envelope) : Setting → Envelope
  | .attackExponential value => { envelope with attackExponential := value }
  | .attackRate value => { envelope with attackRate := value }
  | .decayRate value => { envelope with decayRate := value }
  | .sustainLevel value => { envelope with sustainLevel := value }
  | .sustainExponential value => { envelope with sustainExponential := value }
  | .sustainDecrease value => { envelope with sustainDecrease := value }
  | .sustainRate value => { envelope with sustainRate := value }
  | .releaseExponential value => { envelope with releaseExponential := value }
  | .releaseRate value => { envelope with releaseRate := value }

/-- What may be done to an envelope. -/
inductive Command where
  | setLowWord (value : UInt16)
  | setHighWord (value : UInt16)
  | assign (setting : Setting)
  | keyOn
  | keyOff
  | silence
  | tick

/-- Carry out a command. -/
def obey (envelope : Envelope) : Command → Envelope
  | .setLowWord value => envelope.setLowWord value
  | .setHighWord value => envelope.setHighWord value
  | .assign setting => envelope.assign setting
  | .keyOn => envelope.keyOn
  | .keyOff => envelope.keyOff
  | .silence => envelope.silence
  | .tick => envelope.tick

/-- Carry out commands one after the other. -/
def obeyAll
    (envelope : Envelope)
    (commands : List Command) :
    Envelope :=
  commands.foldl obey envelope

/-- What holds of an envelope at all times. -/
structure WellFormed (envelope : Envelope) : Prop where
  inRange : envelope.InRange
  silent : envelope.phase = .off → envelope.level = 0

theorem wellFormed_initial : initial.WellFormed :=
  ⟨inRange_initial, fun _ => rfl⟩

namespace WellFormed

variable {envelope : Envelope}

/-- Settings have no part in it. -/
theorem of_same
    {after : Envelope}
    (wellFormed : envelope.WellFormed)
    (samePhase : after.phase = envelope.phase)
    (sameLevel : after.level = envelope.level) :
    after.WellFormed where
  inRange := ⟨sameLevel ▸ wellFormed.inRange.nonneg, sameLevel ▸ wellFormed.inRange.le_max⟩
  silent off := sameLevel.trans (wellFormed.silent (samePhase.symm.trans off))

theorem assign
    (wellFormed : envelope.WellFormed)
    (setting : Setting) :
    (envelope.assign setting).WellFormed := by
  cases setting <;> exact wellFormed.of_same rfl rfl

theorem keyOff (wellFormed : envelope.WellFormed) : envelope.keyOff.WellFormed := by
  refine ⟨wellFormed.inRange.keyOff, fun off => ?_⟩
  unfold Envelope.keyOff at off ⊢
  split at off
  · next silent => simpa only [silent, ↓reduceIte] using wellFormed.silent silent
  · cases off

/-- Only a level of zero ends the release phase. -/
theorem tick (wellFormed : envelope.WellFormed) : envelope.tick.WellFormed := by
  refine ⟨wellFormed.inRange.tick, fun off => ?_⟩
  have follows := envelope.phase_tick_mem_successors
  rw [off] at follows
  cases phase : envelope.phase with
  | off =>
      rw [tick_of_off phase]
      exact wellFormed.silent phase
  | attack | decay | sustain => simp [phase, Phase.successors] at follows
  | release =>
      simp only [Envelope.tick, phase, tickRelease] at off ⊢
      split at off
      · next ended => simp only [ended, ↓reduceIte, Envelope.silence]
      · cases off

theorem obey
    (wellFormed : envelope.WellFormed)
    (command : Command) :
    (envelope.obey command).WellFormed := by
  cases command with
  | setLowWord value => exact wellFormed.of_same rfl rfl
  | setHighWord value => exact wellFormed.of_same rfl rfl
  | assign setting => exact wellFormed.assign setting
  | keyOn => exact ⟨inRange_keyOn envelope, nofun⟩
  | keyOff => exact wellFormed.keyOff
  | silence => exact ⟨inRange_silence envelope, fun _ => rfl⟩
  | tick => exact wellFormed.tick

theorem obeyAll
    (wellFormed : envelope.WellFormed)
    (commands : List Command) :
    (envelope.obeyAll commands).WellFormed := by
  induction commands generalizing envelope with
  | nil => exact wellFormed
  | cons command rest inductionHypothesis =>
      exact inductionHypothesis (wellFormed.obey command)

end WellFormed

/--
Whatever has been done to an envelope since power-on, its level and what is heard of it
are in their ranges, and it is zero when the envelope is off.  The next sample looks its
step up at an index that is not negative, goes on in the same phase or in the one that
follows, and moves the level in the direction of the phase.
-/
theorem obeyAll_followsPhases (commands : List Command) :
    let envelope := initial.obeyAll commands
    (0 ≤ envelope.level ∧ envelope.level ≤ envelopeMax) ∧
      (0 ≤ envelope.audible ∧ envelope.audible ≤ 1023) ∧
      (envelope.phase = .off → envelope.level = 0) ∧
      envelope.indexedTick? = some envelope.tick ∧
      envelope.tick.phase ∈ envelope.phase.successors ∧
      (envelope.phase = .attack → envelope.level ≤ envelope.tick.level) ∧
      (envelope.phase = .decay ∨ envelope.phase = .release →
        envelope.tick.level ≤ envelope.level) := by
  have wellFormed := wellFormed_initial.obeyAll commands
  have inRange := wellFormed.inRange
  exact
    ⟨⟨inRange.nonneg, inRange.le_max⟩, inRange.audible_bounds, wellFormed.silent,
      indexedTick?_eq_some _, phase_tick_mem_successors _, inRange.level_le_tick,
      inRange.tick_le_level⟩

end Envelope

end PsxPlayer
