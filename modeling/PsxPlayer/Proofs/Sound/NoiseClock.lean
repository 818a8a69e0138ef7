import Mathlib.Logic.Function.Iterate
import PsxPlayer.Proofs.Sound.Level

namespace PsxPlayer

/-!
# The rate of the noise

A tick divides its counter by the period.  The same comes of a loop that takes off one period after
the other, each with one clock of the register, while the counter holds one.  The next tick goes on
from what is left, so that the clocks of any number of ticks add up to one division.
-/

namespace NoiseSource

/-! ## Clocks -/

theorem shiftTimes_add (first second : Nat) (register : UInt16) :
    shiftTimes (first + second) register = shiftTimes second (shiftTimes first register) := by
  induction first generalizing register with
  | zero => rw [Nat.zero_add, shiftTimes]
  | succ first inductionHypothesis =>
      rw [Nat.succ_add, shiftTimes, shiftTimes, inductionHypothesis]

/-- One period off the counter, and one clock of the register. -/
def takePeriod (noise : NoiseSource) : NoiseSource :=
  { noise with
    register := shiftRegister noise.register
    counter := noise.counter - noise.period }

/-- Periods are taken off the counter until it holds no further one, so many altogether. -/
inductive TakesPeriods : Nat → NoiseSource → NoiseSource → Prop where
  | done {noise : NoiseSource} :
      noise.counter < noise.period → TakesPeriods 0 noise noise
  | take {count : Nat} {noise after : NoiseSource} :
      noise.period ≤ noise.counter →
      TakesPeriods count noise.takePeriod after →
      TakesPeriods (count + 1) noise after

/-- The steps of one sample are added to the counter. -/
def addStep (noise : NoiseSource) : NoiseSource :=
  { noise with counter := noise.counter + (noise.step + 4) }

/-- So many ticks, one period at a time, clock the register so often altogether. -/
inductive Ticks : Nat → Nat → NoiseSource → NoiseSource → Prop where
  | none {noise : NoiseSource} : Ticks 0 0 noise noise
  | tick {count here later : Nat} {noise between after : NoiseSource} :
      TakesPeriods here noise.addStep between →
      Ticks count later between after →
      Ticks (count + 1) (here + later) noise after

/-- The noise source with this counter, once its periods are taken off. -/
def settle (noise : NoiseSource) (counter : Nat) : NoiseSource :=
  { noise with
    register := shiftTimes (counter / noise.period) noise.register
    counter := counter % noise.period }

theorem tick_eq_settle (noise : NoiseSource) :
    noise.tick = noise.settle (noise.counter + (noise.step + 4)) := by
  rw [tick, Nat.add_assoc]
  rfl

theorem settle_of_lt
    {noise : NoiseSource}
    (short : noise.counter < noise.period) :
    noise.settle noise.counter = noise := by
  rw [settle, Nat.div_eq_of_lt short, Nat.mod_eq_of_lt short, shiftTimes]

theorem settle_of_le
    {noise : NoiseSource}
    (positive : 0 < noise.period)
    (enough : noise.period ≤ noise.counter) :
    noise.settle noise.counter = noise.takePeriod.settle noise.takePeriod.counter := by
  rw [settle, Nat.div_eq_sub_div positive enough, shiftTimes, Nat.mod_eq_sub_mod enough]
  rfl

/-- All periods that the counter holds can be taken off. -/
theorem takesPeriods_settle
    {noise : NoiseSource}
    (positive : 0 < noise.period) :
    TakesPeriods (noise.counter / noise.period) noise (noise.settle noise.counter) := by
  rcases Nat.lt_or_ge noise.counter noise.period with short | enough
  · rw [Nat.div_eq_of_lt short, settle_of_lt short]
    exact .done short
  · rw [Nat.div_eq_sub_div positive enough, settle_of_le positive enough]
    exact .take enough (@takesPeriods_settle noise.takePeriod positive)
termination_by noise.counter
decreasing_by exact Nat.sub_lt (Nat.lt_of_lt_of_le positive enough) positive

/-- Taking off one period after the other is a division with rest. -/
theorem takesPeriods_iff
    {noise after : NoiseSource}
    {count : Nat}
    (positive : 0 < noise.period) :
    TakesPeriods count noise after ↔
      count = noise.counter / noise.period ∧ after = noise.settle noise.counter := by
  constructor
  · intro taken
    induction taken with
    | done short => exact ⟨(Nat.div_eq_of_lt short).symm, (settle_of_lt short).symm⟩
    | take enough _ inductionHypothesis =>
        obtain ⟨counted, settled⟩ := inductionHypothesis positive
        rw [Nat.div_eq_sub_div positive enough, settle_of_le positive enough, counted]
        exact ⟨rfl, settled⟩
  · rintro ⟨rfl, rfl⟩
    exact takesPeriods_settle positive

/-- The loop of a tick ends as the tick does. -/
theorem takesPeriods_addStep_iff
    {noise after : NoiseSource}
    {count : Nat}
    (positive : 0 < noise.period) :
    TakesPeriods count noise.addStep after ↔
      count = (noise.counter + (noise.step + 4)) / noise.period ∧ after = noise.tick := by
  rw [tick_eq_settle]
  exact takesPeriods_iff positive

/-- What is left of a counter counts on. -/
theorem add_div_eq_div_add
    {period : Nat}
    (positive : 0 < period)
    (counter more : Nat) :
    (counter + more) / period = counter / period + (counter % period + more) / period := by
  rw [← Nat.mul_add_div positive, ← Nat.add_assoc, Nat.div_add_mod]

/-- Taking periods off in between changes nothing. -/
theorem settle_add
    {noise : NoiseSource}
    (positive : 0 < noise.period)
    (counter more : Nat) :
    (noise.settle counter).settle ((noise.settle counter).counter + more) =
      noise.settle (counter + more) := by
  have rest : (counter % noise.period + more) % noise.period = (counter + more) % noise.period :=
    Nat.mod_add_mod ..
  calc (noise.settle counter).settle ((noise.settle counter).counter + more)
    _ = { noise with
          register :=
            shiftTimes ((counter % noise.period + more) / noise.period)
              (shiftTimes (counter / noise.period) noise.register)
          counter := (counter % noise.period + more) % noise.period } := rfl
    _ = noise.settle (counter + more) := by
        rw [← shiftTimes_add, ← add_div_eq_div_add positive, rest, settle]

/-! ## Ticks -/

/-- What is left after a tick carries over, so that many ticks count like one of all their steps. -/
theorem iterate_tick_succ
    {noise : NoiseSource}
    (positive : 0 < noise.period)
    (count : Nat) :
    tick^[count + 1] noise =
      noise.settle (noise.counter + (count + 1) * (noise.step + 4)) := by
  induction count with
  | zero =>
      rw [Nat.zero_add, Nat.one_mul]
      exact tick_eq_settle noise
  | succ count inductionHypothesis =>
      rw [Function.iterate_succ_apply', inductionHypothesis, tick_eq_settle,
        settle_add positive, Nat.add_assoc]
      congr 2
      exact (Nat.add_one_mul (count + 1) _).symm

theorem ticks_zero_iff
    {noise after : NoiseSource}
    {clocks : Nat} :
    Ticks 0 clocks noise after ↔ clocks = 0 ∧ after = noise := by
  constructor
  · rintro ⟨⟩
    exact ⟨rfl, rfl⟩
  · rintro ⟨rfl, rfl⟩
    exact .none

theorem ticks_succ_iff
    {noise after : NoiseSource}
    (positive : 0 < noise.period)
    {count clocks : Nat} :
    Ticks (count + 1) clocks noise after ↔
      ∃ later,
        clocks = (noise.counter + (noise.step + 4)) / noise.period + later ∧
          Ticks count later noise.tick after := by
  constructor
  · rintro (_ | ⟨taken, rest⟩)
    obtain ⟨rfl, rfl⟩ := (takesPeriods_addStep_iff positive).mp taken
    exact ⟨_, rfl, rest⟩
  · rintro ⟨later, rfl, rest⟩
    exact .tick ((takesPeriods_addStep_iff positive).mpr ⟨rfl, rfl⟩) rest

/-- The clocks of one or more ticks add up to one division of all that they add to the counter. -/
theorem ticks_iff
    {noise after : NoiseSource}
    (positive : 0 < noise.period)
    (count : Nat)
    {clocks : Nat} :
    Ticks (count + 1) clocks noise after ↔
      clocks = (noise.counter + (count + 1) * (noise.step + 4)) / noise.period ∧
        after = tick^[count + 1] noise := by
  induction count generalizing noise clocks with
  | zero =>
      rw [ticks_succ_iff positive, Nat.zero_add, Nat.one_mul]
      constructor
      · rintro ⟨later, rfl, rest⟩
        obtain ⟨rfl, rfl⟩ := ticks_zero_iff.mp rest
        exact ⟨Nat.add_zero _, rfl⟩
      · rintro ⟨rfl, rfl⟩
        exact ⟨0, (Nat.add_zero _).symm, .none⟩
  | succ count inductionHypothesis =>
      have periods :
          (noise.counter + (count + 1 + 1) * (noise.step + 4)) / noise.period =
            (noise.counter + (noise.step + 4)) / noise.period +
              (noise.tick.counter + (count + 1) * (noise.step + 4)) / noise.period := by
        rw [Nat.add_one_mul (count + 1), Nat.add_comm (_ * _), ← Nat.add_assoc,
          add_div_eq_div_add positive, tick_eq_settle]
        rfl
      rw [ticks_succ_iff positive, Function.iterate_succ_apply, periods]
      constructor
      · rintro ⟨later, rfl, rest⟩
        obtain ⟨counted, rfl⟩ := (@inductionHypothesis noise.tick positive _).mp rest
        exact ⟨congrArg _ counted, rfl⟩
      · rintro ⟨rfl, rfl⟩
        exact ⟨_, rfl, (@inductionHypothesis noise.tick positive _).mpr ⟨rfl, rfl⟩⟩

end NoiseSource

end PsxPlayer
