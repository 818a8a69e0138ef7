import PsxPlayer.Proofs.Sound.NoiseClock

namespace PsxPlayer

/-!
# The levels of the noise

The bits that leave the register obey a recurrence of length 16.  The register with all bits set is
the only one that a clock leaves as it is, and no other register becomes it.  So neither level lasts
for 17 clocks.  A fast clock hears only some of these bits, but if all that it hears were the same,
the recurrence would make those between them the same as well.
-/

namespace NoiseSource

/-! ## The bits of the register -/

/-- The bit at this place of the register, counted from the lowest. -/
def bit (register : UInt16) (place : Nat) : Bool :=
  register.toBitVec.getLsbD place

/-- Registers with the same bits are equal. -/
theorem eq_of_bit_eq
    {first second : UInt16}
    (same : ∀ place, place < 16 → bit first place = bit second place) :
    first = second := by
  apply UInt16.eq_of_toBitVec_eq
  apply BitVec.eq_of_getLsbD_eq
  exact same

theorem bit_allOnes : ∀ place, place < 16 → bit 0xFFFF place = true := by
  decide

/-- A clock moves each bit up by one place. -/
theorem bit_shiftRegister_succ
    (register : UInt16)
    {place : Nat}
    (below : place < 15) :
    bit (shiftRegister register) (place + 1) = bit register place := by
  have inside : place + 1 < 16 := by omega
  have shifted : (register <<< 1).toBitVec = register.toBitVec <<< (1 : Nat) := rfl
  have cleared : (UInt16.toBitVec 1).getLsbD (place + 1) = false := by
    rw [UInt16.toBitVec_one, BitVec.getLsbD_one]
    simp
  rw [bit, shiftRegister, UInt16.toBitVec_or, BitVec.getLsbD_or, UInt16.toBitVec_and,
    BitVec.getLsbD_and, cleared, Bool.and_false, Bool.or_false, shifted,
    BitVec.getLsbD_shiftLeft]
  simp [inside, bit]

/-- The bit that a clock moves in. -/
theorem bit_shiftRegister_zero (register : UInt16) :
    bit (shiftRegister register) 0 =
      !(bit register 15 ^^ bit register 12 ^^ bit register 11 ^^ bit register 10) := by
  simp [bit, shiftRegister]

/-- The top bit of the register decides between the two levels. -/
theorem output_eq (noise : NoiseSource) :
    noise.output = if bit noise.register 15 then 0x7FFF else -0x8000 := by
  have masked :
      noise.register.toBitVec &&& BitVec.twoPow 16 15 =
        if bit noise.register 15 then BitVec.twoPow 16 15 else 0#16 :=
    BitVec.and_twoPow ..
  unfold output
  cases top : bit noise.register 15 with
  | false =>
      rw [top, if_neg Bool.false_ne_true] at masked
      have low : noise.register &&& 0x8000 = 0 := UInt16.eq_of_toBitVec_eq masked
      rw [low]
      rfl
  | true =>
      rw [top, if_pos rfl] at masked
      have high : noise.register &&& 0x8000 = 0x8000 := UInt16.eq_of_toBitVec_eq masked
      rw [high]
      rfl

/-! ## The register never locks up -/

/-- The bit that a clock loses is fed back, so that different registers stay different. -/
theorem shiftRegister_injective : Function.Injective shiftRegister := by
  intro first second same
  have lower (place : Nat) (below : place < 15) : bit first place = bit second place := by
    rw [← bit_shiftRegister_succ first below, ← bit_shiftRegister_succ second below, same]
  have fedBack : bit (shiftRegister first) 0 = bit (shiftRegister second) 0 := by rw [same]
  rw [bit_shiftRegister_zero, bit_shiftRegister_zero, lower 12 (by decide), lower 11 (by decide),
    lower 10 (by decide), Bool.not_inj_iff, Bool.xor_left_inj, Bool.xor_left_inj,
    Bool.xor_left_inj] at fedBack
  apply eq_of_bit_eq
  intro place below
  rcases Nat.lt_succ_iff_lt_or_eq.mp below with inside | rfl
  · exact lower place inside
  · exact fedBack

/-- Only the register with all bits set is left as it is. -/
theorem shiftRegister_eq_self_iff {register : UInt16} :
    shiftRegister register = register ↔ register = 0xFFFF := by
  constructor
  · intro fixed
    have same (place : Nat) (below : place < 16) : bit register place = bit register 0 := by
      induction place with
      | zero => rfl
      | succ place inductionHypothesis =>
          have moved := bit_shiftRegister_succ register (Nat.lt_of_succ_lt_succ below)
          rw [fixed] at moved
          rw [moved, inductionHypothesis (Nat.lt_of_succ_lt below)]
    have fedBack := bit_shiftRegister_zero register
    rw [fixed, same 15 (by decide), same 12 (by decide), same 11 (by decide),
      same 10 (by decide)] at fedBack
    have lowest : bit register 0 = true := by simpa using fedBack
    apply eq_of_bit_eq
    intro place below
    rw [same place below, lowest, bit_allOnes place below]
  · rintro rfl
    decide

/-- However often it is shifted, a register that is not locked does not lock. -/
theorem shiftTimes_ne_allOnes
    {register : UInt16}
    (unlocked : register ≠ 0xFFFF)
    (count : Nat) :
    shiftTimes count register ≠ 0xFFFF := by
  induction count generalizing register with
  | zero => exact unlocked
  | succ count inductionHypothesis =>
      apply inductionHypothesis
      intro locked
      have fixed : shiftRegister 0xFFFF = 0xFFFF := shiftRegister_eq_self_iff.mpr rfl
      exact unlocked (shiftRegister_injective (locked.trans fixed.symm))

/-! ## The bits that leave the register -/

/-- The top bit after so many clocks. -/
def stream (register : UInt16) (count : Nat) : Bool :=
  bit (shiftTimes count register) 15

/-- Further on, the stream is that of the register shifted so far. -/
theorem stream_add (register : UInt16) (first second : Nat) :
    stream register (first + second) = stream (shiftTimes first register) second := by
  rw [stream, shiftTimes_add, stream]

/-- A shift moves each bit up by one. -/
theorem bit_shiftTimes
    (register : UInt16)
    {count place : Nat}
    (inside : place + count < 16) :
    bit (shiftTimes count register) (place + count) = bit register place := by
  induction count generalizing register place with
  | zero => rfl
  | succ count inductionHypothesis =>
      rw [shiftTimes, ← Nat.succ_add_eq_add_succ, inductionHypothesis _ (by omega),
        bit_shiftRegister_succ register (by omega)]

/-- The bits of the register leave it from the top. -/
theorem stream_of_lt
    (register : UInt16)
    {count : Nat}
    (below : count < 16) :
    stream register count = bit register (15 - count) := by
  rw [← bit_shiftTimes register (show 15 - count + count < 16 by omega)]
  rw [stream, Nat.sub_add_cancel (Nat.le_of_lt_succ below)]

/-- What leaves a register: each bit is fed back from the one 16 earlier and three after that. -/
def IsFedBack (bits : Nat → Bool) : Prop :=
  ∀ count, bits (count + 16) =
    !(bits count ^^ bits (count + 3) ^^ bits (count + 4) ^^ bits (count + 5))

/-- The stream of a register obeys its feedback. -/
theorem isFedBack_stream (register : UInt16) : IsFedBack (stream register) := by
  intro count
  have moved : stream (shiftTimes count register) 16 =
      bit (shiftRegister (shiftTimes count register)) 0 :=
    bit_shiftTimes (shiftRegister (shiftTimes count register)) (show 0 + 15 < 16 by decide)
  rw [stream_add, moved, bit_shiftRegister_zero, stream_add, stream_add, stream_add,
    stream_of_lt _ (show 3 < 16 by decide), stream_of_lt _ (show 4 < 16 by decide),
    stream_of_lt _ (show 5 < 16 by decide)]
  rfl

/-- What obeys the feedback does so from any place on. -/
theorem IsFedBack.drop
    {bits : Nat → Bool}
    (fedBack : IsFedBack bits)
    (base : Nat) :
    IsFedBack fun count => bits (base + count) := by
  intro count
  exact fedBack (base + count)

/-- A register whose window is all ones is locked. -/
theorem eq_allOnes_of_stream
    {register : UInt16}
    (ones : ∀ count, count < 16 → stream register count = true) :
    register = 0xFFFF := by
  apply eq_of_bit_eq
  intro place below
  have reversed : 15 - (15 - place) = place := by omega
  have left := ones (15 - place) (by omega)
  rw [stream_of_lt register (by omega), reversed] at left
  rw [left, bit_allOnes place below]

/-- Of 17 bits in a row, some are set and some are not. -/
theorem exists_stream
    {register : UInt16}
    (unlocked : register ≠ 0xFFFF)
    (level : Bool) :
    ∃ count, count ≤ 16 ∧ stream register count = level := by
  by_contra absent
  have opposite (count : Nat) (inside : count ≤ 16) : stream register count = !level :=
    Bool.eq_not_of_ne fun same => absent ⟨count, inside, same⟩
  cases level with
  | false =>
      apply unlocked
      apply eq_allOnes_of_stream
      intro count below
      exact opposite count (Nat.le_of_lt below)
  | true =>
      have last := isFedBack_stream register 0
      rw [opposite _ (by decide), opposite _ (by decide), opposite _ (by decide),
        opposite _ (by decide), opposite _ (by decide)] at last
      exact absurd last (by decide)

/-! ## Fast clocks -/

/-- From some place on, all bits are set. -/
def EndsInOnes (bits : Nat → Bool) : Prop :=
  ∃ base, ∀ count, bits (base + count) = true

section

variable
  {bits : Nat → Bool}
  (fedBack : IsFedBack bits)
  {level : Bool}

include fedBack

/-- A fed back stream that never changes is all ones. -/
theorem endsInOnes_of_all (heard : ∀ count, bits count = level) : EndsInOnes bits := by
  have next := fedBack 0
  refine ⟨0, fun count => ?_⟩
  simp only [heard] at next ⊢
  cases level with
  | false => exact absurd next (by decide)
  | true => rfl

/-- The five periods of four ticks: one bit in five is not heard. -/
theorem endsInOnes_of_fourInFive
    (heard : ∀ count, count % 5 ≠ 4 → bits count = level) :
    EndsInOnes bits := by
  have missed (count : Nat) (inStep : count % 5 = 0) : bits (count + 4) = true := by
    have next := fedBack count
    rw [heard count (by omega), heard (count + 3) (by omega), heard (count + 5) (by omega),
      heard (count + 16) (by omega)] at next
    cases level <;> simpa using next
  have high : level = true := by
    have next := fedBack 4
    rw [missed 0 rfl, missed 5 rfl, heard 7 (by decide), heard 8 (by decide),
      heard 20 (by decide)] at next
    simpa using next
  refine ⟨0, fun count => ?_⟩
  rw [Nat.zero_add]
  by_cases isMissed : count % 5 = 4
  · rw [← Nat.sub_add_cancel (show 4 ≤ count by omega)]
    exact missed (count - 4) (by omega)
  · rw [heard count isMissed, high]

/-- The three periods of two ticks: one bit in three is not heard. -/
theorem endsInOnes_of_twoInThree
    (heard : ∀ count, count % 3 ≠ 2 → bits count = level) :
    EndsInOnes bits := by
  have missed (count : Nat) (inStep : count % 3 = 0) : bits (count + 5) = true := by
    have next := fedBack count
    rw [heard count (by omega), heard (count + 3) (by omega), heard (count + 4) (by omega),
      heard (count + 16) (by omega)] at next
    cases level <;> simpa using next
  have high : level = true := by
    have next := fedBack 5
    rw [missed 0 rfl, missed 3 rfl, heard 9 (by decide), heard 10 (by decide),
      heard 21 (by decide)] at next
    simpa using next
  refine ⟨3, fun count => ?_⟩
  by_cases isMissed : count % 3 = 2
  · rw [show 3 + count = count - 2 + 5 by omega]
    exact missed (count - 2) (by omega)
  · rw [heard (3 + count) (by omega), high]

/-- The seven periods of four ticks: three bits in seven are not heard. -/
theorem endsInOnes_of_fourInSeven
    (heard : ∀ count,
      count % 7 = 0 ∨ count % 7 = 1 ∨ count % 7 = 3 ∨ count % 7 = 5 → bits count = level) :
    EndsInOnes bits := by
  have sixth (count : Nat) (inStep : count % 7 = 0) : bits (count + 6) = true := by
    have next := fedBack (count + 3)
    rw [heard (count + 3) (by omega), heard (count + 7) (by omega), heard (count + 8) (by omega),
      heard (count + 19) (by omega)] at next
    cases level <;> simpa using next
  have fourth (count : Nat) (inStep : count % 7 = 0) : bits (count + 4) = level := by
    have next := fedBack (count + 1)
    rw [heard (count + 1) (by omega), heard (count + 5) (by omega), sixth count inStep,
      heard (count + 17) (by omega)] at next
    cases level <;> simpa using next
  have second (count : Nat) (inStep : count % 7 = 0) : bits (count + 9) = level := by
    have next := fedBack (count + 4)
    rw [fourth count inStep, heard (count + 7) (by omega), heard (count + 8) (by omega),
      sixth (count + 14) (by omega)] at next
    cases level <;> simpa using next
  have high : level = true := by
    have next := fedBack 0
    rw [heard 0 (by decide), heard 3 (by decide), fourth 0 rfl, heard 5 (by decide),
      second 7 rfl] at next
    simpa using next
  subst high
  refine ⟨7, fun count => ?_⟩
  by_cases isHeard : count % 7 = 0 ∨ count % 7 = 1 ∨ count % 7 = 3 ∨ count % 7 = 5
  · exact heard (7 + count) (by omega)
  · obtain isMissed | isMissed | isMissed : count % 7 = 2 ∨ count % 7 = 4 ∨ count % 7 = 6 := by
      omega
    · rw [show 7 + count = count - 2 + 9 by omega]
      exact second (count - 2) (by omega)
    · rw [show 7 + count = count + 3 + 4 by omega]
      exact fourth (count + 3) (by omega)
    · rw [show 7 + count = count + 1 + 6 by omega]
      exact sixth (count + 1) (by omega)

end

/-- A stream ends in ones if it does from some place on. -/
theorem EndsInOnes.of_drop
    {bits : Nat → Bool}
    {base : Nat}
    (ends : EndsInOnes fun count => bits (base + count)) :
    EndsInOnes bits := by
  obtain ⟨further, ones⟩ := ends
  refine ⟨base + further, fun count => ?_⟩
  rw [Nat.add_assoc]
  exact ones count

/-! ## What ticks hear -/

/-- A clock of at most one period in a tick hears every bit. -/
theorem exists_heard
    {period step counter : Nat}
    (started : counter < period)
    (positive : 0 < step)
    (slow : step ≤ period)
    (count : Nat) :
    ∃ ticks, (counter + ticks * step) / period = count := by
  -- The first tick that brings the counter up to so many periods.
  have low := Nat.div_mul_le_self (count * period + (step - 1) - counter) step
  have high := Nat.lt_div_mul_add positive (a := count * period + (step - 1) - counter)
  refine ⟨(count * period + (step - 1) - counter) / step, ?_⟩
  apply Nat.div_eq_of_lt_le
  · omega
  · rw [Nat.add_one_mul]
    omega

section

variable {bits : Nat → Bool} (fedBack : IsFedBack bits) {level : Bool}

include fedBack

/-- Ticks that start below a period and hear one level only. -/
theorem endsInOnes_of_heard
    {period step counter : Nat}
    (started : counter < period)
    (stepBounds : 4 ≤ step ∧ step < 8)
    (periodBounds : period = 4 ∨ 8 ≤ period)
    (heard : ∀ ticks, bits ((counter + ticks * step) / period) = level) :
    EndsInOnes bits := by
  by_cases slow : step ≤ period
  · apply endsInOnes_of_all fedBack
    intro count
    obtain ⟨ticks, reached⟩ := exists_heard started (by omega) slow count
    rw [← reached]
    exact heard ticks
  · obtain rfl : period = 4 := by omega
    obtain rfl | rfl | rfl : step = 5 ∨ step = 6 ∨ step = 7 := by omega
    -- Each time the heard bits are counted from the first tick that leaves no rest, or almost none.
    · apply EndsInOnes.of_drop
      apply endsInOnes_of_fourInFive (fedBack.drop ((counter + (4 - counter) % 4 * 5) / 4))
      intro count isHeard
      refine Eq.trans (congrArg bits ?_) (heard ((4 - counter) % 4 + 4 * (count / 5) + count % 5))
      omega
    · apply EndsInOnes.of_drop
      apply endsInOnes_of_twoInThree (fedBack.drop ((counter + counter / 2 * 6) / 4))
      intro count isHeard
      refine Eq.trans (congrArg bits ?_) (heard (counter / 2 + 2 * (count / 3) + count % 3))
      omega
    · apply EndsInOnes.of_drop
      apply endsInOnes_of_fourInSeven (fedBack.drop ((counter + counter * 7) / 4))
      intro count isHeard
      refine Eq.trans (congrArg bits ?_) (heard (counter + 4 * (count / 7) + (count % 7 + 1) / 2))
      omega

end

/-- The stream of a register that is not locked does not end in ones. -/
theorem not_endsInOnes_stream
    {register : UInt16}
    (unlocked : register ≠ 0xFFFF) :
    ¬ EndsInOnes (stream register) := by
  rintro ⟨base, ones⟩
  apply shiftTimes_ne_allOnes unlocked base
  apply eq_allOnes_of_stream
  intro count _
  rw [← stream_add]
  exact ones count

/-- The period of the noise clock is not zero. -/
theorem InRange.period_pos
    {noise : NoiseSource}
    (inRange : noise.InRange) :
    0 < noise.period :=
  Nat.lt_of_lt_of_le (by decide) inRange.period_bounds.1

/-- Every period is the shortest one, or at least twice as long. -/
theorem InRange.period_eq_or_le
    {noise : NoiseSource}
    (inRange : noise.InRange) :
    noise.period = 4 ∨ 8 ≤ noise.period := by
  have every : ∀ shift, shift < 16 → 0x20000 >>> shift = 4 ∨ 8 ≤ 0x20000 >>> shift := by
    decide
  exact every _ inRange.shift_lt

/-- The top bit after some ticks is the bit of the stream that the clock has reached. -/
theorem bit_iterate_tick_succ
    {noise : NoiseSource}
    (positive : 0 < noise.period)
    (count : Nat) :
    bit (tick^[count + 1] noise).register 15 =
      stream noise.register
        ((noise.counter + (count + 1) * (noise.step + 4)) / noise.period) := by
  rw [iterate_tick_succ positive]
  rfl

/-- However many ticks have passed, each level is heard again. -/
theorem exists_bit_iterate_tick
    {noise : NoiseSource}
    (inRange : noise.InRange)
    (unlocked : noise.register ≠ 0xFFFF)
    (level : Bool)
    (count : Nat) :
    ∃ later, count ≤ later ∧ bit (tick^[later] noise).register 15 = level := by
  have positive := inRange.period_pos
  by_contra absent
  apply not_endsInOnes_stream unlocked
  let total := noise.counter + (count + 1) * (noise.step + 4)
  have heard (ticks : Nat) :
      stream noise.register
          (total / noise.period +
            (total % noise.period + ticks * (noise.step + 4)) / noise.period) =
        !level := by
    have sum :
        noise.counter + (count + ticks + 1) * (noise.step + 4) =
          total + ticks * (noise.step + 4) := by
      rw [Nat.add_right_comm, Nat.add_mul (count + 1), ← Nat.add_assoc]
    rw [← add_div_eq_div_add positive, ← sum, ← bit_iterate_tick_succ positive]
    exact Bool.eq_not_of_ne fun same => absent ⟨count + ticks + 1, by omega, same⟩
  apply EndsInOnes.of_drop
  have stepBelow := inRange.step_lt
  exact endsInOnes_of_heard ((isFedBack_stream noise.register).drop (total / noise.period))
    (Nat.mod_lt _ positive) ⟨by omega, by omega⟩ inRange.period_eq_or_le heard

/-! ## Every state of the noise source -/

/-- The states that a noise source gets into. -/
inductive Reachable : NoiseSource → Prop where
  | initial : Reachable initial
  | setFrequency {noise : NoiseSource} (shift step : Nat) :
      Reachable noise → Reachable (noise.setFrequency shift step)
  | tick {noise : NoiseSource} : Reachable noise → Reachable noise.tick

namespace Reachable

variable {noise : NoiseSource} (reachable : Reachable noise)

include reachable

theorem inRange : noise.InRange := by
  induction reachable with
  | initial => exact inRange_initial
  | setFrequency shift step _ inductionHypothesis =>
      exact inductionHypothesis.setFrequency shift step
  | tick _ inductionHypothesis => exact inductionHypothesis.tick

theorem unlocked : noise.register ≠ 0xFFFF := by
  induction reachable with
  | initial => decide
  | setFrequency _ _ _ inductionHypothesis => exact inductionHypothesis
  | tick _ inductionHypothesis => exact shiftTimes_ne_allOnes inductionHypothesis _

end Reachable

/-- The two levels of the noise. -/
def IsLevel (level : Int) : Prop :=
  level = 0x7FFF ∨ level = -0x8000

/-- The noise is one of its two levels. -/
theorem isLevel_output (noise : NoiseSource) : IsLevel noise.output := by
  unfold output
  split
  · exact .inl rfl
  · exact .inr rfl

/-- Each level is that of one value of the top bit. -/
theorem IsLevel.exists_bit
    {level : Int}
    (isLevel : IsLevel level) :
    ∃ top, ∀ noise : NoiseSource, bit noise.register 15 = top → noise.output = level := by
  rcases isLevel with rfl | rfl
  · refine ⟨true, fun noise high => ?_⟩
    rw [output_eq, high, if_pos rfl]
  · refine ⟨false, fun noise low => ?_⟩
    rw [output_eq, low, if_neg Bool.false_ne_true]

/-- The noise source after so many further clocks of its register. -/
def clocked (noise : NoiseSource) (count : Nat) : NoiseSource :=
  { noise with register := shiftTimes count noise.register }

/--
From every state that a noise source gets into, ticks clock the register once for each period that
their steps and the counter hold together, and put out one of the two levels.  The register never
gets into the only state that a clock leaves as it is.  Both levels are among any 17 states of it in
a row, and with the clock kept, each level is heard again however many ticks have passed.
-/
theorem ticksAtRate_neverLocks
    {noise : NoiseSource}
    (reachable : Reachable noise) :
    (∀ count, 0 < count → ∀ clocks after,
        Ticks count clocks noise after ↔
          clocks = (noise.counter + count * (noise.step + 4)) / (0x20000 >>> noise.shift) ∧
            after = tick^[count] noise) ∧
      IsLevel noise.tick.output ∧
      (∀ register, shiftRegister register = register ↔ register = 0xFFFF) ∧
      (∀ passed, (noise.clocked passed).register ≠ 0xFFFF) ∧
      (∀ level, IsLevel level →
        ∀ passed, ∃ further, further ≤ 16 ∧ (noise.clocked (passed + further)).output = level) ∧
      ∀ level, IsLevel level →
        ∀ count, ∃ later, count ≤ later ∧ (tick^[later] noise).output = level := by
  have never := shiftTimes_ne_allOnes reachable.unlocked
  refine ⟨?_, isLevel_output noise.tick, fun register => shiftRegister_eq_self_iff, never, ?_, ?_⟩
  · intro count someTick clocks after
    obtain ⟨fewer, rfl⟩ := Nat.exists_eq_succ_of_ne_zero (Nat.ne_of_gt someTick)
    exact ticks_iff reachable.inRange.period_pos fewer
  · intro level isLevel passed
    obtain ⟨top, puts⟩ := isLevel.exists_bit
    obtain ⟨further, inside, isTop⟩ := exists_stream (never passed) top
    rw [← stream_add] at isTop
    exact ⟨further, inside, puts _ isTop⟩
  · intro level isLevel count
    obtain ⟨top, puts⟩ := isLevel.exists_bit
    obtain ⟨later, after, isTop⟩ :=
      exists_bit_iterate_tick reachable.inRange reachable.unlocked top count
    exact ⟨later, after, puts _ isTop⟩

/-- A fast clock goes on from the counter of a slow one: four clocks in two ticks. -/
theorem ticksAtRate_neverLocks_faster :
    Reachable ((initial.setFrequency 0 3).tick.setFrequency 15 1) ∧
      Ticks 2 4 ((initial.setFrequency 0 3).tick.setFrequency 15 1)
        ((initial.setFrequency 0 3).tick.setFrequency 15 1).tick.tick ∧
      ∃ later,
        2 ≤ later ∧
          (tick^[later] ((initial.setFrequency 0 3).tick.setFrequency 15 1)).output = 0x7FFF := by
  have reachable : Reachable ((initial.setFrequency 0 3).tick.setFrequency 15 1) :=
    .setFrequency 15 1 (.tick (.setFrequency 0 3 .initial))
  obtain ⟨rate, -, -, -, -, returns⟩ := ticksAtRate_neverLocks reachable
  exact ⟨reachable, (rate 2 (by decide) 4 _).mpr ⟨by decide, rfl⟩, returns 0x7FFF (.inl rfl) 2⟩

end NoiseSource

end PsxPlayer
