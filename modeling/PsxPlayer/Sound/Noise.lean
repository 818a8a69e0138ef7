namespace PsxPlayer

/-!
# Noise

One shift register makes the noise for all voices. It is clocked whenever an
accumulator fills a period, so that the rate is exact over time.
-/

/-- The noise source. -/
structure NoiseSource where
  /-- Shift register; its top bit is the output. -/
  register : UInt16
  /-- Clock shift, 0 to 15. -/
  shift : Nat
  /-- Clock step, 0 to 3. -/
  step : Nat
  /-- Part of a period accumulated. -/
  counter : Nat
  deriving DecidableEq, Repr

namespace NoiseSource

/-- The state after power-on. -/
def initial : NoiseSource where
  register := 1
  shift := 0
  step := 0
  counter := 0

/-- Set the clock; only 4 bits of the shift and 2 of the step count. -/
def setFrequency (noise : NoiseSource) (shift step : Nat) : NoiseSource :=
  { noise with
    shift := shift % 16
    step := step % 4 }

/-- The accumulator value that clocks the register. -/
def period (noise : NoiseSource) : Nat :=
  0x20000 >>> noise.shift

/-- The output level. -/
def output (noise : NoiseSource) : Int :=
  if noise.register &&& 0x8000 != 0 then 0x7FFF else -0x8000

/-- Shift left and feed back bits 15, 12, 11 and 10, inverted. -/
def shiftRegister (register : UInt16) : UInt16 :=
  let feedback :=
    (register >>> 15) ^^^ (register >>> 12) ^^^ (register >>> 11) ^^^ (register >>> 10) ^^^ 1
  (register <<< 1) ||| (feedback &&& 1)

/-- The register after `count` clocks. -/
def shiftTimes : Nat → UInt16 → UInt16
  | 0, register => register
  | count + 1, register => shiftTimes count (shiftRegister register)

/-- Advance by one output sample. -/
def tick (noise : NoiseSource) : NoiseSource :=
  let counter := noise.counter + noise.step + 4
  { noise with
    register := shiftTimes (counter / noise.period) noise.register
    counter := counter % noise.period }

end NoiseSource

end PsxPlayer
