import PsxPlayer.Word
import PsxPlayer.Memory.Space

namespace PsxPlayer

/-!
# Reverb

The reverb runs delay lines in a work area that reaches from a start address to
the end of sound RAM. Thirty-two registers give the lines' places and the
coefficients. It works at half the output rate: every second sample the average
of two inputs goes in, and the result is held for two outputs.

Products are divided by 0x8000 toward zero, and whatever is stored is limited to
16 bits.
-/

/-- Bytes of sound RAM. -/
def soundRamSize : Nat := 0x80000

/-- The reverb's registers. -/
structure ReverbRegisters where
  /-- Places and coefficients, in register order. -/
  values : Vector UInt16 32
  /-- Start of the work area, in units of 8 bytes. -/
  workArea : UInt16
  deriving DecidableEq, Repr

namespace ReverbRegisters

/-- Coefficient of the incoming sample in a reflection. -/
def reflectionVolume : Fin 32 := 2

/-- Coefficient of the wall's sample in a reflection. -/
def wallVolume : Fin 32 := 7

/-- Volumes of the four comb filters. -/
def combVolumes : List (Fin 32) := [3, 4, 5, 6]

/-- Volume of the left input. -/
def inputLeft : Fin 32 := 30

/-- Volume of the right input. -/
def inputRight : Fin 32 := 31

/-- All registers zero. -/
def initial : ReverbRegisters where
  values := Vector.replicate 32 0
  workArea := 0

/-- A register as a coefficient. -/
def coefficient (registers : ReverbRegisters) (index : Fin 32) : Int :=
  signedHalf (registers.values.get index)

/-- A register as a distance in bytes. -/
def distance (registers : ReverbRegisters) (index : Fin 32) : Int :=
  (registers.values.get index).toNat * 8

/-- Byte address of the work area. -/
def base (registers : ReverbRegisters) : Nat :=
  registers.workArea.toNat * 8

end ReverbRegisters

/-- Product of a sample and a coefficient. -/
def scaled (sample coefficient : Int) : Int :=
  Int.tdiv (sample * coefficient) 0x8000

/-- The signed halfword at an address of sound RAM. -/
def loadSample (ram : ByteArray) (address : Nat) : Int :=
  signedHalf (getLittle ram address .half).toUInt16

/-- Store a sample at an address of sound RAM, limited to 16 bits. -/
def storeSample (ram : ByteArray) (address : Nat) (sample : Int) : ByteArray :=
  setLittle ram address (wordOfInt (clamp16 sample)) .half

/-- A stereo sample. -/
structure Stereo where
  left : Int
  right : Int
  deriving DecidableEq, Repr

/-- State of the reverb. -/
structure Reverb where
  /-- Byte address of the current sample in the work area. -/
  current : Nat
  /-- The first input of a pair. -/
  pending? : Option Stereo
  /-- The latest result. -/
  held : Stereo
  deriving DecidableEq, Repr

namespace Reverb

/-- The state after power-on. -/
def initial : Reverb where
  current := 0
  pending? := none
  held := ⟨0, 0⟩

/--
The even address at a signed distance from the current sample, wrapped around
inside the work area that starts at `base`.
-/
def address (current base : Nat) (distance : Int) : Nat :=
  if base < soundRamSize then
    let size : Int := soundRamSize - base
    let inside := ((current : Int) - base + distance) % size
    (base + inside.toNat) / 2 * 2
  else
    soundRamSize - 2

/-- One delay line access: the place and registers of a step in progress. -/
structure Tap where
  registers : ReverbRegisters
  current : Nat

namespace Tap

/-- The sample at a distance. -/
def load (tap : Tap) (ram : ByteArray) (distance : Int) : Int :=
  loadSample ram (address tap.current tap.registers.base distance)

/-- Store a sample at a distance. -/
def store (tap : Tap) (ram : ByteArray) (distance sample : Int) : ByteArray :=
  storeSample ram (address tap.current tap.registers.base distance) sample

end Tap

/-- A reflection: where it goes, where the wall is read, and its input. -/
structure Reflection where
  place : Fin 32
  wall : Fin 32
  input : Int

/--
The four reflections in order: each side onto itself, then each side onto the
other's wall.
-/
def reflections (left right : Int) : List Reflection :=
  [⟨10, 16, left⟩, ⟨11, 17, right⟩, ⟨18, 25, left⟩, ⟨19, 24, right⟩]

/-- Mix one reflection into its delay line. -/
def reflect (tap : Tap) (ram : ByteArray) (reflection : Reflection) : ByteArray :=
  let registers := tap.registers
  let volume := registers.coefficient ReverbRegisters.reflectionVolume
  let wall :=
    scaled (tap.load ram (registers.distance reflection.wall))
      (registers.coefficient ReverbRegisters.wallVolume)
  let previous := tap.load ram (registers.distance reflection.place - 2)
  let sample :=
    scaled (reflection.input + wall) volume + scaled previous (0x8000 - volume)
  tap.store ram (registers.distance reflection.place) sample

/-- An all-pass filter: its place, its delay and its volume. -/
structure AllPass where
  place : Fin 32
  delay : Fin 32
  volume : Fin 32

/-- The comb filters and the two all-pass places of one side. -/
structure Side where
  combs : List (Fin 32)
  first : Fin 32
  second : Fin 32

/-- The two all-pass filters of a side, each with its own delay and volume register. -/
def Side.filters (side : Side) : List AllPass :=
  [⟨side.first, 0, 8⟩, ⟨side.second, 1, 9⟩]

/-- Registers with the places of the left side. -/
def leftSide : Side := ⟨[12, 14, 20, 22], 26, 28⟩

/-- Registers with the places of the right side. -/
def rightSide : Side := ⟨[13, 15, 21, 23], 27, 29⟩

/-- The sum of the comb filters of one side. -/
def combSum (tap : Tap) (ram : ByteArray) (side : Side) : Int :=
  (side.combs.zip ReverbRegisters.combVolumes).foldl
    (fun sum (place, volume) =>
      sum +
        scaled (tap.load ram (tap.registers.distance place))
          (tap.registers.coefficient volume))
    0

/-- Run a sample through one all-pass filter. -/
def allPass
    (tap : Tap)
    (state : Int × ByteArray)
    (filter : AllPass) :
    Int × ByteArray :=
  let (sample, ram) := state
  let registers := tap.registers
  let volume := registers.coefficient filter.volume
  let delayed :=
    tap.load ram (registers.distance filter.place - registers.distance filter.delay)
  let sample := sample - scaled delayed volume
  let ram := tap.store ram (registers.distance filter.place) sample
  (scaled (clamp16 sample) volume + delayed, ram)

/-- The output of one side. -/
def sideOutput (tap : Tap) (ram : ByteArray) (side : Side) : Int × ByteArray :=
  let (sample, ram) := side.filters.foldl (allPass tap) (combSum tap ram side, ram)
  (clamp16 sample, ram)

/-- The current address brought into the work area. -/
def settle (current base : Nat) : Nat :=
  if current < base ∨ soundRamSize ≤ current then base else current

/-- The address after the current one. -/
def advance (current base : Nat) : Nat :=
  if soundRamSize ≤ current + 2 then base else current + 2

/-- One step at half the output rate: result, next current address, sound RAM. -/
def step
    (current : Nat)
    (registers : ReverbRegisters)
    (ram : ByteArray)
    (input : Stereo) :
    Stereo × Nat × ByteArray :=
  let current := settle current registers.base
  let tap : Tap := ⟨registers, current⟩
  let left := scaled input.left (registers.coefficient ReverbRegisters.inputLeft)
  let right := scaled input.right (registers.coefficient ReverbRegisters.inputRight)
  let ram := (reflections left right).foldl (reflect tap) ram
  let (outLeft, ram) := sideOutput tap ram leftSide
  let (outRight, ram) := sideOutput tap ram rightSide
  (⟨outLeft, outRight⟩, advance current registers.base, ram)

/-- Feed one input and take one output. -/
def process
    (reverb : Reverb)
    (registers : ReverbRegisters)
    (ram : ByteArray)
    (input : Stereo) :
    Stereo × Reverb × ByteArray :=
  match reverb.pending? with
  | none => (reverb.held, { reverb with pending? := some input }, ram)
  | some first =>
      let average : Stereo :=
        ⟨Int.tdiv (first.left + input.left) 2, Int.tdiv (first.right + input.right) 2⟩
      let (output, current, ram) := step reverb.current registers ram average
      (output, ⟨current, none, output⟩, ram)

/-- Process frames one after the other and append the outputs, left before right. -/
def processAll (registers : ReverbRegisters) :
    List Stereo → Array Int → Reverb → ByteArray → Array Int × Reverb × ByteArray
  | [], outputs, reverb, ram => (outputs, reverb, ram)
  | input :: rest, outputs, reverb, ram =>
      let (output, reverb, ram) := reverb.process registers ram input
      processAll registers rest ((outputs.push output.left).push output.right) reverb ram

end Reverb

end PsxPlayer
