namespace PsxPlayer

/-!
# Compressed samples

Sound RAM holds samples in blocks of 16 bytes that decode to 28 samples each.
The first byte gives a shift in bits 0-3 and a prediction filter in bits 4-6,
the second byte the flags, and each further byte two 4-bit steps, low one first.
A sample is its step plus a prediction from the two samples before it.
-/

/-- Bytes in a block. -/
def blockSize : Nat := 16

/-- Samples in a block. -/
def samplesPerBlock : Nat := 28

/-- Flags of a block. -/
structure BlockFlags where
  /-- The sample ends with this block. -/
  isEnd : Bool
  /-- Playback then goes on at the loop point. -/
  isRepeat : Bool
  /-- This block is the loop point. -/
  isLoopStart : Bool
  deriving DecidableEq, Repr

namespace BlockFlags

/-- The flags in bits 0 to 2 of a byte. -/
def ofByte (byte : UInt8) : BlockFlags where
  isEnd := byte &&& 0x01 != 0
  isRepeat := byte &&& 0x02 != 0
  isLoopStart := byte &&& 0x04 != 0

end BlockFlags

/-- The two latest samples, from which the next one is predicted. -/
structure SampleHistory where
  latest : Int
  previous : Int
  deriving DecidableEq, Repr

namespace SampleHistory

/-- Silence before the first sample. -/
def silent : SampleHistory := ⟨0, 0⟩

/-- Weights of the two latest samples, in 64ths; filters above 4 act as 4. -/
def weights (filter : Nat) : Int × Int :=
  match filter with
  | 0 => (0, 0)
  | 1 => (60, 0)
  | 2 => (115, -52)
  | 3 => (98, -55)
  | _ => (122, -60)

/-- The sample predicted by `filter`, rounded to the nearest. -/
def predict (history : SampleHistory) (filter : Nat) : Int :=
  let (first, second) := weights filter
  (history.latest * first + history.previous * second + 32) >>> (6 : Nat)

/-- Take note of a new sample. -/
def push (history : SampleHistory) (sample : Int) : SampleHistory :=
  ⟨sample, history.latest⟩

end SampleHistory

/-- The signed value of a 4-bit step, in the top bits of a 16-bit sample. -/
def stepValue (nibble : Nat) : Int :=
  (if nibble < 8 then (nibble : Int) else (nibble : Int) - 16) * 0x1000

/-- The shift a block's first byte asks for; 13 to 15 act as 9. -/
def blockShift (header : Nat) : Nat :=
  let shift := header % 16
  if shift > 12 then 9 else shift

/-- The prediction filter a block's first byte asks for. -/
def blockFilter (header : Nat) : Nat :=
  (header / 16) % 8

/-- Samples decoded so far, with the history the next one builds on. -/
structure SampleRun where
  history : SampleHistory
  samples : Array Int
  deriving DecidableEq, Repr

namespace SampleRun

/-- Nothing decoded yet. -/
def empty : SampleRun := ⟨.silent, #[]⟩

/-- Decode one 4-bit step. -/
def decodeStep (shift filter : Nat) (run : SampleRun) (nibble : Nat) : SampleRun :=
  let raw := stepValue nibble >>> shift
  let sample := max (-32768) (min (raw + run.history.predict filter) 32767)
  ⟨run.history.push sample, run.samples.push sample⟩

/-- Decode the two steps of a byte. -/
def decodeByte (shift filter : Nat) (run : SampleRun) (byte : UInt8) : SampleRun :=
  let low := byte.toNat % 16
  let high := byte.toNat / 16
  (run.decodeStep shift filter low).decodeStep shift filter high

/--
Decode the block at `address`, which must lie inside `bytes`. The answer is the
longer run with the block's flags.
-/
def decodeBlock (run : SampleRun) (bytes : ByteArray) (address : Nat) : SampleRun × BlockFlags :=
  let header := (bytes.get! address).toNat
  let shift := blockShift header
  let filter := blockFilter header
  let run := (List.range 14).foldl
    (fun run index => run.decodeByte shift filter (bytes.get! (address + 2 + index))) run
  (run, .ofByte (bytes.get! (address + 1)))

/-- Decode a block of its own; one that is cut short ends the sample. -/
def decodeLoose (run : SampleRun) (block : ByteArray) : SampleRun × BlockFlags :=
  if block.size < blockSize then
    (run, ⟨true, false, false⟩)
  else
    run.decodeBlock block 0

end SampleRun

end PsxPlayer
