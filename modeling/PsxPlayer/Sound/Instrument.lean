import PsxPlayer.Sound.Adpcm

namespace PsxPlayer

/-!
# Instruments

An instrument is what a run of blocks in sound RAM decodes to, from a start
address up to the first block with the end flag or to the last whole block. The
bank keeps each decoded instrument until the bytes under it are overwritten.
-/

/-- The samples of a run of blocks. -/
structure Instrument where
  /-- Byte address of the first block. -/
  start : Nat
  /-- Byte address behind the last block. -/
  stop : Nat
  samples : Array Int
  /-- Index of the first sample of the last block flagged as loop point. -/
  loopStart? : Option Nat
  /-- Whether playback goes on at the loop point. -/
  isRepeat : Bool
  deriving DecidableEq, Repr

namespace Instrument

/-- Round an address down to the start of a block. -/
def blockStart (address : Nat) : Nat :=
  address / blockSize * blockSize

/-- Index of the first sample of the block at `address`. -/
def sampleIndex (start address : Nat) : Nat :=
  (address - start) / blockSize * samplesPerBlock

/-- Decode blocks from `address` on. -/
def decodeFrom
    (ram : ByteArray)
    (start address : Nat)
    (run : SampleRun)
    (loopStart? : Option Nat) :
    Instrument :=
  if address + blockSize ≤ ram.size then
    let (run, flags) := run.decodeBlock ram address
    let loopStart? :=
      if flags.isLoopStart then some (sampleIndex start address) else loopStart?
    if flags.isEnd then
      ⟨start, address + blockSize, run.samples, loopStart?, flags.isRepeat⟩
    else
      decodeFrom ram start (address + blockSize) run loopStart?
  else
    ⟨start, address, run.samples, loopStart?, false⟩
termination_by ram.size - address
decreasing_by
  unfold blockSize at *
  omega

/-- Decode the instrument whose first block holds `address`. -/
def decode (ram : ByteArray) (address : Nat) : Instrument :=
  let start := blockStart address
  decodeFrom ram start start .empty none

/-- The sample index at which playback goes on. -/
def loopOffset (instrument : Instrument) : Nat :=
  instrument.loopStart?.getD 0

/-- Number of blocks decoded. -/
def blocks (instrument : Instrument) : Nat :=
  instrument.samples.size / samplesPerBlock

/-- Whether the instrument lies outside the bytes from `first` to before `last`. -/
def isOutside (instrument : Instrument) (first last : Nat) : Bool :=
  instrument.stop ≤ first || instrument.start ≥ last

end Instrument

/-- Decoded instruments with distinct start addresses. -/
structure SoundBank where
  instruments : List Instrument
  deriving DecidableEq, Repr

namespace SoundBank

/-- No instrument decoded. -/
def empty : SoundBank := ⟨[]⟩

/-- The decoded instrument with this start address. -/
def find? (bank : SoundBank) (start : Nat) : Option Instrument :=
  bank.instruments.find? fun instrument => instrument.start == start

/-- The instrument at `address`, decoded when it is not in the bank. -/
def fetch (bank : SoundBank) (ram : ByteArray) (address : Nat) : Instrument × SoundBank :=
  match bank.find? (Instrument.blockStart address) with
  | some instrument => (instrument, bank)
  | none =>
      let instrument := Instrument.decode ram address
      (instrument, ⟨instrument :: bank.instruments⟩)

/-- Forget the instruments that touch the bytes from `first` to before `last`. -/
def invalidate (bank : SoundBank) (first last : Nat) : SoundBank :=
  ⟨bank.instruments.filter fun instrument => instrument.isOutside first last⟩

/-- Number of decoded instruments. -/
def size (bank : SoundBank) : Nat :=
  bank.instruments.length

end SoundBank

end PsxPlayer
