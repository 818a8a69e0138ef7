import PsxPlayer.Audio.Sink
import PsxPlayer.Memory.Space

namespace PsxPlayer

/-!
# Wave files

A wave file of 16-bit stereo samples at 44100 Hz: a header of 44 bytes, then the
samples in little-endian order.
-/

namespace Wave

/-- Channels of the output. -/
def channelCount : Nat := 2

/-- Samples per second and channel. -/
def rate : Nat := 44100

/-- The bytes of an ASCII tag. -/
def tag (text : String) : ByteArray :=
  text.toUTF8

/-- Four little-endian bytes. -/
def long (value : Nat) : ByteArray :=
  littleBytes (UInt32.ofNat value) .word

/-- Two little-endian bytes. -/
def short (value : Nat) : ByteArray :=
  littleBytes (UInt32.ofNat value) .half

/-- The header of a file with `size` bytes of samples. -/
def header (size : Nat) : ByteArray :=
  tag "RIFF" ++ long (36 + size) ++ tag "WAVE" ++
    tag "fmt " ++ long 16 ++ short 1 ++ short channelCount ++ long rate ++
    long (rate * channelCount * 2) ++ short (channelCount * 2) ++ short 16 ++
    tag "data" ++ long size

/-- Append a sample. -/
def pushSample (bytes : ByteArray) (sample : Int) : ByteArray :=
  let value := wordOfInt sample
  (bytes.push value.toUInt8).push (value >>> 8).toUInt8

/-- The bytes of a file with these samples. -/
def file (samples : Array Int) : ByteArray :=
  samples.foldl pushSample (header (2 * samples.size))

end Wave

/-- A wave file that is being written. -/
structure WaveFile where
  samples : Array Int
  /-- Whether samples are still taken. -/
  isOpen : Bool
  deriving DecidableEq, Repr

namespace WaveFile

/-- A file without samples. -/
def created : WaveFile := ⟨#[], true⟩

/-- The contents of the file once it is closed. -/
def contents (wave : WaveFile) : ByteArray :=
  Wave.file wave.samples

end WaveFile

/-- A closed file takes no samples; closing one that ends inside a frame is a fault. -/
instance : SampleSink WaveFile where
  write block := fun wave =>
    if wave.isOpen then
      .ok () { wave with samples := wave.samples ++ block }
    else
      .ok () wave
  finish := fun wave =>
    let closed := { wave with isOpen := false }
    if wave.isOpen && wave.samples.size % Wave.channelCount != 0 then
      .error .wave closed
    else
      .ok () closed

end PsxPlayer
