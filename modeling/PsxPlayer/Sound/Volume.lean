import PsxPlayer.Sound.Envelope

namespace PsxPlayer

/-!
# Volumes

A volume register holds a fixed level, or a sweep that moves the level once per
output sample.

```text
fixed: bit 15 clear, bit 14 inverts, bits 13-0 level
sweep: bit 15 set, bit 14 exponential, bit 13 decreasing, bits 6-0 rate
```
-/

/-- The highest level; 0x4000 would be unity. -/
def volumeMax : Int := 0x3FFF

/-- A volume register with its level. -/
structure Volume where
  /-- The register as written. -/
  raw : UInt16
  /-- State of the sweep, on the scale of an envelope. -/
  sweep : Int
  /-- Level in effect. -/
  level : Int
  deriving DecidableEq, Repr

namespace Volume

/-- Level zero. -/
def initial : Volume where
  raw := 0
  sweep := 0
  level := 0

/-- Whether a register value describes a sweep. -/
def describesSweep (value : UInt16) : Bool :=
  value &&& 0x8000 != 0

/-- Whether the register holds a sweep. -/
def isSweep (volume : Volume) : Bool :=
  describesSweep volume.raw

/-- The level of a fixed register value. -/
def fixedLevel (value : UInt16) : Int :=
  let level : Int := (value &&& 0x3FFF).toNat
  if value &&& 0x4000 != 0 then volumeMax - level else level

/-- Write the register; a sweep starts from the level in effect. -/
def set (volume : Volume) (value : UInt16) : Volume :=
  if describesSweep value then
    { volume with
      raw := value
      sweep := volume.level * 0x20000 }
  else
    { volume with
      raw := value
      level := fixedLevel value }

/-- Advance a sweep by one sample. -/
def tick (volume : Volume) : Volume :=
  if volume.isSweep then
    let exponential := volume.raw &&& 0x4000 != 0
    let decrease := volume.raw &&& 0x2000 != 0
    let rate := (volume.raw &&& 0x7F).toUInt8
    let sweep := ramp volume.sweep rate exponential decrease
    { volume with
      sweep := sweep
      level := max 0 (min (sweep >>> (17 : Nat)) volumeMax) }
  else
    volume

/-- Scale a sample. -/
def apply (volume : Volume) (sample : Int) : Int :=
  Int.tdiv (sample * volume.level) 0x4000

end Volume

end PsxPlayer
