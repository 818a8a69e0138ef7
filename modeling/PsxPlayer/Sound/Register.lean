import PsxPlayer.Word

namespace PsxPlayer

/-!
# Sound registers

The sound registers are halfwords from 0x1F801C00 to 0x1F801DFF: eight for each
of 24 voices, then the global block and the reverb's parameters.
`SoundRegister.ofAddress` names the register at an address.
-/

/-- Number of voices. -/
def voiceCount : Nat := 24

/-- Address of the first sound register. -/
def soundBase : UInt32 := 0x1F801C00

/-- Address of the last byte of the sound registers. -/
def soundLast : UInt32 := 0x1F801DFF

/-- The registers of a voice. -/
inductive VoiceRegister where
  | volumeLeft
  | volumeRight
  | pitch
  | startAddress
  | envelopeLow
  | envelopeHigh
  | currentLevel
  | loopAddress
  deriving DecidableEq, Repr

/-- Lower or upper half of a register with a bit per voice. -/
inductive VoiceHalf where
  /-- Voices 0 to 15. -/
  | low
  /-- Voices 16 to 23, in bits 0 to 7. -/
  | high
  deriving DecidableEq, Repr

/-- A sound register. -/
inductive SoundRegister where
  | voice (index : Nat) (register : VoiceRegister)
  | mainVolumeLeft
  | mainVolumeRight
  | reverbDepthLeft
  | reverbDepthRight
  | keyOn (half : VoiceHalf)
  | keyOff (half : VoiceHalf)
  | modulation (half : VoiceHalf)
  | noise (half : VoiceHalf)
  | reverb (half : VoiceHalf)
  | channelOn (half : VoiceHalf)
  | workArea
  | transferAddress
  | transferFifo
  | control
  | status
  | reverbParameter (index : Fin 32)
  /-- A register that only keeps its value. -/
  | plain
  deriving DecidableEq, Repr

namespace VoiceRegister

/-- The register at an even offset inside a voice's block. -/
def ofOffset (offset : Nat) : VoiceRegister :=
  match offset with
  | 0x0 => .volumeLeft
  | 0x2 => .volumeRight
  | 0x4 => .pitch
  | 0x6 => .startAddress
  | 0x8 => .envelopeLow
  | 0xA => .envelopeHigh
  | 0xC => .currentLevel
  | _ => .loopAddress

end VoiceRegister

namespace VoiceHalf

/-- The voice of bit 0. -/
def first : VoiceHalf → Nat
  | .low => 0
  | .high => 16

/-- The halfword of a register with a bit per voice. -/
def get (half : VoiceHalf) (bits : UInt32) : UInt16 :=
  match half with
  | .low => bits.toUInt16
  | .high => (bits >>> 16).toUInt16

/-- Replace a halfword; only eight voices have a bit in the upper one. -/
def set (half : VoiceHalf) (bits : UInt32) (value : UInt16) : UInt32 :=
  match half with
  | .low => (bits &&& 0xFFFF0000) ||| value.toUInt32
  | .high => (bits &&& 0x0000FFFF) ||| ((value.toUInt32 &&& (0xFF : UInt32)) <<< (16 : UInt32))

/-- The voices whose bits are set in a halfword, in order. -/
def voices (half : VoiceHalf) (value : UInt16) : List Nat :=
  (List.range 16).filterMap fun bit =>
    if (value.toNat >>> bit) % 2 = 1 ∧ half.first + bit < voiceCount then
      some (half.first + bit)
    else
      none

end VoiceHalf

namespace SoundRegister

/-- Byte offset of an address in the register block; odd addresses count as even. -/
def offsetOf (address : UInt32) : Nat :=
  ((address - soundBase) &&& 0x1FE).toNat

/-- The register at an even offset below 0x200. -/
def ofOffset (offset : Nat) : SoundRegister :=
  if offset / 16 < voiceCount then
    .voice (offset / 16) (.ofOffset (offset % 16))
  else if 0x1C0 ≤ offset then
    .reverbParameter (Fin.ofNat 32 ((offset - 0x1C0) / 2))
  else
    match offset with
    | 0x180 => .mainVolumeLeft
    | 0x182 => .mainVolumeRight
    | 0x184 => .reverbDepthLeft
    | 0x186 => .reverbDepthRight
    | 0x188 => .keyOn .low
    | 0x18A => .keyOn .high
    | 0x18C => .keyOff .low
    | 0x18E => .keyOff .high
    | 0x190 => .modulation .low
    | 0x192 => .modulation .high
    | 0x194 => .noise .low
    | 0x196 => .noise .high
    | 0x198 => .reverb .low
    | 0x19A => .reverb .high
    | 0x19C => .channelOn .low
    | 0x19E => .channelOn .high
    | 0x1A2 => .workArea
    | 0x1A6 => .transferAddress
    | 0x1A8 => .transferFifo
    | 0x1AA => .control
    | 0x1AE => .status
    | _ => .plain

/-- The register at an address. -/
def ofAddress (address : UInt32) : SoundRegister :=
  ofOffset (offsetOf address)

end SoundRegister

end PsxPlayer
