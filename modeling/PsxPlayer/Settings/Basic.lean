import PsxPlayer.Fault
import PsxPlayer.Sound.Interpolation

namespace PsxPlayer

/-!
# Settings

What the user chooses about playback. Settings come in layers: the defaults, a
file, the environment, and the command line.
-/

/-- The choices of the user. -/
structure Settings where
  /-- The filter between samples of a voice. -/
  filter : Filter
  /-- Whether the reverb unit runs. -/
  reverb : Bool
  /-- Whether the clock jumps ahead in idle loops. -/
  skipsIdleLoops : Bool
  /-- Frames of video per second. -/
  vsyncRate : Nat
  /-- Frames of audio in each block handed to the output. -/
  ringFrames : Nat
  /-- Seconds to render. -/
  seconds : Nat
  deriving DecidableEq, Repr

namespace Settings

/-- The settings when nothing is chosen. -/
def default : Settings where
  filter := .gaussian
  reverb := true
  skipsIdleLoops := true
  vsyncRate := 60
  ringFrames := 1024
  seconds := 180

/-- Numbers that a 32-bit setting can hold are below this. -/
def wordBound : Nat := 0x100000000

/-- Numbers that a 64-bit setting can hold are below this. -/
def longBound : Nat := 0x10000000000000000

/-- Refuse settings that nothing can be played with; the frame rate is looked at first. -/
def validate (settings : Settings) : Except Fault Unit :=
  if settings.vsyncRate ≠ 50 ∧ settings.vsyncRate ≠ 60 then
    .error (.vsyncRate settings.vsyncRate)
  else if settings.ringFrames = 0 then
    .error .emptyBlock
  else
    .ok ()

end Settings

end PsxPlayer
