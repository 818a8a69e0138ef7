import PsxPlayer.Settings.Basic
import PsxPlayer.Text.Blank
import PsxPlayer.Text.Numeral

namespace PsxPlayer

/-!
# Settings from the environment

A variable with the prefix `PSFRX_` and the name of a setting changes that
setting. Variables are applied in order, and the first bad value ends it.
-/

/-- The settings a variable can change. -/
inductive Variable where
  | interpolation
  | reverb
  | idleLoops
  | vsyncRate
  | ringFrames
  | seconds
  deriving DecidableEq, Repr

namespace Variable

/-- The name of the variable. -/
def key : Variable → String
  | .interpolation => "PSFRX_INTERPOLATION"
  | .reverb => "PSFRX_REVERB"
  | .idleLoops => "PSFRX_DEAD_LOOP_SKIP"
  | .vsyncRate => "PSFRX_VSYNC_HZ"
  | .ringFrames => "PSFRX_RING_FRAMES"
  | .seconds => "PSFRX_SECONDS"

/-- All variables. -/
def all : List Variable :=
  [.interpolation, .reverb, .idleLoops, .vsyncRate, .ringFrames, .seconds]

/-- The variable with a name. -/
def ofKey? (key : String) : Option Variable :=
  all.find? fun candidate => candidate.key == key

/-- The truth value that a word stands for, in upper or lower case. -/
def readFlag (key value : String) : Except Fault Bool :=
  match value.map Char.toLower with
  | "1" | "true" | "yes" | "on" => .ok true
  | "0" | "false" | "no" | "off" => .ok false
  | _ => .error (.notBoolean key value)

/-- The number below `bound` that a value stands for. -/
def readNumber (bound : Nat) (key value : String) : Except Fault Nat :=
  match parseNatural? bound value with
  | some number => .ok number
  | none => .error (.notNumber key value)

/-- Change a setting to a value without blanks around it. -/
def apply (target : Variable) (value : String) (settings : Settings) :
    Except Fault Settings := do
  match target with
  | .interpolation => return { settings with filter := ← Filter.parse value }
  | .reverb => return { settings with reverb := ← readFlag target.key value }
  | .idleLoops => return { settings with skipsIdleLoops := ← readFlag target.key value }
  | .vsyncRate =>
      return { settings with vsyncRate := ← readNumber Settings.wordBound target.key value }
  | .ringFrames =>
      return { settings with ringFrames := ← readNumber Settings.longBound target.key value }
  | .seconds =>
      return { settings with seconds := ← readNumber Settings.wordBound target.key value }

end Variable

namespace Settings

/-- Apply one variable of the environment; those that are no setting change nothing. -/
def applyVariable (key value : String) (settings : Settings) : Except Fault Settings :=
  match Variable.ofKey? key with
  | some target => target.apply (trimBlanks value) settings
  | none => .ok settings

/--
Apply variables in order and validate the result. After a fault the settings are
those of the variables before the bad one.
-/
def applyEnvironment : List (String × String) → EStateM Fault Settings Unit
  | [] => fun settings =>
      match settings.validate with
      | .ok () => .ok () settings
      | .error fault => .error fault settings
  | (key, value) :: rest => fun settings =>
      match settings.applyVariable key value with
      | .ok settings => applyEnvironment rest settings
      | .error fault => .error fault settings

end Settings

end PsxPlayer
