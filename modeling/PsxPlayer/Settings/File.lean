import PsxPlayer.Settings.Document
import PsxPlayer.Text.Utf8

namespace PsxPlayer

/-!
# Settings files

The meaning of a settings document. Every statement sets one setting, none is
set twice, and a setting that is not mentioned keeps its default. The choice of
the filter may take a section of its own.
-/

/-- The keys of a settings document. -/
inductive SettingKey where
  | interpolation
  | reverb
  | idleLoops
  | vsyncRate
  | ringFrames
  | seconds
  deriving DecidableEq, Repr

namespace SettingKey

/-- The spelling of a key. -/
def name : SettingKey → String
  | .interpolation => "interpolation"
  | .reverb => "reverb"
  | .idleLoops => "dead_loop_skip"
  | .vsyncRate => "vsync_hz"
  | .ringFrames => "ring_frames"
  | .seconds => "seconds"

/-- All keys. -/
def all : List SettingKey :=
  [.interpolation, .reverb, .idleLoops, .vsyncRate, .ringFrames, .seconds]

/-- The key with a spelling. -/
def ofName? (text : String) : Option SettingKey :=
  all.find? fun key => key.name == text

end SettingKey

namespace DocumentValue

/-- The filter that a value chooses. -/
def filter? : DocumentValue → Option Filter
  | .text name => Filter.ofName? name
  | .choice name => Filter.ofName? name
  | _ => none

/-- The truth value of a value. -/
def flag? : DocumentValue → Option Bool
  | .flag value => some value
  | _ => none

/-- The natural number below `bound` of a value. -/
def natural? (bound : Nat) : DocumentValue → Option Nat
  | .integer value =>
      if 0 ≤ value ∧ value.toNat < bound then some value.toNat else none
  | _ => none

end DocumentValue

/-- Settings that are being read, with the keys that have been seen. -/
structure SettingsDraft where
  settings : Settings
  seen : List SettingKey
  deriving DecidableEq, Repr

namespace SettingsDraft

/-- Nothing is set yet. -/
def blank : SettingsDraft := ⟨.default, []⟩

/-- Change one setting, if the value fits. -/
def change? (key : SettingKey) (value : DocumentValue) (settings : Settings) :
    Option Settings :=
  match key with
  | .interpolation => value.filter?.map fun filter => { settings with filter := filter }
  | .reverb => value.flag?.map fun flag => { settings with reverb := flag }
  | .idleLoops => value.flag?.map fun flag => { settings with skipsIdleLoops := flag }
  | .vsyncRate =>
      (value.natural? Settings.wordBound).map fun rate => { settings with vsyncRate := rate }
  | .ringFrames =>
      (value.natural? Settings.longBound).map fun count => { settings with ringFrames := count }
  | .seconds =>
      (value.natural? Settings.wordBound).map fun count => { settings with seconds := count }

/-- Set a setting that has not been set yet. -/
def set? (draft : SettingsDraft) (key : SettingKey) (value : DocumentValue) :
    Option SettingsDraft :=
  if draft.seen.contains key then
    none
  else
    (change? key value draft.settings).map fun settings => ⟨settings, key :: draft.seen⟩

/-- Set the setting that an assignment outside sections names. -/
def assign? (draft : SettingsDraft) (path : List String) (value : DocumentValue) :
    Option SettingsDraft :=
  match path, value with
  | [name], value => (SettingKey.ofName? name).bind fun key => draft.set? key value
  | [name, choice], .hollow =>
      (SettingKey.ofName? name).bind fun key => draft.set? key (.choice choice)
  | _, _ => none

/--
The choice that the sections of a document make, with the name of the setting:
the section of the setting holds the chosen name as its only key, or a section
of its own stands below it.
-/
def sectionChoice? : List Statement → Option (String × String)
  | [.section [name], .assign [choice] .hollow] => some (name, choice)
  | [.section [name, choice]] => some (name, choice)
  | [.section [name], .section [outer, choice]] =>
      if outer = name then some (name, choice) else none
  | [.section [outer, choice], .section [name]] =>
      if outer = name then some (name, choice) else none
  | _ => none

/-- Carry out the statements of a document. -/
def run? (draft : SettingsDraft) : List Statement → Option SettingsDraft
  | [] => some draft
  | .assign path value :: rest => (draft.assign? path value).bind fun draft => run? draft rest
  | sections =>
      (sectionChoice? sections).bind fun (name, choice) => draft.assign? [name, choice] .hollow

end SettingsDraft

namespace Settings

/-- The settings of a document that follow its rules, before their values are judged. -/
def ofDocument? (text : String) : Option Settings :=
  (Document.parse? text).bind fun statements =>
    (SettingsDraft.blank.run? statements).map SettingsDraft.settings

/-- Read a settings document and validate it. -/
def parse (text : String) : Except Fault Settings :=
  match ofDocument? text with
  | some settings => settings.validate.map fun _ => settings
  | none => .error .malformedSettings

/-- Read the contents of a settings file, if there is one. -/
def ofFile (contents : Option ByteArray) : Except Fault Settings :=
  match contents.bind Utf8.decode? with
  | some text => parse text
  | none => .error .io

end Settings

end PsxPlayer
