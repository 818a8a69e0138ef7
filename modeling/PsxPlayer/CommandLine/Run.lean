import PsxPlayer.Audio.Wave
import PsxPlayer.CommandLine.Arguments
import PsxPlayer.Player
import PsxPlayer.Settings.Environment
import PsxPlayer.Settings.EnvironmentFile
import PsxPlayer.Settings.File

namespace PsxPlayer

/-!
# Running from the command line

A program is rendered to a wave file. Settings are layered: the defaults or a
settings file, the environment, the region of the program, the arguments. What
surrounds the player, its files and variables, is a `Host`.
-/

/-- The surroundings of a run. -/
structure Host (m : Type → Type) where
  /-- The value of an environment variable. -/
  getVariable : String → m (Option String)
  /-- The contents of a file that can be read. -/
  read : String → m (Option ByteArray)
  /-- Create or empty a file; false if that is impossible. -/
  create : String → m Bool
  /-- Write the contents of a file that has been created. -/
  write : String → ByteArray → m Unit

/-- How a run ends. -/
inductive Outcome where
  | success
  /-- The user asked for help and gets it. -/
  | help
  | failure (fault : Fault)
  | misuse
  deriving DecidableEq, Repr

namespace Outcome

/-- The exit code. -/
def code : Outcome → UInt32
  | .success => 0
  | .help => 0
  | .failure fault => if fault.isFatal then 101 else 1
  | .misuse => 2

/-- The outcome of an attempt. -/
def ofAttempt : Except Fault Unit → Outcome
  | .ok () => .success
  | .error fault => .failure fault

end Outcome

/-- The name of the environment file. -/
def environmentFileName : String := ".env"

namespace Host

variable {m : Type → Type} [Monad m]

/-- The value of a variable: that of the host, or else one set since. -/
def lookup (host : Host m) (set : List (String × String)) (name : String) :
    m (Option String) := do
  match ← host.getVariable name with
  | some value => return some value
  | none => return set.lookup name

/--
The part of a value that a name reaches which goes on with `rest` behind the key: all
of it, or what stands behind that rest and one more equals sign. So a name finds what
stands behind `name=` in the text `key=value`.
-/
def reached? (rest value : List Char) : Option (List Char) :=
  match rest with
  | [] => some value
  | _ :: inner => (inner ++ ['=']).isPrefixOf? value

/-- The value that a name in a value stands for. -/
def refer (host : Host m) (set : List (String × String)) (name : String) : m String := do
  let key := name.toList.takeWhile (· != '=')
  let rest := name.toList.dropWhile (· != '=')
  match ← host.lookup set (String.ofList key) with
  | some value => return String.ofList ((reached? rest value.toList).getD [])
  | none => return ""

/-- Append the pieces of a value to `prior`. -/
def expand (host : Host m) (set : List (String × String)) :
    List ValuePiece → String → m String
  | [], prior => return prior
  | .char char :: rest, prior => expand host set rest (prior.push char)
  | .reference name :: rest, prior => do
      let value ← host.refer set name
      expand host set rest (prior ++ value)

/-- Set the variables of some entries, except those that have a value. -/
def setEntries (host : Host m) :
    List EnvironmentEntry → List (String × String) → m (Except Fault (List (String × String)))
  | [], set => return .ok set
  | entry :: rest, set => do
      let value ← host.expand set entry.pieces ""
      match ← host.lookup set entry.key with
      | some _ => setEntries host rest set
      | none =>
          if value.toList.contains '\x00' then
            return .error (.nulInVariable entry.key)
          else
            setEntries host rest (set ++ [(entry.key, value)])

/-- The variables that the environment file sets. -/
def environmentFile (host : Host m) : m (Except Fault (List (String × String))) := do
  match ← host.read environmentFileName with
  | some file => host.setEntries (EnvironmentFile.entries file) []
  | none => return .ok []

/-- The values of those of some variables that have one. -/
def valuesOf (host : Host m) (set : List (String × String)) :
    List String → m (List (String × String))
  | [] => return []
  | name :: rest => do
      let found ← host.lookup set name
      let others ← valuesOf host set rest
      match found with
      | some value => return (name, value) :: others
      | none => return others

/-- The settings under all others: those of the settings file, if there is one. -/
def baseSettings (host : Host m) : Option String → m (Except Fault Settings)
  | some path => do
      return Settings.ofFile (← host.read path)
  | none => return .ok .default

end Host

/-- Put the layers of settings over one another. -/
def layeredSettings
    (base : Except Fault Settings)
    (environment : List (String × String))
    (program : Executable)
    (arguments : Arguments) :
    Except Fault Settings := do
  let settings ← base
  match (Settings.applyEnvironment environment).run settings with
  | .error fault _ => throw fault
  | .ok _ settings =>
      let regional :=
        { settings with vsyncRate := program.vsyncRate?.getD settings.vsyncRate }
      let settings := arguments.applyTo regional
      settings.validate
      return settings

/-- The wave file of a tape. -/
def waveOf (tape : Tape) : ByteArray :=
  Wave.file tape.samples

/--
Play a program for the time that the settings say. The recording holds what was
played before a fault, if there was one.
-/
def record (settings : Settings) (program : Executable) : Except Fault Unit × Tape :=
  let play : Action Unit := do
    Action.runSeconds settings.seconds
    Action.finish
  match Player.create settings with
  | .error fault => (.error fault, .blank)
  | .ok player =>
      match play.run (player.machine.loadExecutable program) with
      | .ok _ machine => (.ok (), machine.bus.link.worker.sink)
      | .error fault machine => (.error fault, machine.bus.link.shutdown.worker.sink)

section

variable {m : Type → Type} [Monad m]

/-- The settings of a run. -/
def settingsOf
    (host : Host m)
    (arguments : Arguments)
    (set : List (String × String))
    (program : Executable) :
    m (Except Fault Settings) := do
  let base ← host.baseSettings arguments.config?
  let environment ← host.valuesOf set (Variable.all.map Variable.key)
  return layeredSettings base environment program arguments

/-- Render a program to a file, which is written also if the recording ends early. -/
def render
    (host : Host m)
    (settings : Settings)
    (program : Executable)
    (path : String) :
    m (Except Fault Unit) := do
  if ← host.create path then
    let (result, tape) := record settings program
    host.write path (waveOf tape)
    return result
  else
    return .error .wave

/-- The program in a file. -/
def programOf (host : Host m) (path : String) : m (Except Fault Executable) := do
  match ← host.read path with
  | some file => return Executable.parse file
  | none => return .error .io

/-- Carry out what the arguments ask for; `set` holds the variables set so far. -/
def runArguments
    (host : Host m)
    (set : List (String × String))
    (arguments : Arguments) :
    m (Except Fault Unit) := do
  match ← programOf host arguments.program with
  | .ok program =>
      match ← settingsOf host arguments set program with
      | .ok settings =>
          if arguments.play then
            return .error .noAudioDevice
          else
            render host settings program arguments.outputPath
      | .error fault => return .error fault
  | .error fault => return .error fault

/--
Run the player with the arguments of the command line, which are looked at after the
environment file.
-/
def runCommandLine (host : Host m) (texts : List String) : m Outcome := do
  match ← host.environmentFile with
  | .error fault => return .failure fault
  | .ok set =>
      match Arguments.parse texts with
      | .ok arguments => return Outcome.ofAttempt (← runArguments host set arguments)
      | .error .help => return .help
      | .error .misuse => return .misuse

end

end PsxPlayer
