import PsxPlayer.Settings.Basic
import PsxPlayer.Text.Numeral

namespace PsxPlayer

/-!
# Arguments

The arguments of the command line: one program file and some switches. A switch
has a long name behind two hyphens or a letter behind one; letters may be joined.
The value of a switch is the next argument, or follows an equals sign or, behind a
letter, directly. Behind `--` every argument is a file.

Arguments are judged from left to right, and a request for help counts only if
nothing before it was wrong.
-/

/-- Switches with a value. -/
inductive ValueSwitch where
  | config
  | output
  | seconds
  | interpolation
  | vsync
  deriving DecidableEq, Repr

/-- Switches without a value. -/
inductive FlagSwitch where
  | noReverb
  | play
  deriving DecidableEq, Repr

/-- A switch. -/
inductive Switch where
  | value (switch : ValueSwitch)
  | flag (switch : FlagSwitch)
  | help
  deriving DecidableEq, Repr

namespace Switch

/-- The switch with a long name. -/
def ofName? (name : List Char) : Option Switch :=
  match String.ofList name with
  | "config" => some (.value .config)
  | "output" => some (.value .output)
  | "seconds" => some (.value .seconds)
  | "interpolation" => some (.value .interpolation)
  | "vsync" => some (.value .vsync)
  | "no-reverb" => some (.flag .noReverb)
  | "play" => some (.flag .play)
  | "help" => some .help
  | _ => none

/-- The switch with a letter. -/
def ofLetter? (letter : Char) : Option Switch :=
  match letter with
  | 'c' => some (.value .config)
  | 'o' => some (.value .output)
  | 's' => some (.value .seconds)
  | 'i' => some (.value .interpolation)
  | 'p' => some (.flag .play)
  | 'h' => some .help
  | _ => none

end Switch

/-- What the arguments ask for. -/
structure Arguments where
  /-- The program file. -/
  program : String
  config? : Option String
  output? : Option String
  seconds? : Option Nat
  filter? : Option Filter
  vsyncRate? : Option Nat
  noReverb : Bool
  play : Bool
  deriving DecidableEq, Repr

/-- Why the arguments do not start the program. -/
inductive Stop where
  | help
  | misuse
  deriving DecidableEq, Repr

/-- Arguments that are being read. -/
structure ArgumentsDraft where
  program? : Option String
  config? : Option String
  output? : Option String
  seconds? : Option Nat
  filter? : Option Filter
  vsyncRate? : Option Nat
  noReverb : Bool
  play : Bool
  deriving DecidableEq, Repr

namespace ArgumentsDraft

/-- Nothing has been given. -/
def blank : ArgumentsDraft := ⟨none, none, none, none, none, none, false, false⟩

/-- The path that an argument names; it is not empty. -/
def pathOf (text : List Char) : Except Stop String :=
  if text.isEmpty then .error .misuse else .ok (String.ofList text)

/-- The number of an argument: digits with an optional sign, of a value that fits a word. -/
def numberOf (text : List Char) : Except Stop Nat :=
  let magnitude :=
    match text with
    | '+' :: digits => numeral? 10 digits
    | '-' :: digits => (numeral? 10 digits).filter fun value => value == 0
    | digits => numeral? 10 digits
  match magnitude.filter fun value => value < Settings.wordBound with
  | some value => .ok value
  | none => .error .misuse

/-- The filter that an argument names. -/
def filterOf (text : List Char) : Except Stop Filter :=
  (Filter.parse (String.ofList text)).mapError fun _ => .misuse

/-- Fill a place that is still free. -/
def fill {α : Type} (place : Option α) (value : Except Stop α) : Except Stop (Option α) :=
  if place.isSome then .error .misuse else value.map some

/-- Take the program file. -/
def giveProgram (draft : ArgumentsDraft) (text : List Char) : Except Stop ArgumentsDraft := do
  return { draft with program? := ← fill draft.program? (pathOf text) }

/-- Take the value of a switch. -/
def give (draft : ArgumentsDraft) (switch : ValueSwitch) (text : List Char) :
    Except Stop ArgumentsDraft := do
  match switch with
  | .config => return { draft with config? := ← fill draft.config? (pathOf text) }
  | .output => return { draft with output? := ← fill draft.output? (pathOf text) }
  | .seconds => return { draft with seconds? := ← fill draft.seconds? (numberOf text) }
  | .interpolation => return { draft with filter? := ← fill draft.filter? (filterOf text) }
  | .vsync => return { draft with vsyncRate? := ← fill draft.vsyncRate? (numberOf text) }

/-- Take a switch without a value, which may be given once. -/
def turnOn (draft : ArgumentsDraft) (switch : FlagSwitch) : Except Stop ArgumentsDraft :=
  match switch with
  | .noReverb =>
      if draft.noReverb then .error .misuse else .ok { draft with noReverb := true }
  | .play => if draft.play then .error .misuse else .ok { draft with play := true }

/-- Whether an argument is a switch rather than a value; a single hyphen is a value. -/
def isSwitch : List Char → Bool
  | '-' :: _ :: _ => true
  | _ => false

/-- What is left to read, and what has been read. -/
abbrev Progress := List (List Char) × ArgumentsDraft

/-- Take the value of a switch from the next argument. -/
def giveNext (draft : ArgumentsDraft) (switch : ValueSwitch) (rest : List (List Char)) :
    Except Stop Progress :=
  match rest with
  | [] => .error .misuse
  | text :: rest =>
      if isSwitch text then
        .error .misuse
      else
        (draft.give switch text).map fun draft => (rest, draft)

/-- Read a switch given by its long name, with the value behind an equals sign. -/
def readLong (draft : ArgumentsDraft) (text : List Char) (rest : List (List Char)) :
    Except Stop Progress :=
  let name := text.takeWhile (· != '=')
  match Switch.ofName? name, text.drop name.length with
  | some (.value switch), _ :: value =>
      (draft.give switch value).map fun draft => (rest, draft)
  | some (.value switch), [] => draft.giveNext switch rest
  | some (.flag switch), [] => (draft.turnOn switch).map fun draft => (rest, draft)
  | some .help, [] => .error .help
  | _, _ => .error .misuse

/-- The value that follows a letter directly. -/
def attached (text : List Char) : List Char :=
  match text with
  | '=' :: value => value
  | value => value

/-- Read switches given by joined letters. -/
def readLetters (draft : ArgumentsDraft) (rest : List (List Char)) :
    List Char → Except Stop Progress
  | [] => .ok (rest, draft)
  | letter :: letters =>
      match Switch.ofLetter? letter with
      | some (.value switch) =>
          if letters.isEmpty then
            draft.giveNext switch rest
          else
            (draft.give switch (attached letters)).map fun draft => (rest, draft)
      | some (.flag switch) =>
          match draft.turnOn switch with
          | .ok draft => readLetters draft rest letters
          | .error stop => .error stop
      | some .help => .error .help
      | none => .error .misuse

/-- Read arguments behind `--`. -/
def readFiles (draft : ArgumentsDraft) : List (List Char) → Except Stop ArgumentsDraft
  | [] => .ok draft
  | text :: rest => do
      readFiles (← draft.giveProgram text) rest

/-- Read arguments; `fuel` is at least their number. -/
def read : Nat → ArgumentsDraft → List (List Char) → Except Stop ArgumentsDraft
  | _, draft, [] => .ok draft
  | 0, _, _ :: _ => .error .misuse
  | fuel + 1, draft, text :: rest =>
      match text with
      | ['-', '-'] => draft.readFiles rest
      | '-' :: '-' :: name => do
          let (rest, draft) ← draft.readLong name rest
          read fuel draft rest
      | '-' :: letter :: letters => do
          let (rest, draft) ← draft.readLetters rest (letter :: letters)
          read fuel draft rest
      | text => do
          read fuel (← draft.giveProgram text) rest

/-- The finished arguments; the program file has to be there. -/
def complete (draft : ArgumentsDraft) : Except Stop Arguments :=
  match draft.program? with
  | some program =>
      .ok
        { program := program
          config? := draft.config?
          output? := draft.output?
          seconds? := draft.seconds?
          filter? := draft.filter?
          vsyncRate? := draft.vsyncRate?
          noReverb := draft.noReverb
          play := draft.play }
  | none => .error .misuse

end ArgumentsDraft

namespace Arguments

/-- Read the arguments of the command line. -/
def parse (texts : List String) : Except Stop Arguments := do
  let draft ← ArgumentsDraft.blank.read texts.length (texts.map String.toList)
  draft.complete

/-- Settings with what the arguments say put over them. -/
def applyTo (arguments : Arguments) (settings : Settings) : Settings :=
  { settings with
    vsyncRate := arguments.vsyncRate?.getD settings.vsyncRate
    seconds := arguments.seconds?.getD settings.seconds
    filter := arguments.filter?.getD settings.filter
    reverb := settings.reverb && !arguments.noReverb }

/-- A file name without the point and the letters behind it; a point in front stays. -/
def stem (name : List Char) : List Char :=
  match (name.reverse.dropWhile (· != '.')) with
  | _ :: first :: rest => (first :: rest).reverse
  | _ => name

/--
A file name with the extension replaced by `wav`. Two points with letters behind
them leave the name of the folder above, which takes no extension.
-/
def waveName (name : List Char) : List Char :=
  if stem name = ['.'] then ['.', '.'] else stem name ++ ".wav".toList

/-- A path with the extension of its file replaced by `wav`. -/
def wavePath (path : String) : String :=
  let chars := path.toList
  let name := (chars.reverse.takeWhile (· != '/')).reverse
  let folder := chars.take (chars.length - name.length)
  String.ofList (folder ++ waveName name)

/-- The wave file to write. -/
def outputPath (arguments : Arguments) : String :=
  arguments.output?.getD (wavePath arguments.program)

end Arguments

end PsxPlayer
