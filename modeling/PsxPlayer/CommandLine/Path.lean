namespace PsxPlayer

/-!
# Paths

Where the path of a file leads from a folder that has no folders inside. It may
name a file of the folder, leave it for another one, or name a device of the system.
Empty steps and single points stay where they are; a path that ends with one of
these, or with two points, names no file.
-/

/-- Where a path leads. -/
inductive Destination where
  /-- A file of the folder, which need not be there yet. -/
  | inside (name : String)
  /-- A file of another folder. -/
  | outside
  /-- A device. -/
  | device (name : String)
  /-- No file: a folder, or a place in a folder that is not there. -/
  | nowhere
  deriving DecidableEq, Repr

/-- The folder that the steps of a path have reached. -/
inductive Position where
  | here
  /-- Another folder, in which files can be created: one above, or that of temporary files. -/
  | outside
  | root
  /-- The folder of the devices. -/
  | devices
  deriving DecidableEq, Repr

/-- Devices that take everything that is written to them. -/
def deviceNames : List String :=
  ["null", "zero", "full", "random", "urandom", "stdin", "stdout", "stderr"]

namespace Position

/-- Bytes that the name of a file can take up. -/
def nameBound : Nat := 255

/-- Whether a step stays in its folder. -/
def stays (step : String) : Bool :=
  step == "" || step == "."

/-- Whether a step goes to the folder above. -/
def rises (step : String) : Bool :=
  step == ".."

/-- Whether a step can be the name of a file. -/
def isName (step : String) : Bool :=
  !stays step && !rises step && step.utf8ByteSize ≤ nameBound

/-- The folder above; nothing is above the root. -/
def parent : Position → Position
  | .here | .outside => .outside
  | .root | .devices => .root

/-- The folder behind a step, if there is one. -/
def enter? (position : Position) (step : String) : Option Position :=
  if stays step then some position
  else if rises step then some position.parent
  else if position = .root then
    match step with
    | "dev" => some .devices
    | "tmp" => some .outside
    | _ => none
  else none

/-- The file with a name in a folder. -/
def file (position : Position) (name : String) : Destination :=
  match position with
  | .here => .inside name
  | .outside => .outside
  | .root => .nowhere
  | .devices => if deviceNames.contains name then .device name else .nowhere

/-- The destination of steps, of which the last one names the file. -/
def walk (position : Position) : List String → Destination
  | [] => .nowhere
  | [name] => if isName name then position.file name else .nowhere
  | step :: rest =>
      match position.enter? step with
      | some position => walk position rest
      | none => .nowhere

end Position

namespace Destination

/-- Paths have fewer bytes than this. -/
def pathBound : Nat := 4096

/-- The steps of a path, with slashes between them. -/
def steps : List Char → List (List Char)
  | [] => [[]]
  | char :: rest =>
      if char = '/' then
        [] :: steps rest
      else
        match steps rest with
        | step :: others => (char :: step) :: others
        | [] => [[char]]

/-- The folder where a path starts. -/
def start (path : List Char) : Position :=
  if path.head? = some '/' then .root else .here

/-- The destination of a path. -/
def ofPath (path : String) : Destination :=
  if path.utf8ByteSize < pathBound then
    (start path.toList).walk ((steps path.toList).map String.ofList)
  else
    .nowhere

end Destination

end PsxPlayer
