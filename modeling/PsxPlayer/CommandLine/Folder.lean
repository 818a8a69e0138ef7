import PsxPlayer.CommandLine.Path
import PsxPlayer.CommandLine.Run

namespace PsxPlayer

/-!
# Folders

A host that is a value: one folder of files, without folders inside, and a list
of variables. A run in it is a function of the folder.

Paths lead from the folder. Outside of it nothing can be read but the devices that
are empty; a file created in another folder does not show in this one.
-/

/-- Files by name, in the order in which they were created. -/
structure Folder where
  files : List (String × ByteArray)

namespace Folder

/-- No files. -/
def empty : Folder := ⟨[]⟩

/-- Devices that hold nothing. -/
def emptyDevices : List String := ["null", "stdin"]

/-- The contents of a file. -/
def read? (folder : Folder) : Destination → Option ByteArray
  | .inside name => folder.files.lookup name
  | .device name => if emptyDevices.contains name then some ByteArray.empty else none
  | .outside | .nowhere => none

/-- Add a file, in place of one that has its name. -/
def put (folder : Folder) (name : String) (contents : ByteArray) : Folder :=
  ⟨folder.files.filter (·.1 != name) ++ [(name, contents)]⟩

/-- Write a file, which shows only if it is inside the folder. -/
def save (folder : Folder) (destination : Destination) (contents : ByteArray) : Folder :=
  match destination with
  | .inside name => folder.put name contents
  | .outside | .device _ | .nowhere => folder

/-- The folder into which files have been written one after the other. -/
def ofFiles (files : List (String × ByteArray)) : Folder :=
  files.foldl (fun folder (path, contents) => folder.save (.ofPath path) contents) empty

end Folder

/-- The host with a folder and an environment. -/
def Host.ofFolder (environment : List (String × String)) : Host (StateM Folder) where
  getVariable name := return environment.lookup name
  read path := return (← get).read? (.ofPath path)
  create path := do
    modify fun folder => folder.save (.ofPath path) ByteArray.empty
    return Destination.ofPath path != .nowhere
  write path contents := modify fun folder => folder.save (.ofPath path) contents

end PsxPlayer
