import PsxPlayer.Fault
import PsxPlayer.Memory.Space
import PsxPlayer.Text.Utf8

namespace PsxPlayer

/-!
# Executables

A program file is a header of 2048 bytes, followed by the text that is copied
into memory.

```text
0x000  "PS-X EXE"
0x010  entry point, global pointer, load address, size of the text
0x030  stack address and an offset to it
0x04C  region marker, up to a NUL
0x800  text
```
-/

/-- A program ready to be loaded. -/
structure Executable where
  /-- Entry point. -/
  entry : UInt32
  globalPointer : UInt32
  stackPointer : UInt32
  loadAddress : UInt32
  text : ByteArray
  /-- The frame rate of the region that the program was made for, if it says so. -/
  vsyncRate? : Option Nat

namespace Executable

/-- Bytes of the header. -/
def headerSize : Nat := 0x800

/-- The bytes that every program file starts with. -/
def magic : List UInt8 :=
  [0x50, 0x53, 0x2D, 0x58, 0x20, 0x45, 0x58, 0x45]

/-- The stack pointer of a program that names none. -/
def defaultStack : UInt32 := 0x801FFFF0

/-- Whether `part` stands somewhere in `text`. -/
def occursIn (part : List Char) : List Char → Bool
  | [] => part.isEmpty
  | char :: rest => part.isPrefixOf (char :: rest) || occursIn part rest

/-- The frame rate that a region marker implies: 50 in Europe, 60 elsewhere. -/
def regionRate? (marker : String) : Option Nat :=
  let names := fun (part : String) => occursIn part.toList marker.toList
  if names "Europe" then some 50
  else if names "North America" || names "Japan" then some 60
  else none

/-- The region marker of a file. -/
def regionMarker (file : ByteArray) : String :=
  let bytes := (file.extract 0x4C headerSize).toList
  Utf8.decodeLossy ⟨(bytes.takeWhile (· != 0)).toArray⟩

/-- The stack pointer of a file. -/
def stackPointerOf (file : ByteArray) : UInt32 :=
  let stack := getLittle file 0x30 .word + getLittle file 0x34 .word
  if stack = 0 then defaultStack else stack

/--
Read a program file. A text shorter than the header says is taken as it is, and
bytes behind the text are left out.
-/
def parse (file : ByteArray) : Except Fault Executable :=
  if file.size < headerSize then
    .error (.imageTooShort file.size)
  else if (file.extract 0 magic.length).toList ≠ magic then
    .error .missingMagic
  else
    let size := (getLittle file 0x1C .word).toNat
    .ok
      { entry := getLittle file 0x10 .word
        globalPointer := getLittle file 0x14 .word
        stackPointer := stackPointerOf file
        loadAddress := getLittle file 0x18 .word
        text := file.extract headerSize (headerSize + size)
        vsyncRate? := regionRate? (regionMarker file) }

end Executable

end PsxPlayer
