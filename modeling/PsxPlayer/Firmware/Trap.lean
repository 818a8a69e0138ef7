import PsxPlayer.Instruction.Basic
import PsxPlayer.Memory.Space

namespace PsxPlayer

/-!
# Firmware traps

No ROM code runs. Instead, words with an opcode that the processor does not
define stand at the exception vectors and at the entries of the library tables;
executing one calls the firmware. `Trap.plant` puts them there.
-/

/-- The firmware entries. -/
inductive Trap where
  | exception
  | tableA
  | tableB
  | tableC
  /-- Where a handler called by the firmware returns to. -/
  | callReturn
  deriving DecidableEq, Repr

namespace Trap

/-- The number of an entry. -/
def code : Trap → UInt32
  | .exception => 0
  | .tableA => 1
  | .tableB => 2
  | .tableC => 3
  | .callReturn => 4

/-- The word that calls an entry. -/
def word (trap : Trap) : UInt32 :=
  (trapOpcode <<< 26) ||| trap.code

/-- The entry with a number. -/
def ofCode? (code : UInt32) : Option Trap :=
  [.exception, .tableA, .tableB, .tableC, .callReturn].find? fun trap => trap.code == code

/-- The entry that a word calls, whatever its opcode. -/
def ofWord? (word : UInt32) : Option Trap :=
  ofCode? (targetField word)

/-- Where a handler called by the firmware returns to. -/
def returnAddress : UInt32 := 0x80001000

/-- The ROM: zeros up to the exception vector. -/
def romImage : ByteArray :=
  zeroBytes 0x180 ++ littleBytes Trap.exception.word .word

/--
The words planted in RAM: an idle loop at the start, and the traps at the
exception vector, at the three library tables and where handlers return to.
-/
def planted : List (UInt32 × UInt32) :=
  [(0x80000000, 0x08000000), (0x80000004, 0), (0x80000080, Trap.exception.word),
    (0x800000A0, Trap.tableA.word), (0x800000B0, Trap.tableB.word),
    (0x800000C0, Trap.tableC.word), (returnAddress, Trap.callReturn.word)]

/-- Replace the ROM by zeros with a trap at the exception vector. -/
def plantRom (space : AddressSpace) : AddressSpace :=
  { space with rom := overwrite (zeroBytes Region.rom.size) 0 romImage }

/-- Plant the traps in the ROM and in RAM. -/
def plant (space : AddressSpace) : AddressSpace :=
  planted.foldl (fun space (address, word) => space.write .word address word) (plantRom space)

end Trap

end PsxPlayer
