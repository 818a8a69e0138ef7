import PsxPlayer.Instruction.Hazard

namespace PsxPlayer

/-!
# Registers

The general purpose registers, of which register 0 always reads as zero, with
HI, LO and the program counter; and the names that the calling convention gives
to some of them.
-/

/-- The registers of the processor. -/
structure Registers where
  general : Vector UInt32 32
  hi : UInt32
  lo : UInt32
  /-- Address of the next instruction. -/
  pc : UInt32
  deriving DecidableEq, Repr

namespace Reg

/-- First result. -/
def v0 : Reg := 2

/-- First argument. -/
def a0 : Reg := 4

/-- Second argument. -/
def a1 : Reg := 5

/-- Third argument. -/
def a2 : Reg := 6

/-- Fourth argument. -/
def a3 : Reg := 7

/-- Temporary that carries the number of a firmware function. -/
def t1 : Reg := 9

/-- Global pointer. -/
def gp : Reg := 28

/-- Stack pointer. -/
def sp : Reg := 29

/-- Frame pointer. -/
def fp : Reg := 30

/-- Return address. -/
def ra : Reg := linkRegister

/-- The registers that a function preserves, apart from the pointers. -/
def saved : List Reg := [16, 17, 18, 19, 20, 21, 22, 23]

end Reg

namespace Registers

/-- The first instruction after power-on. -/
def resetVector : UInt32 := 0xBFC00000

/-- All registers zero, at the reset vector. -/
def initial : Registers where
  general := Vector.replicate 32 0
  hi := 0
  lo := 0
  pc := resetVector

/-- The value of a general purpose register. -/
def get (registers : Registers) (register : Reg) : UInt32 :=
  if register = 0 then 0 else registers.general[register]

/-- Write a general purpose register; register 0 cannot be written. -/
def set (registers : Registers) (register : Reg) (value : UInt32) : Registers :=
  if register = 0 then
    registers
  else
    { registers with general := registers.general.set register value }

/-- Register 0 reads as zero. -/
@[simp]
theorem get_zero (registers : Registers) : registers.get 0 = 0 := by
  simp [get]

/-- A register other than 0 reads back what was written to it. -/
theorem get_set_self (registers : Registers) {register : Reg} (nonzero : register ≠ 0)
    (value : UInt32) :
    (registers.set register value).get register = value := by
  simp [get, set, nonzero]

/-- Writing a register leaves the others alone. -/
theorem get_set_of_ne (registers : Registers) {target other : Reg} (differs : target ≠ other)
    (value : UInt32) :
    (registers.set target value).get other = registers.get other := by
  unfold get set
  split
  · rfl
  · split
    · rfl
    · exact Vector.getElem_set_ne target.isLt other.isLt fun same => differs (Fin.ext same)

/-- Writing a register leaves the program counter alone. -/
@[simp]
theorem pc_set (registers : Registers) (register : Reg) (value : UInt32) :
    (registers.set register value).pc = registers.pc := by
  unfold set
  split <;> rfl

/-- The register with a number: 0-31 general, 32 HI, 33 LO, 34 the program counter. -/
def getNumbered (registers : Registers) (number : Nat) : UInt32 :=
  if h : number < 32 then registers.get ⟨number, h⟩
  else if number = 32 then registers.hi
  else if number = 33 then registers.lo
  else registers.pc

/-- Write the register with a number. -/
def setNumbered (registers : Registers) (number : Nat) (value : UInt32) : Registers :=
  if h : number < 32 then registers.set ⟨number, h⟩ value
  else if number = 32 then { registers with hi := value }
  else if number = 33 then { registers with lo := value }
  else { registers with pc := value }

end Registers

end PsxPlayer
