import PsxPlayer.Instruction.Basic

namespace PsxPlayer

/-!
# Mnemonics

The assembler name of every instruction.
-/

def ShiftOp.mnemonic : ShiftOp → String
  | .left => "sll"
  | .rightLogical => "srl"
  | .rightArithmetic => "sra"

def AluOp.mnemonic : AluOp → String
  | .add => "add"
  | .addu => "addu"
  | .sub => "sub"
  | .subu => "subu"
  | .and => "and"
  | .or => "or"
  | .xor => "xor"
  | .nor => "nor"
  | .slt => "slt"
  | .sltu => "sltu"

def ImmediateOp.mnemonic : ImmediateOp → String
  | .addi => "addi"
  | .addiu => "addiu"
  | .slti => "slti"
  | .sltiu => "sltiu"
  | .andi => "andi"
  | .ori => "ori"
  | .xori => "xori"

def WideOp.mnemonic : WideOp → String
  | .mult => "mult"
  | .multu => "multu"
  | .div => "div"
  | .divu => "divu"

def BranchTest.mnemonic : BranchTest → String
  | .equal => "beq"
  | .notEqual => "bne"
  | .notPositive => "blez"
  | .positive => "bgtz"

def LoadOp.mnemonic : LoadOp → String
  | .signedByte => "lb"
  | .signedHalf => "lh"
  | .left => "lwl"
  | .word => "lw"
  | .byte => "lbu"
  | .half => "lhu"
  | .right => "lwr"

def StoreOp.mnemonic : StoreOp → String
  | .byte => "sb"
  | .half => "sh"
  | .left => "swl"
  | .word => "sw"
  | .right => "swr"

/-- The assembler name; a shift by a register adds a `v` to the shift's name. -/
def Instruction.mnemonic : Instruction → String
  | .shift op .. => op.mnemonic
  | .shiftVariable op .. => op.mnemonic ++ "v"
  | .alu op .. => op.mnemonic
  | .immediate op .. => op.mnemonic
  | .loadUpper .. => "lui"
  | .wide op .. => op.mnemonic
  | .moveFromHi .. => "mfhi"
  | .moveFromLo .. => "mflo"
  | .moveToHi .. => "mthi"
  | .moveToLo .. => "mtlo"
  | .jump .. => "j"
  | .jumpLink .. => "jal"
  | .jumpRegister .. => "jr"
  | .jumpLinkRegister .. => "jalr"
  | .branch test .. => test.mnemonic
  | .branchSign nonNegative link .. =>
      (if nonNegative then "bgez" else "bltz") ++ (if link then "al" else "")
  | .load op .. => op.mnemonic
  | .store op .. => op.mnemonic
  | .systemCall => "syscall"
  | .breakpoint => "break"
  | .moveFromSystem .. => "mfc0"
  | .moveToSystem .. => "mtc0"
  | .returnFromException => "rfe"
  | .geometry => "cop2"
  | .loadGeometry .. => "lwc2"
  | .storeGeometry .. => "swc2"
  | .trap .. => "hleTrap"
  | .unknown => "unknown"

end PsxPlayer
