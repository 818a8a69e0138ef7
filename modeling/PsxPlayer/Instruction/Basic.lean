import PsxPlayer.Word

namespace PsxPlayer

/-!
# Instructions

The instructions of the R3000A with their operands, and `Instruction.ofWord`,
which reads them off a 32-bit word. The primary opcode sits in bits 31-26, the
register fields rs, rt and rd in bits 25-21, 20-16 and 15-11, and the function
field of register instructions in bits 5-0. Every word is an instruction: those
that the processor does not define are `unknown` and do nothing.
-/

/-- A general purpose register. -/
abbrev Reg := Fin 32

/-- Shift directions. -/
inductive ShiftOp where
  | left
  | rightLogical
  | rightArithmetic
  deriving DecidableEq, Repr

/-- Operations on two registers. -/
inductive AluOp where
  | add
  | addu
  | sub
  | subu
  | and
  | or
  | xor
  | nor
  | slt
  | sltu
  deriving DecidableEq, Repr

/-- Operations on a register and an immediate. -/
inductive ImmediateOp where
  | addi
  | addiu
  | slti
  | sltiu
  | andi
  | ori
  | xori
  deriving DecidableEq, Repr

/-- Operations whose result goes to HI and LO. -/
inductive WideOp where
  | mult
  | multu
  | div
  | divu
  deriving DecidableEq, Repr

/-- Conditions of the two-register branches and of the branches against zero. -/
inductive BranchTest where
  | equal
  | notEqual
  | notPositive
  | positive
  deriving DecidableEq, Repr

/-- Loads into a general purpose register. -/
inductive LoadOp where
  | signedByte
  | signedHalf
  | left
  | word
  | byte
  | half
  | right
  deriving DecidableEq, Repr

/-- Stores from a general purpose register. -/
inductive StoreOp where
  | byte
  | half
  | left
  | word
  | right
  deriving DecidableEq, Repr

/-- An instruction with its operands. -/
inductive Instruction where
  | shift (op : ShiftOp) (rd rt : Reg) (amount : UInt32)
  | shiftVariable (op : ShiftOp) (rd rt rs : Reg)
  | alu (op : AluOp) (rd rs rt : Reg)
  | immediate (op : ImmediateOp) (rt rs : Reg) (value : UInt32)
  | loadUpper (rt : Reg) (value : UInt32)
  | wide (op : WideOp) (rs rt : Reg)
  | moveFromHi (rd : Reg)
  | moveFromLo (rd : Reg)
  | moveToHi (rs : Reg)
  | moveToLo (rs : Reg)
  | jump (target : UInt32)
  | jumpLink (target : UInt32)
  | jumpRegister (rs : Reg)
  | jumpLinkRegister (rd rs : Reg)
  | branch (test : BranchTest) (rs rt : Reg) (offset : UInt32)
  | branchSign (nonNegative link : Bool) (rs : Reg) (offset : UInt32)
  | load (op : LoadOp) (rt base : Reg) (offset : UInt32)
  | store (op : StoreOp) (rt base : Reg) (offset : UInt32)
  | systemCall
  | breakpoint
  | moveFromSystem (rt rd : Reg)
  | moveToSystem (rt rd : Reg)
  | returnFromException
  | geometry
  | loadGeometry (base : Reg)
  | storeGeometry (base : Reg)
  | trap (code : UInt32)
  | unknown
  deriving DecidableEq, Repr

/-- The register field that starts at bit `shift`. -/
def regField (word shift : UInt32) : Reg :=
  Fin.ofNat 32 (word >>> shift).toNat

/-- The 16-bit immediate of a word. -/
def immediateField (word : UInt32) : UInt32 :=
  word &&& 0xFFFF

/-- The primary opcode of a word. -/
def opcodeField (word : UInt32) : UInt32 :=
  word >>> 26

/-- The 26-bit field of jumps and traps. -/
def targetField (word : UInt32) : UInt32 :=
  word &&& 0x03FFFFFF

/-- The primary opcode of the words that call into the firmware. -/
def trapOpcode : UInt32 := 0x3B

namespace Instruction

/-- The instruction of a word with primary opcode 0. -/
def ofSpecialWord (word : UInt32) : Instruction :=
  let rs := regField word 21
  let rt := regField word 16
  let rd := regField word 11
  let amount := (word >>> 6) &&& 0x1F
  match (word &&& 0x3F).toNat with
  | 0x00 => .shift .left rd rt amount
  | 0x02 => .shift .rightLogical rd rt amount
  | 0x03 => .shift .rightArithmetic rd rt amount
  | 0x04 => .shiftVariable .left rd rt rs
  | 0x06 => .shiftVariable .rightLogical rd rt rs
  | 0x07 => .shiftVariable .rightArithmetic rd rt rs
  | 0x08 => .jumpRegister rs
  | 0x09 => .jumpLinkRegister rd rs
  | 0x0C => .systemCall
  | 0x0D => .breakpoint
  | 0x10 => .moveFromHi rd
  | 0x11 => .moveToHi rs
  | 0x12 => .moveFromLo rd
  | 0x13 => .moveToLo rs
  | 0x18 => .wide .mult rs rt
  | 0x19 => .wide .multu rs rt
  | 0x1A => .wide .div rs rt
  | 0x1B => .wide .divu rs rt
  | 0x20 => .alu .add rd rs rt
  | 0x21 => .alu .addu rd rs rt
  | 0x22 => .alu .sub rd rs rt
  | 0x23 => .alu .subu rd rs rt
  | 0x24 => .alu .and rd rs rt
  | 0x25 => .alu .or rd rs rt
  | 0x26 => .alu .xor rd rs rt
  | 0x27 => .alu .nor rd rs rt
  | 0x2A => .alu .slt rd rs rt
  | 0x2B => .alu .sltu rd rs rt
  | _ => .unknown

/-- The instruction of a word with the system coprocessor's opcode. -/
def ofSystemWord (word : UInt32) : Instruction :=
  let rt := regField word 16
  let rd := regField word 11
  match (regField word 21).val with
  | 0x00 => .moveFromSystem rt rd
  | 0x04 => .moveToSystem rt rd
  | 0x10 => if word &&& 0x3F = 0x10 then .returnFromException else .unknown
  | _ => .unknown

/--
The instruction of a word with primary opcode 1. Bit 16 picks the condition, and
only the rt fields 0x10 and 0x11 link.
-/
def ofSignBranchWord (word : UInt32) : Instruction :=
  let nonNegative := (word >>> 16) &&& 1 == 1
  let link := (word >>> 16) &&& 0x1E == 0x10
  .branchSign nonNegative link (regField word 21) (immediateField word)

/-- The instruction of a word. -/
def ofWord (word : UInt32) : Instruction :=
  let rs := regField word 21
  let rt := regField word 16
  let value := immediateField word
  match (opcodeField word).toNat with
  | 0x00 => ofSpecialWord word
  | 0x01 => ofSignBranchWord word
  | 0x02 => .jump (targetField word)
  | 0x03 => .jumpLink (targetField word)
  | 0x04 => .branch .equal rs rt value
  | 0x05 => .branch .notEqual rs rt value
  | 0x06 => .branch .notPositive rs rt value
  | 0x07 => .branch .positive rs rt value
  | 0x08 => .immediate .addi rt rs value
  | 0x09 => .immediate .addiu rt rs value
  | 0x0A => .immediate .slti rt rs value
  | 0x0B => .immediate .sltiu rt rs value
  | 0x0C => .immediate .andi rt rs value
  | 0x0D => .immediate .ori rt rs value
  | 0x0E => .immediate .xori rt rs value
  | 0x0F => .loadUpper rt value
  | 0x10 => ofSystemWord word
  | 0x12 => .geometry
  | 0x20 => .load .signedByte rt rs value
  | 0x21 => .load .signedHalf rt rs value
  | 0x22 => .load .left rt rs value
  | 0x23 => .load .word rt rs value
  | 0x24 => .load .byte rt rs value
  | 0x25 => .load .half rt rs value
  | 0x26 => .load .right rt rs value
  | 0x28 => .store .byte rt rs value
  | 0x29 => .store .half rt rs value
  | 0x2A => .store .left rt rs value
  | 0x2B => .store .word rt rs value
  | 0x2E => .store .right rt rs value
  | 0x32 => .loadGeometry rs
  | 0x3A => .storeGeometry rs
  | 0x3B => .trap (targetField word)
  | _ => .unknown

/-- Whether the instruction loads a general purpose register. -/
def isLoad : Instruction → Bool
  | .load .. => true
  | _ => false

/-- Whether the instruction may transfer control to another address by itself. -/
def isTransfer : Instruction → Bool
  | .jump .. | .jumpLink .. | .jumpRegister .. | .jumpLinkRegister ..
  | .branch .. | .branchSign .. => true
  | _ => false

end Instruction

end PsxPlayer
