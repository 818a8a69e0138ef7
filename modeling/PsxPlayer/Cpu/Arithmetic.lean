import PsxPlayer.Instruction.Basic

namespace PsxPlayer

/-!
# Arithmetic

What the register instructions compute. Sums and differences that trap have no
result when the signed value does not fit a word; a division by zero has fixed
results instead of trapping.
-/

namespace ShiftOp

/-- Shift a word by `amount` modulo 32. -/
def apply (op : ShiftOp) (value amount : UInt32) : UInt32 :=
  let amount := amount &&& 0x1F
  match op with
  | .left => value <<< amount
  | .rightLogical => value >>> amount
  | .rightArithmetic => (value.toInt32 >>> amount.toInt32).toUInt32

end ShiftOp

/-- The word with a signed value, if there is one. -/
def wordOf? (value : Int) : Option UInt32 :=
  if fits32 value then some (wordOfInt value) else none

namespace AluOp

/-- The result of an operation on two registers, or nothing on signed overflow. -/
def compute? (op : AluOp) (left right : UInt32) : Option UInt32 :=
  match op with
  | .add => wordOf? (signed left + signed right)
  | .addu => some (left + right)
  | .sub => wordOf? (signed left - signed right)
  | .subu => some (left - right)
  | .and => some (left &&& right)
  | .or => some (left ||| right)
  | .xor => some (left ^^^ right)
  | .nor => some (~~~(left ||| right))
  | .slt => some (flagWord (signed left < signed right))
  | .sltu => some (flagWord (left < right))

end AluOp

namespace ImmediateOp

/--
The result of an operation on a register and a 16-bit immediate, or nothing on
signed overflow. The logical operations extend the immediate with zeros, the
others with its sign.
-/
def compute? (op : ImmediateOp) (left value : UInt32) : Option UInt32 :=
  match op with
  | .addi => AluOp.add.compute? left (signExtend16 value)
  | .addiu => AluOp.addu.compute? left (signExtend16 value)
  | .slti => AluOp.slt.compute? left (signExtend16 value)
  | .sltiu => AluOp.sltu.compute? left (signExtend16 value)
  | .andi => AluOp.and.compute? left value
  | .ori => AluOp.or.compute? left value
  | .xori => AluOp.xor.compute? left value

end ImmediateOp

/-- The contents of HI and LO. -/
structure WideResult where
  hi : UInt32
  lo : UInt32
  deriving DecidableEq, Repr

namespace WideOp

/-- A 64-bit product split into words. -/
def ofProduct (product : Int) : WideResult where
  hi := wordOfInt (product / 4294967296)
  lo := wordOfInt product

/--
Signed division toward zero: LO is the quotient and HI the remainder. Division
by zero leaves the dividend in HI, and -1 or, for a negative dividend, 1 in LO;
the one quotient that does not fit wraps.
-/
def divideSigned (dividend divisor : UInt32) : WideResult :=
  if divisor = 0 then
    ⟨dividend, if 0 ≤ signed dividend then 0xFFFFFFFF else 1⟩
  else
    ⟨wordOfInt ((signed dividend).tmod (signed divisor)),
      wordOfInt ((signed dividend).tdiv (signed divisor))⟩

/-- Unsigned division; by zero it leaves the dividend in HI and all ones in LO. -/
def divideUnsigned (dividend divisor : UInt32) : WideResult :=
  if divisor = 0 then
    ⟨dividend, 0xFFFFFFFF⟩
  else
    ⟨dividend % divisor, dividend / divisor⟩

/-- The result of a multiplication or division. -/
def apply (op : WideOp) (left right : UInt32) : WideResult :=
  match op with
  | .mult => ofProduct (signed left * signed right)
  | .multu => ofProduct (Int.ofNat left.toNat * Int.ofNat right.toNat)
  | .div => divideSigned left right
  | .divu => divideUnsigned left right

end WideOp

namespace BranchTest

/-- Whether a branch is taken; the tests against zero look at the first register. -/
def holds (test : BranchTest) (left right : UInt32) : Bool :=
  match test with
  | .equal => left == right
  | .notEqual => left != right
  | .notPositive => signed left ≤ 0
  | .positive => 0 < signed left

end BranchTest

end PsxPlayer
