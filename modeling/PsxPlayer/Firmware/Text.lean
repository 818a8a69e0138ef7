import PsxPlayer.Cpu.Machine
import PsxPlayer.Text.Utf8

namespace PsxPlayer

/-!
# Guest text

Text in guest memory ends before the first NUL. `Format.render` fills in the
arguments of a format: `%d %i %u %x %X %c %s` each take one, `%%` is a percent
sign, and a percent sign before anything else stands for itself.
-/

/-- The most bytes that are read of a text. -/
def textLimit : Nat := 0x10000

/-- The most bytes that are printed of a line. -/
def lineLimit : Nat := 1024

/-- Append the bytes from `address` up to a NUL, `limit` at most. -/
def appendText (bus : Bus) (address : UInt32) : Nat → ByteArray → ByteArray
  | 0, found => found
  | limit + 1, found =>
      let byte := bus.readByte address
      if byte = 0 then found else appendText bus (address + 1) limit (found.push byte)

/-- The bytes of the text at `address`. -/
def textAt (bus : Bus) (address : UInt32) (limit : Nat) : ByteArray :=
  appendText bus address limit ByteArray.empty

/-- The character with the number of a byte. -/
def byteChar (byte : UInt8) : Char :=
  Char.ofNat byte.toNat

namespace Format

/-- The ways to show an argument. -/
inductive Directive where
  | signedDecimal
  | decimal
  | lowerHex
  | upperHex
  | char
  | text
  deriving DecidableEq, Repr

/-- The directive that a byte behind a percent sign names. -/
def Directive.ofByte? (byte : UInt8) : Option Directive :=
  match byteChar byte with
  | 'd' | 'i' => some .signedDecimal
  | 'u' => some .decimal
  | 'x' => some .lowerHex
  | 'X' => some .upperHex
  | 'c' => some .char
  | 's' => some .text
  | _ => none

/-- A percent sign. -/
def percent : UInt8 := 0x25

/-- The text of an argument; `%s` follows it to a text in memory. -/
def Directive.display (bus : Bus) (directive : Directive) (value : UInt32) : String :=
  match directive with
  | .signedDecimal => toString (signed value)
  | .decimal => toString value.toNat
  | .lowerHex => String.ofList (Nat.toDigits 16 value.toNat)
  | .upperHex => hexUpper 0 value.toNat
  | .char => String.singleton (byteChar value.toUInt8)
  | .text => Utf8.decodeLossy (textAt bus value textLimit)

/--
Append a format with its arguments filled in; `next` is the number of the
argument that comes next.
-/
def append
    (display : Directive → UInt32 → String)
    (argument : Nat → UInt32) :
    List UInt8 → Nat → String → String
  | [], _, out => out
  | byte :: rest, next, out =>
      if byte ≠ percent then
        append display argument rest next (out.push (byteChar byte))
      else
        match rest with
        | [] => out.push '%'
        | kind :: rest =>
            match Directive.ofByte? kind with
            | some directive =>
                append display argument rest (next + 1)
                  (out ++ display directive (argument next))
            | none =>
                if kind = percent then
                  append display argument rest next (out.push '%')
                else
                  append display argument rest next ((out.push '%').push (byteChar kind))

/-- Argument `index` of a call with many arguments: a0 to a3, then the stack. -/
def argumentOf (bus : Bus) (registers : Registers) (index : Nat) : UInt32 :=
  if index < 4 then
    registers.get (Fin.ofNat 32 (Reg.a0.val + index))
  else
    bus.read .word (registers.get Reg.sp + 4 * UInt32.ofNat index)

/-- The text of a call whose first argument is a format. -/
def render (bus : Bus) (registers : Registers) : String :=
  append (Directive.display bus) (argumentOf bus registers)
    (textAt bus (registers.get Reg.a0) textLimit).toList 1 ""

end Format

/-- A text without the ends of line at its end. -/
def withoutLineEnds (text : String) : String :=
  String.ofList (text.toList.reverse.dropWhile (· == '\n')).reverse

end PsxPlayer
