namespace PsxPlayer

/-!
# Lossy text

Bytes read as UTF-8. Where they are no text, each longest beginning of a
character that goes no further becomes one replacement character, as the Unicode
standard recommends.
-/

namespace Utf8

/-- U+FFFD. -/
def replacement : Char := '\uFFFD'

/-- Whether a byte continues a character. -/
def isContinuation (byte : UInt8) : Bool :=
  0x80 ≤ byte && byte ≤ 0xBF

/-- The second bytes that may follow a first byte of a three-byte character. -/
def isSecondOfThree (first second : UInt8) : Bool :=
  if first = 0xE0 then 0xA0 ≤ second && second ≤ 0xBF
  else if first = 0xED then 0x80 ≤ second && second ≤ 0x9F
  else isContinuation second

/-- The second bytes that may follow a first byte of a four-byte character. -/
def isSecondOfFour (first second : UInt8) : Bool :=
  if first = 0xF0 then 0x90 ≤ second && second ≤ 0xBF
  else if first = 0xF4 then 0x80 ≤ second && second ≤ 0x8F
  else isContinuation second

/-- The low six bits of a byte. -/
def payload (byte : UInt8) : Nat :=
  byte.toNat % 64

/-- The number of bytes that a first byte announces; 0 when it begins nothing. -/
def announced (first : UInt8) : Nat :=
  if first < 0x80 then 1
  else if 0xC2 ≤ first && first ≤ 0xDF then 2
  else if 0xE0 ≤ first && first ≤ 0xEF then 3
  else if 0xF0 ≤ first && first ≤ 0xF4 then 4
  else 0

/-- A character and the number of bytes it takes up. -/
structure Piece where
  char : Char
  width : Nat
  valid : Bool
  deriving DecidableEq, Repr

/-- A replacement for `width` bytes. -/
def broken (width : Nat) : Piece := ⟨replacement, width, false⟩

/-- The first piece of a text that starts with `first`. -/
def piece (first : UInt8) (rest : List UInt8) : Piece :=
  match announced first, rest with
  | 1, _ => ⟨Char.ofNat first.toNat, 1, true⟩
  | 2, second :: _ =>
      if isContinuation second then
        ⟨Char.ofNat (first.toNat % 32 * 64 + payload second), 2, true⟩
      else broken 1
  | 3, second :: tail =>
      if isSecondOfThree first second then
        match tail with
        | third :: _ =>
            if isContinuation third then
              ⟨Char.ofNat (first.toNat % 16 * 4096 + payload second * 64 + payload third),
                3, true⟩
            else broken 2
        | [] => broken 2
      else broken 1
  | 4, second :: tail =>
      if isSecondOfFour first second then
        match tail with
        | third :: tail =>
            if isContinuation third then
              match tail with
              | fourth :: _ =>
                  if isContinuation fourth then
                    ⟨Char.ofNat
                        (first.toNat % 8 * 262144 + payload second * 4096 +
                          payload third * 64 + payload fourth),
                      4, true⟩
                  else broken 3
              | [] => broken 3
            else broken 2
        | [] => broken 2
      else broken 1
  | _, _ => broken 1

/-- The pieces of a text; `fuel` is at least the number of bytes. -/
def pieces : Nat → List UInt8 → List Piece
  | _, [] => []
  | 0, _ :: _ => []
  | fuel + 1, first :: rest =>
      let found := piece first rest
      found :: pieces fuel (rest.drop (found.width - 1))

/-- The text of some bytes, with replacement characters where they are none. -/
def decodeLossy (bytes : ByteArray) : String :=
  let list := bytes.toList
  String.ofList ((pieces list.length list).map Piece.char)

/-- The text of some bytes, if they are text. -/
def decode? (bytes : ByteArray) : Option String :=
  let list := bytes.toList
  let found := pieces list.length list
  if found.all Piece.valid then
    some (String.ofList (found.map Piece.char))
  else
    none

end Utf8

end PsxPlayer
