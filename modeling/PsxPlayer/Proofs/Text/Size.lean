import Mathlib.Algebra.GroupWithZero.Nat
import Mathlib.Data.Nat.Log
import Mathlib.Data.String.Basic
import PsxPlayer.Fault
import PsxPlayer.Text.Utf8

namespace PsxPlayer

/-!
# How long a text is

The size of a text is counted in the bytes of its encoding.  ASCII takes one for each character,
and so does a numeral.  Bytes that are read as text take as many again, except where they are none:
a replacement character takes three bytes and may stand for fewer.
-/

/-! ## Characters -/

theorem utf8Size_eq (char : Char) :
    char.utf8Size =
      if char.toNat < 0x80 then 1
      else if char.toNat < 0x800 then 2
      else if char.toNat < 0x10000 then 3
      else 4 := by
  have below (bound : Nat) : char.toNat < bound + 1 ↔ char.toNat ≤ bound := Nat.lt_succ_iff
  simp only [Char.utf8Size, UInt32.le_iff_toNat_le]
  exact
    (if_congr (below 0x7F) rfl (if_congr (below 0x7FF) rfl (if_congr (below 0xFFFF) rfl rfl))).symm

theorem toNat_ofNat {number : Nat} (valid : number.isValidChar) :
    (Char.ofNat number).toNat = number := by
  rw [Char.ofNat, dif_pos valid]
  rfl

/-- The size of the character with a number. -/
theorem utf8Size_ofNat {number : Nat} (valid : number.isValidChar) :
    (Char.ofNat number).utf8Size =
      if number < 0x80 then 1
      else if number < 0x800 then 2
      else if number < 0x10000 then 3
      else 4 := by
  rw [utf8Size_eq, toNat_ofNat valid]

/-- The character of a byte takes two bytes unless it is ASCII. -/
theorem utf8Size_byte (byte : UInt8) :
    (Char.ofNat byte.toNat).utf8Size = if byte < 0x80 then 1 else 2 := by
  have small := byte.toNat_lt
  have ascii : byte < 0x80 ↔ byte.toNat < 0x80 := UInt8.lt_iff_toNat_lt
  rw [utf8Size_ofNat (.inl (by omega)), if_congr ascii rfl rfl]
  split
  · rfl
  · rw [if_pos (by omega)]

/-- A text of ASCII takes one byte for each character. -/
theorem utf8Len_of_ascii
    {chars : List Char}
    (ascii : ∀ char ∈ chars, char.utf8Size = 1) :
    String.utf8Len chars = chars.length := by
  induction chars with
  | nil => rfl
  | cons first rest inductionHypothesis =>
      rw [String.utf8Len_cons, inductionHypothesis fun char member => ascii char (.tail _ member),
        ascii first (.head _), List.length_cons]

/-! ## Numerals -/

section

variable {base : Nat} (isBase : 1 < base)

include isBase

theorem exists_digit_of_mem_toDigits
    {number : Nat}
    {char : Char}
    (member : char ∈ Nat.toDigits base number) :
    ∃ digit, digit < base ∧ char = digit.digitChar := by
  induction number using Nat.strongRecOn with
  | ind number inductionHypothesis =>
      rw [Nat.toDigits_eq_if isBase] at member
      split at member
      · next small => exact ⟨number, small, List.mem_singleton.mp member⟩
      · next large =>
          have smaller : number / base < number := Nat.div_lt_self (by omega) isBase
          obtain inRest | isLast := List.mem_append.mp member
          · exact inductionHypothesis _ smaller inRest
          · exact
              ⟨number % base, Nat.mod_lt _ (by omega), List.mem_singleton.mp isLast⟩

/-- A number has one digit more than its logarithm. -/
theorem length_toDigits (number : Nat) :
    (Nat.toDigits base number).length = Nat.log base number + 1 := by
  induction number using Nat.strongRecOn with
  | ind number inductionHypothesis =>
      rw [Nat.toDigits_eq_if isBase]
      split
      · next small => rw [Nat.log_of_lt small, List.length_singleton]
      · next large =>
          have reaches := Nat.le_of_not_lt large
          have smaller : number / base < number := Nat.div_lt_self (by omega) isBase
          rw [List.length_append, inductionHypothesis _ smaller, List.length_singleton,
            Nat.log_of_one_lt_of_le isBase reaches]

end

/-- Digits are ASCII, in capitals as well. -/
theorem utf8Size_digitChar :
    ∀ digit < 16,
      digit.digitChar.utf8Size = 1 ∧ digit.digitChar.toUpper.utf8Size = 1 := by
  decide

theorem utf8ByteSize_toDigits
    {base : Nat}
    (isBase : 1 < base)
    (inHex : base ≤ 16)
    (number : Nat) :
    (String.ofList (Nat.toDigits base number)).utf8ByteSize = Nat.log base number + 1 := by
  rw [String.utf8ByteSize_ofList, utf8Len_of_ascii, length_toDigits isBase]
  intro char member
  obtain ⟨digit, small, rfl⟩ := exists_digit_of_mem_toDigits isBase member
  exact (utf8Size_digitChar digit (Nat.lt_of_lt_of_le small inHex)).1

theorem utf8ByteSize_hexUpper (number : Nat) :
    (hexUpper 0 number).utf8ByteSize = Nat.log 16 number + 1 := by
  have isBase : 1 < 16 := by decide
  have isHex :
      hexUpper 0 number = String.ofList ((Nat.toDigits 16 number).map Char.toUpper) := by
    rw [hexUpper, Nat.zero_sub, List.replicate_zero, List.nil_append]
  rw [isHex, String.utf8ByteSize_ofList, utf8Len_of_ascii, List.length_map, length_toDigits isBase]
  intro char member
  obtain ⟨lower, isDigit, rfl⟩ := List.mem_map.mp member
  obtain ⟨digit, small, rfl⟩ := exists_digit_of_mem_toDigits isBase isDigit
  exact (utf8Size_digitChar digit small).2

theorem utf8ByteSize_toString (number : Nat) :
    (toString number).utf8ByteSize = Nat.log 10 number + 1 := by
  have isDecimal : toString number = String.ofList (Nat.toDigits 10 number) :=
    Nat.repr_eq_ofList_toDigits
  rw [isDecimal]
  exact utf8ByteSize_toDigits (by decide) (by decide) number

/-- A negative number has a sign before its digits. -/
theorem utf8ByteSize_toString_int (number : Int) :
    (toString number).utf8ByteSize =
      (decide (number < 0)).toNat + (Nat.log 10 number.natAbs + 1) := by
  cases number with
  | ofNat magnitude =>
      have noSign : ¬ Int.ofNat magnitude < 0 := Int.not_lt.mpr (Int.natCast_nonneg magnitude)
      rw [decide_eq_false noSign, Bool.toNat_false, Nat.zero_add]
      exact utf8ByteSize_toString magnitude
  | negSucc before =>
      have sign : toString (Int.negSucc before) = "-" ++ toString (before + 1) := rfl
      rw [sign, String.utf8ByteSize_append, decide_eq_true (Int.negSucc_lt_zero before),
        utf8ByteSize_toString]
      rfl

/-! ## Bytes read as text -/

namespace Utf8

/-- How much more room a piece takes up in a text than in the bytes it was read from. -/
def Piece.surplus (piece : Piece) : Nat :=
  if piece.valid then 0 else 3 - piece.width

/-- A piece of some bytes that it has been read from. -/
structure Piece.Fits (piece : Piece) (bytes : List UInt8) : Prop where
  width_pos : 0 < piece.width
  width_le : piece.width ≤ bytes.length
  size : piece.char.utf8Size = piece.width + piece.surplus

theorem fits_broken
    {width : Nat}
    {bytes : List UInt8}
    (width_pos : 0 < width)
    (width_le : width ≤ bytes.length)
    (small : width ≤ 3) :
    (broken width).Fits bytes where
  width_pos := width_pos
  width_le := width_le
  size := by
    have size : replacement.utf8Size = 3 := by decide
    simp only [broken, size, Piece.surplus, Bool.false_eq_true, if_false]
    omega

theorem fits_valid
    {char : Char}
    {width : Nat}
    {bytes : List UInt8}
    (width_pos : 0 < width)
    (width_le : width ≤ bytes.length)
    (size : char.utf8Size = width) :
    Piece.Fits ⟨char, width, true⟩ bytes :=
  ⟨width_pos, width_le, size⟩

/-- Where the first byte of a character lies, by the width that it announces. -/
theorem range_of_announced (first : UInt8) :
    match announced first with
    | 1 => first.toNat < 0x80
    | 2 => 0xC2 ≤ first.toNat ∧ first.toNat ≤ 0xDF
    | 3 => 0xE0 ≤ first.toNat ∧ first.toNat ≤ 0xEF
    | 4 => 0xF0 ≤ first.toNat ∧ first.toNat ≤ 0xF4
    | _ => True := by
  simp only [announced, Bool.and_eq_true, decide_eq_true_eq, UInt8.lt_iff_toNat_lt,
    UInt8.le_iff_toNat_le]
  grind

theorem range_of_isContinuation {byte : UInt8} (continues : isContinuation byte = true) :
    0x80 ≤ byte.toNat ∧ byte.toNat ≤ 0xBF := by
  simp only [isContinuation, Bool.and_eq_true, decide_eq_true_eq, UInt8.le_iff_toNat_le]
    at continues
  exact continues

theorem range_of_isSecondOfThree
    {first second : UInt8}
    (goesOn : isSecondOfThree first second = true) :
    0x80 ≤ second.toNat ∧
      second.toNat ≤ 0xBF ∧
      (first.toNat = 0xE0 → 0xA0 ≤ second.toNat) ∧
      (first.toNat = 0xED → second.toNat ≤ 0x9F) := by
  simp only [isSecondOfThree, isContinuation, UInt8.le_iff_toNat_le, ← UInt8.toNat_inj]
    at goesOn
  grind

theorem range_of_isSecondOfFour
    {first second : UInt8}
    (goesOn : isSecondOfFour first second = true) :
    0x80 ≤ second.toNat ∧
      second.toNat ≤ 0xBF ∧
      (first.toNat = 0xF0 → 0x90 ≤ second.toNat) ∧
      (first.toNat = 0xF4 → second.toNat ≤ 0x8F) := by
  simp only [isSecondOfFour, isContinuation, UInt8.le_iff_toNat_le, ← UInt8.toNat_inj]
    at goesOn
  grind

/-- A piece of a text begins with bytes of it, and is as long as they are but for its surplus. -/
theorem fits_piece (first : UInt8) (rest : List UInt8) :
    (piece first rest).Fits (first :: rest) := by
  have range := range_of_announced first
  fun_cases piece first rest
  case case1 announces =>
    simp only [announces] at range
    refine fits_valid (by decide) (by simp) ?_
    rw [utf8Size_ofNat (.inl (by omega)), if_pos range]
  case case2 second tail announces continues =>
    simp only [announces] at range
    have secondRange := range_of_isContinuation continues
    refine fits_valid (by decide) (by simp) ?_
    rw [payload, utf8Size_ofNat (.inl (by omega)), if_neg (by omega), if_pos (by omega)]
  case case4 second announces goesOn third tail continues =>
    simp only [announces] at range
    have secondRange := range_of_isSecondOfThree goesOn
    have thirdRange := range_of_isContinuation continues
    refine fits_valid (by decide) (by simp) ?_
    rw [payload, payload, utf8Size_ofNat, if_neg (by omega), if_neg (by omega),
      if_pos (by omega)]
    simp only [Nat.isValidChar]
    omega
  case case8 second announces goesOn third continues fourth tail ends =>
    simp only [announces] at range
    have secondRange := range_of_isSecondOfFour goesOn
    have thirdRange := range_of_isContinuation continues
    have fourthRange := range_of_isContinuation ends
    refine fits_valid (by decide) (by simp) ?_
    rw [payload, payload, payload, utf8Size_ofNat, if_neg (by omega), if_neg (by omega),
      if_neg (by omega)]
    simp only [Nat.isValidChar]
    omega
  all_goals exact fits_broken (by decide) (by simp) (by decide)

/-- How much more room bytes take up as a text, with all their replacement characters. -/
def surplus (bytes : List UInt8) : Nat :=
  ((pieces bytes.length bytes).map Piece.surplus).sum

/-- The pieces of a text take up as much room as its bytes but for their surplus. -/
theorem utf8Len_pieces
    {fuel : Nat}
    {bytes : List UInt8}
    (enough : bytes.length ≤ fuel) :
    String.utf8Len ((pieces fuel bytes).map Piece.char) =
      bytes.length + ((pieces fuel bytes).map Piece.surplus).sum := by
  fun_induction pieces fuel bytes with
  | case1 => rfl
  | case2 first rest => cases enough
  | case3 fuel first rest found inductionHypothesis =>
      have fits : found.Fits (first :: rest) := fits_piece first rest
      have width_pos := fits.width_pos
      have width_le := fits.width_le
      have remaining : (rest.drop (found.width - 1)).length + found.width = rest.length + 1 := by
        rw [List.length_cons] at width_le
        rw [List.length_drop]
        omega
      rw [List.length_cons] at enough
      rw [List.map_cons, List.map_cons, String.utf8Len_cons, List.sum_cons,
        inductionHypothesis (by omega), fits.size, List.length_cons]
      omega

theorem utf8ByteSize_decodeLossy (bytes : ByteArray) :
    (decodeLossy bytes).utf8ByteSize = bytes.toList.length + surplus bytes.toList := by
  rw [decodeLossy, String.utf8ByteSize_ofList]
  exact utf8Len_pieces (Nat.le_refl _)

theorem piece_of_ascii
    {first : UInt8}
    (ascii : first < 0x80)
    (rest : List UInt8) :
    piece first rest = ⟨Char.ofNat first.toNat, 1, true⟩ := by
  have announces : announced first = 1 := if_pos ascii
  simp only [piece, announces]

/-- ASCII is text as it is. -/
theorem surplus_of_ascii
    {bytes : List UInt8}
    (ascii : ∀ byte ∈ bytes, byte < 0x80) :
    surplus bytes = 0 := by
  rw [surplus]
  generalize bytes.length = fuel
  fun_induction pieces fuel bytes with
  | case1 => rfl
  | case2 => rfl
  | case3 fuel first rest found inductionHypothesis =>
      have isFirst : found = _ := piece_of_ascii (ascii first (.head _)) rest
      rw [List.map_cons, List.sum_cons, inductionHypothesis]
      · rw [isFirst]
        rfl
      · exact fun byte member => ascii byte (.tail _ (List.mem_of_mem_drop member))

end Utf8

end PsxPlayer
