namespace PsxPlayer

/-!
# Machine words

The console computes on 32-bit words and moves bytes, halfwords and words.
This module fixes the three access widths and the conversions between them:
sign extension, and the byte lanes of a word in little-endian order.
-/

/-- Register numbers are below 32. -/
instance neZeroRegisterCount : @NeZero Nat Zero.ofOfNat0 32 := ⟨by decide⟩

/-- Width of one memory or register access. -/
inductive Width where
  | byte
  | half
  | word
  deriving DecidableEq, Repr

namespace Width

/-- Number of bytes an access moves. -/
def bytes : Width → Nat
  | .byte => 1
  | .half => 2
  | .word => 4

/-- Bits of a word that an access moves, counted from bit 0. -/
def mask : Width → UInt32
  | .byte => 0xFF
  | .half => 0xFFFF
  | .word => 0xFFFFFFFF

/-- Addresses at which an access of this width is aligned. -/
def aligned (width : Width) (address : UInt32) : Bool :=
  match width with
  | .byte => true
  | .half => address &&& 1 == 0
  | .word => address &&& 3 == 0

end Width

/-- A truth value as a word. -/
def flagWord (flag : Bool) : UInt32 :=
  if flag then 1 else 0

/-- A byte as a signed value widened to a word. -/
def signExtend8 (value : UInt32) : UInt32 :=
  value.toUInt8.toInt8.toInt32.toUInt32

/-- A halfword as a signed value widened to a word. -/
def signExtend16 (value : UInt32) : UInt32 :=
  value.toUInt16.toInt16.toInt32.toUInt32

/-- The signed reading of a word. -/
def signed (value : UInt32) : Int :=
  value.toInt32.toInt

/-- The word whose signed reading is `value` modulo 2^32. -/
def wordOfInt (value : Int) : UInt32 :=
  (Int32.ofInt value).toUInt32

/-- A mathematical integer as a signed word holds it. -/
def fits32 (value : Int) : Bool :=
  -2147483648 ≤ value && value ≤ 2147483647

/-- Reduce an integer to the signed 32-bit value with the same low bits. -/
def wrap32 (value : Int) : Int :=
  (Int32.ofInt value).toInt

/-- The signed reading of a halfword. -/
def signedHalf (value : UInt16) : Int :=
  value.toInt16.toInt

/-- Limit a sample to the signed 16-bit range. -/
def clamp16 (value : Int) : Int :=
  max (-32768) (min value 32767)

/--
Put an access of `width` at byte lane `lane` into `old`, leaving the lanes
outside the access as they were.
-/
def mergeLanes (old value : UInt32) (lane : UInt32) (width : Width) : UInt32 :=
  match width with
  | .word => value
  | narrow =>
      let shift := 8 * (lane &&& 3)
      let mask := narrow.mask <<< shift
      (old &&& ~~~mask) ||| ((value <<< shift) &&& mask)

end PsxPlayer
