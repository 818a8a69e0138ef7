import Mathlib.Data.List.GetD
import PsxPlayer.Firmware.Text
import PsxPlayer.Proofs.Memory.Store

namespace PsxPlayer

/-!
# Texts in guest memory

A text is read byte by byte up to its NUL.  What is read are its bytes, if there are fewer of them
than a text may have, and bytes that are stored with a NUL behind them are read as that text.
-/

/-- The bytes of a text are followed by its NUL. -/
theorem getElem_append_nul
    {text : List UInt8}
    {index : Nat}
    (inside : index < (text ++ [0]).length) :
    (text ++ [0])[index] = text.getD index 0 := by
  rw [List.length_append, List.length_singleton, Nat.lt_succ_iff] at inside
  rcases Nat.lt_or_eq_of_le inside with within | rfl
  · rw [List.getElem_append_left within, List.getD_eq_getElem _ _ within]
  · rw [List.getElem_concat_length rfl, List.getD_eq_default _ _ (Nat.le_refl _)]

namespace Bus

/-- The bytes from an address on, up to the first NUL and to the length that texts may have. -/
def textFrom (bus : Bus) (address : UInt32) : List UInt8 :=
  ((List.range textLimit).map fun index =>
    bus.readByte (address + UInt32.ofNat index)).takeWhile (· ≠ 0)

theorem toList_appendText
    (bus : Bus)
    (address : UInt32)
    (limit : Nat)
    (found : ByteArray) :
    (appendText bus address limit found).toList =
      found.toList ++
        ((List.range limit).map fun index =>
          bus.readByte (address + UInt32.ofNat index)).takeWhile (· ≠ 0) := by
  induction limit generalizing address found with
  | zero => exact (List.append_nil _).symm
  | succ limit inductionHypothesis =>
      rw [appendText, List.range_succ_eq_map, List.map_cons, List.map_map, add_ofNat_zero]
      simp only [Function.comp_def, Nat.succ_eq_add_one, ← add_one_add_ofNat]
      by_cases ends : bus.readByte address = 0
      · rw [if_pos ends, List.takeWhile_cons_of_neg (by simp [ends]), List.append_nil]
      · rw [if_neg ends, inductionHypothesis, List.takeWhile_cons_of_pos (by simp [ends]),
          toList_push, List.append_assoc, List.singleton_append]

theorem toList_textAt (bus : Bus) (address : UInt32) :
    (textAt bus address textLimit).toList = bus.textFrom address := by
  rw [textAt, toList_appendText, ByteArray.toList_empty, List.nil_append]
  rfl

theorem length_textFrom_le (bus : Bus) (address : UInt32) :
    (bus.textFrom address).length ≤ textLimit := by
  have whole : (bus.textFrom address).length ≤ _ := (List.takeWhile_sublist _).length_le
  rwa [List.length_map, List.length_range] at whole

/-- A text stands at an address, with a NUL behind it. -/
structure HoldsText
    (bus : Bus)
    (address : UInt32)
    (text : List UInt8) :
    Prop where
  bytes :
    ∀ index (inside : index < text.length),
      bus.readByte (address + UInt32.ofNat index) = text[index]
  noNul : (0 : UInt8) ∉ text
  nul : bus.readByte (address + UInt32.ofNat text.length) = 0

namespace HoldsText

variable {bus : Bus} {address : UInt32} {text : List UInt8}

theorem readByte_eq
    (holds : bus.HoldsText address text)
    {index : Nat}
    (inside : index ≤ text.length) :
    bus.readByte (address + UInt32.ofNat index) = text.getD index 0 := by
  rcases Nat.lt_or_eq_of_le inside with within | rfl
  · rw [holds.bytes index within, List.getD_eq_getElem _ _ within]
  · rw [holds.nul, List.getD_eq_default _ _ (Nat.le_refl _)]

/-- A text and its NUL are known by their bytes. -/
theorem of_bytes
    (noNul : (0 : UInt8) ∉ text)
    (bytes :
      ∀ index,
        index ≤ text.length →
        bus.readByte (address + UInt32.ofNat index) = text.getD index 0) :
    bus.HoldsText address text where
  bytes index inside := by
    rw [bytes index (Nat.le_of_lt inside), List.getD_eq_getElem _ _ inside]
  noNul := noNul
  nul := by
    rw [bytes text.length (Nat.le_refl _), List.getD_eq_default _ _ (Nat.le_refl _)]

/-- Bytes that are stored with a NUL behind them are a text. -/
theorem of_stored
    {space : AddressSpace}
    (sized : space.IsSized)
    (noNul : (0 : UInt8) ∉ text)
    (stays : StaysInRam address (text.length + 1))
    (stores : bus.memory = space.storeBytes address (text ++ [0])) :
    bus.HoldsText address text := by
  have isLong : (text ++ [0]).length = text.length + 1 := List.length_append
  refine of_bytes noNul fun index inText => ?_
  have inside : index < (text ++ [0]).length := isLong ▸ Nat.lt_succ_of_le inText
  rw [← isLong] at stays
  rw [Bus.readByte_of_noPort (stays.noPort inside), stores,
    AddressSpace.readByte_storeBytes_of_stays sized stays inside rfl,
    getElem_append_nul inside]

/-- Behind its first byte a text goes on as a text. -/
theorem tail
    {byte : UInt8}
    (holds : bus.HoldsText address (byte :: text)) :
    bus.HoldsText (address + 1) text := by
  refine of_bytes (List.not_mem_of_not_mem_cons holds.noNul) fun index inside => ?_
  rw [add_one_add_ofNat, holds.readByte_eq (Nat.succ_le_succ inside), List.getD_cons_succ]

/-- A text in RAM depends on nothing but memory. -/
theorem congr
    {other : Bus}
    (holds : bus.HoldsText address text)
    (stays : StaysInRam address (text.length + 1))
    (sameMemory : other.memory = bus.memory) :
    other.HoldsText address text := by
  refine of_bytes holds.noNul fun index inside => ?_
  have noPort := stays.noPort (Nat.lt_succ_of_le inside)
  rw [← holds.readByte_eq inside, Bus.readByte_of_noPort noPort, Bus.readByte_of_noPort noPort,
    sameMemory]

/-- The bytes of memory that a text and its NUL take up. -/
theorem bytesFrom_eq
    (holds : bus.HoldsText address text)
    (stays : StaysInRam address (text.length + 1)) :
    bus.memory.bytesFrom address (text.length + 1) = text ++ [0] := by
  refine List.ext_getElem (by simp) fun index inBytes inText => ?_
  rw [AddressSpace.length_bytesFrom] at inBytes
  rw [AddressSpace.getElem_bytesFrom, ← Bus.readByte_of_noPort (stays.noPort inBytes),
    holds.readByte_eq (Nat.le_of_lt_succ inBytes), getElem_append_nul inText]

theorem textFrom_eq
    (holds : bus.HoldsText address text)
    (short : text.length < textLimit) :
    bus.textFrom address = text := by
  obtain ⟨more, limit⟩ : ∃ more, textLimit = text.length + (more + 1) :=
    ⟨textLimit - text.length - 1, by omega⟩
  have isText :
      ((List.range text.length).map fun index =>
        bus.readByte (address + UInt32.ofNat index)) = text := by
    refine List.ext_getElem (by simp) fun index _ inside => ?_
    rw [List.getElem_map, List.getElem_range, holds.bytes index inside]
  rw [textFrom, limit, List.range_add, List.map_append, isText,
    List.takeWhile_append_of_pos, List.range_succ_eq_map, List.map_cons, List.map_cons,
    List.takeWhile_cons_of_neg, List.append_nil]
  · rw [Nat.add_zero, holds.nul]
    decide
  · intro byte member
    exact decide_eq_true fun isNul => holds.noNul (isNul ▸ member)

/-- A text that is not too long is read as it is. -/
theorem toList_textAt_eq
    (holds : bus.HoldsText address text)
    (short : text.length < textLimit) :
    (textAt bus address textLimit).toList = text :=
  (bus.toList_textAt address).trans (holds.textFrom_eq short)

theorem size_textAt_eq
    (holds : bus.HoldsText address text)
    (short : text.length < textLimit) :
    (textAt bus address textLimit).size = text.length := by
  have whole := holds.toList_textAt_eq short
  rw [toList_eq] at whole
  exact congrArg List.length whole

end HoldsText

end Bus

end PsxPlayer
