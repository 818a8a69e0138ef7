import PsxPlayer.Proofs.Memory.Bytes
import PsxPlayer.Proofs.Sound.Checked.Instrument

namespace PsxPlayer

/-!
# The bytes under an instrument

An instrument is decoded from the bytes of its own blocks, and where it stops is read
from them as well.  So it stays what sound RAM decodes to through every store beside
them, and it is enough to forget the instruments that a store touches.
-/

namespace Instrument

/-- Two blocks behind another one, and two bytes that are no whole block. -/
def refrain (rest : UInt8) : ByteArray :=
  ⟨(List.replicate 16 0x5A ++
      (0x2C :: 0x00 :: List.replicate 14 0x1F) ++
      (0x31 :: 0x07 :: List.replicate 14 0xE4) ++
      [rest, rest]).toArray⟩

/-- Only the two bytes behind the blocks are different. -/
theorem get!_refrain
    {index : Nat}
    (outside : index < 48 ∨ 50 ≤ index) :
    (refrain 0).get! index = (refrain 7).get! index := by
  rcases outside with before | behind
  · have same :
        ∀ index, index < 48 → (refrain 0).get! index = (refrain 7).get! index := by
      decide +kernel
    exact same index before
  · have beyond (rest : UInt8) : (refrain rest).get! index = default := by
      rw [get!_eq_getElem!]
      exact getElem!_neg (refrain rest).data index (Nat.not_lt.mpr behind)
    rw [beyond, beyond]

end Instrument

end PsxPlayer
