import PsxPlayer.Proofs.Sound.Checked.Level
import PsxPlayer.Proofs.Sound.Playable

namespace PsxPlayer

/-!
# Decoding in 32 bits

Predictions and samples are computed in signed words, addresses in unsigned ones.
No block makes a prediction that does not fit, since the samples before it are
limited to 16 bits.
-/

namespace SampleHistory

/-- `predict` with every value checked. -/
def predict? (history : SampleHistory) (filter : Nat) : Option Int := do
  let latest ← int32? (history.latest * (weights filter).1)
  let previous ← int32? (history.previous * (weights filter).2)
  let sum ← int32? (latest + previous)
  let rounded ← int32? (sum + 32)
  return rounded >>> (6 : Nat)

theorem natAbs_weights_le (filter : Nat) :
    (weights filter).1.natAbs ≤ 122 ∧ (weights filter).2.natAbs ≤ 122 := by
  unfold weights
  split <;> decide

namespace InRange

/-- The products that a prediction adds up. -/
theorem natAbs_products_le
    {history : SampleHistory}
    (inRange : history.InRange)
    (filter : Nat) :
    (history.latest * (weights filter).1).natAbs ≤ 0x8000 * 122 ∧
      (history.previous * (weights filter).2).natAbs ≤ 0x8000 * 122 :=
  ⟨natAbs_mul_le inRange.latest.natAbs_le (natAbs_weights_le filter).1,
    natAbs_mul_le inRange.previous.natAbs_le (natAbs_weights_le filter).2⟩

theorem natAbs_predict_le
    {history : SampleHistory}
    (inRange : history.InRange)
    (filter : Nat) :
    (history.predict filter).natAbs ≤ 0x20000 := by
  obtain ⟨latest, previous⟩ := inRange.natAbs_products_le filter
  unfold predict
  dsimp only
  rw [Int.shiftRight_eq_div_pow]
  omega

theorem predict?_eq_some
    {history : SampleHistory}
    (inRange : history.InRange)
    (filter : Nat) :
    history.predict? filter = some (history.predict filter) := by
  obtain ⟨latest, previous⟩ := inRange.natAbs_products_le filter
  have sum := natAbs_add_le latest previous
  have rounded := natAbs_add_le sum (show (32 : Int).natAbs ≤ 32 by decide)
  rw [predict?, int32?_eq_some_of_le latest (by decide), some_bind,
    int32?_eq_some_of_le previous (by decide), some_bind,
    int32?_eq_some_of_le sum (by decide), some_bind,
    int32?_eq_some_of_le rounded (by decide), some_bind]
  rfl

end InRange

end SampleHistory

theorem isSample_stepValue
    {nibble : Nat}
    (below : nibble < 16) :
    IsSample (stepValue nibble) := by
  unfold stepValue IsSample
  split <;> omega

/-- Shifting right enlarges no sample. -/
theorem IsSample.shiftRight
    {value : Int}
    (isSample : IsSample value)
    (shift : Nat) :
    IsSample (value >>> shift) := by
  obtain ⟨low, high⟩ := isSample
  have positive : (0 : Int) < 2 ^ shift := Int.pow_pos (by decide)
  have one : (1 : Int) ≤ 2 ^ shift := positive
  rw [Int.shiftRight_eq_div_pow, Int.natCast_pow]
  refine ⟨?_, ?_⟩
  · refine Int.le_ediv_of_mul_le positive (Int.le_trans ?_ low)
    have scaled := Int.mul_le_mul_of_nonpos_left (show (-32768 : Int) ≤ 0 by decide) one
    simpa using scaled
  · refine Int.ediv_le_of_le_mul positive (Int.le_trans high ?_)
    have scaled := Int.mul_le_mul_of_nonneg_left one (show (0 : Int) ≤ 32767 by decide)
    simpa using scaled

namespace SampleRun

/-- `decodeStep` with every value checked. -/
def decodeStep? (shift filter : Nat) (run : SampleRun) (nibble : Nat) : Option SampleRun := do
  let predicted ← run.history.predict? filter
  let sum ← int32? (stepValue nibble >>> shift + predicted)
  let sample := max (-32768) (min sum 32767)
  return ⟨run.history.push sample, run.samples.push sample⟩

/-- `decodeByte` with every value checked. -/
def decodeByte? (shift filter : Nat) (run : SampleRun) (byte : UInt8) : Option SampleRun := do
  let run ← run.decodeStep? shift filter (byte.toNat % 16)
  run.decodeStep? shift filter (byte.toNat / 16)

/-- `decodeBlock` with every value checked. -/
def decodeBlock?
    (run : SampleRun)
    (bytes : ByteArray)
    (address : Nat) :
    Option (SampleRun × BlockFlags) := do
  let header := (bytes.get! address).toNat
  let run ← (List.range 14).foldlM
    (fun run index =>
      run.decodeByte? (blockShift header) (blockFilter header)
        (bytes.get! (address + 2 + index))) run
  return (run, .ofByte (bytes.get! (address + 1)))

namespace InRange

theorem decodeStep?_eq_some
    {run : SampleRun}
    {nibble : Nat}
    (inRange : run.InRange)
    (below : nibble < 16)
    (shift filter : Nat) :
    run.decodeStep? shift filter nibble = some (run.decodeStep shift filter nibble) := by
  have step := ((isSample_stepValue below).shiftRight shift).natAbs_le
  have sum := natAbs_add_le step (inRange.history.natAbs_predict_le filter)
  rw [decodeStep?, inRange.history.predict?_eq_some, some_bind,
    int32?_eq_some_of_le sum (by decide), some_bind]
  rfl

theorem decodeByte?_eq_some
    {run : SampleRun}
    (inRange : run.InRange)
    (shift filter : Nat)
    (byte : UInt8) :
    run.decodeByte? shift filter byte = some (run.decodeByte shift filter byte) := by
  have below := byte.toNat_lt
  rw [decodeByte?, inRange.decodeStep?_eq_some (by omega), some_bind,
    (inRange.decodeStep shift filter _).decodeStep?_eq_some (by omega)]
  rfl

theorem decodeBlock?_eq_some
    {run : SampleRun}
    (inRange : run.InRange)
    (bytes : ByteArray)
    (address : Nat) :
    run.decodeBlock? bytes address = some (run.decodeBlock bytes address) := by
  obtain ⟨decoded, -⟩ :=
    foldlM_eq_some InRange run (List.range 14) inRange
      fun run index _ inRange =>
        ⟨inRange.decodeByte?_eq_some
            (blockShift (bytes.get! address).toNat) (blockFilter (bytes.get! address).toNat)
            (bytes.get! (address + 2 + index)),
          inRange.decodeByte _ _ _⟩
  rw [decodeBlock?, decoded]
  rfl

end InRange

end SampleRun

namespace Instrument

/-- `decodeFrom` with every value checked. -/
def decodeFrom?
    (ram : ByteArray)
    (start address : Nat)
    (run : SampleRun)
    (loopStart? : Option Nat) :
    Option Instrument :=
  if address + blockSize ≤ ram.size then
    match run.decodeBlock? ram address with
    | none => none
    | some (run, flags) =>
        let loopStart? :=
          if flags.isLoopStart then some (sampleIndex start address) else loopStart?
        if flags.isEnd then do
          let stop ← word? (address + blockSize : Nat)
          return ⟨start, stop, run.samples, loopStart?, flags.isRepeat⟩
        else
          decodeFrom? ram start (address + blockSize) run loopStart?
  else do
    let stop ← word? address
    return ⟨start, stop, run.samples, loopStart?, false⟩
termination_by ram.size - address
decreasing_by
  unfold blockSize at *
  omega

/-- `decode` with every value checked. -/
def decode? (ram : ByteArray) (address : Nat) : Option Instrument :=
  decodeFrom? ram (blockStart address) (blockStart address) .empty none

/-- Decoding fits, as long as the address where it stops does. -/
theorem decodeFrom?_eq_some
    {ram : ByteArray}
    {start address : Nat}
    {run : SampleRun}
    {loopStart? : Option Nat}
    (inRange : run.InRange)
    (fits : (decodeFrom ram start address run loopStart?).stop ≤ 0xFFFFFFFF) :
    decodeFrom? ram start address run loopStart? =
      some (decodeFrom ram start address run loopStart?) := by
  fun_induction decodeFrom ram start address run loopStart? with
  | case1 address run loopStart? room next flags block loop isEnd =>
      have stop := word?_eq_some fits
      rw [decodeFrom?.eq_def]
      simp only [room, ↓reduceIte, inRange.decodeBlock?_eq_some, block, isEnd, stop]
      rfl
  | case2 address run loopStart? room next flags block loop notEnd
      inductionHypothesis =>
      have nextInRange := inRange.decodeBlock ram address
      simp only [block] at nextInRange
      rw [decodeFrom?.eq_def]
      simp only [room, ↓reduceIte, inRange.decodeBlock?_eq_some, block, notEnd,
        Bool.false_eq_true]
      exact inductionHypothesis nextInRange fits
  | case3 address run loopStart? noRoom =>
      have stop := word?_eq_some fits
      rw [decodeFrom?.eq_def]
      simp only [noRoom, ↓reduceIte, stop]
      rfl

/-- Decoding fits wherever it stops at an address of 32 bits. -/
theorem decode?_eq_some_of_stop_le
    {ram : ByteArray}
    {address : Nat}
    (fits : (decode ram address).stop ≤ 0xFFFFFFFF) :
    decode? ram address = some (decode ram address) :=
  decodeFrom?_eq_some SampleRun.inRange_empty fits

/-- Decoding from an address of sound RAM fits. -/
theorem decode?_eq_some
    {ram : ByteArray}
    {address : Nat}
    (room : blockStart address + blockSize ≤ ram.size)
    (ramSize : ram.size ≤ 0xFFFFFFFF) :
    decode? ram address = some (decode ram address) :=
  decode?_eq_some_of_stop_le
    (Nat.le_trans (stop_decodeFrom_le _ _ _ (Nat.le_of_add_right_le room)) ramSize)

end Instrument

namespace SoundBank

/-- `fetch` with every value checked. -/
def fetch?
    (bank : SoundBank)
    (ram : ByteArray)
    (address : Nat) :
    Option (Instrument × SoundBank) :=
  match bank.find? (Instrument.blockStart address) with
  | some instrument => some (instrument, bank)
  | none => do
      let instrument ← Instrument.decode? ram address
      return (instrument, ⟨instrument :: bank.instruments⟩)

theorem fetch?_eq_some
    {ram : ByteArray}
    {address : Nat}
    (bank : SoundBank)
    (room : Instrument.blockStart address + blockSize ≤ ram.size)
    (ramSize : ram.size ≤ 0xFFFFFFFF) :
    bank.fetch? ram address = some (bank.fetch ram address) := by
  unfold fetch? fetch
  cases bank.find? (Instrument.blockStart address) with
  | some instrument => rfl
  | none =>
      dsimp only
      rw [Instrument.decode?_eq_some room ramSize]
      rfl

end SoundBank

end PsxPlayer
