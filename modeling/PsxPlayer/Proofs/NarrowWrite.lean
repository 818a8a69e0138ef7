import PsxPlayer.Proofs.Bus
import PsxPlayer.Proofs.Memory.Mirror
import PsxPlayer.Proofs.Sound.Register

namespace PsxPlayer

/-!
# Narrow writes

A byte or halfword written to a hardware register is merged into a word first, and with
what depends on the register: zeros where set bits acknowledge, the present value where
they are settings.  So the lanes that a write does not carry neither clear a flag nor start
a transfer.  The key registers of the sound processor are merged with what was last written
to them, so that a byte write keys the voices of the other byte once more.
-/

/-! ## Lanes -/

/-- The bits of the aligned word that an access moves. -/
def inLanes (width : Width) (address : UInt32) (bit : Nat) : Bool :=
  let low := 8 * (address.toNat % 4)
  decide (low ≤ bit ∧ bit < low + 8 * width.bytes)

/-- The bits in the lanes of an access lie side by side from its byte on. -/
theorem inLanes_iff {width : Width} {address : UInt32} {bit : Nat} :
    inLanes width address bit = true ↔
      8 * (address.toNat % 4) ≤ bit ∧ bit < 8 * (address.toNat % 4) + 8 * width.bytes :=
  decide_eq_true_iff

/-- An access writes a bit of the aligned word as set. -/
def carries (width : Width) (address value : UInt32) (bit : Nat) : Bool :=
  inLanes width address bit && value.toNat.testBit (bit - 8 * (address.toNat % 4))

/-- The shift of a lane is eight bits for each byte. -/
theorem toNat_laneShift (address : UInt32) :
    (8 * (address &&& 3)).toNat = 8 * (address.toNat % 4) := by
  have lane : (address &&& 3).toNat = address.toNat % 4 := by
    rw [UInt32.toNat_and]
    exact Nat.and_two_pow_sub_one_eq_mod address.toNat 2
  rw [UInt32.toNat_mul, lane]
  exact Nat.mod_eq_of_lt (show 8 * (address.toNat % 4) < 2 ^ 32 by omega)

/-- A mask has the bits of its width. -/
theorem testBit_mask {width : Width} (narrow : width ≠ .word) (bit : Nat) :
    width.mask.toNat.testBit bit = decide (bit < 8 * width.bytes) := by
  cases width with
  | byte => exact Nat.testBit_two_pow_sub_one 8 bit
  | half => exact Nat.testBit_two_pow_sub_one 16 bit
  | word => exact absurd rfl narrow

/-- A bit of a value in its lane is the bit so much further down. -/
theorem testBit_toNat_shiftLeft (value address : UInt32) {bit : Nat} (inWord : bit < 32) :
    (value <<< (8 * (address &&& 3))).toNat.testBit bit =
      (decide (8 * (address.toNat % 4) ≤ bit) &&
        value.toNat.testBit (bit - 8 * (address.toNat % 4))) := by
  rw [UInt32.toNat_shiftLeft, toNat_laneShift,
    Nat.mod_eq_of_lt (show 8 * (address.toNat % 4) < 32 by omega), Nat.testBit_mod_two_pow,
    Nat.testBit_shiftLeft, decide_eq_true inWord, Bool.true_and]

/-- The complement has the bits that the word has not. -/
theorem testBit_complement (word : UInt32) {bit : Nat} (inWord : bit < 32) :
    (~~~word).toNat.testBit bit = !word.toNat.testBit bit := by
  change (~~~word).toBitVec.getLsbD bit = !word.toBitVec.getLsbD bit
  rw [UInt32.toBitVec_not, BitVec.getLsbD_not, decide_eq_true inWord, Bool.true_and]

/-- A narrow write replaces the bits of its lanes. -/
theorem testBit_mergeLanes
    {width : Width}
    (narrow : width ≠ .word)
    (old value address : UInt32)
    {bit : Nat}
    (inWord : bit < 32) :
    (mergeLanes old value address width).toNat.testBit bit =
      if inLanes width address bit then
        carries width address value bit
      else
        old.toNat.testBit bit := by
  have mask :
      (width.mask <<< (8 * (address &&& 3))).toNat.testBit bit =
        inLanes width address bit := by
    rw [testBit_toNat_shiftLeft _ _ inWord, testBit_mask narrow, inLanes, ← Bool.decide_and,
      decide_eq_decide]
    omega
  have merged :
      mergeLanes old value address width =
        (old &&& ~~~(width.mask <<< (8 * (address &&& 3)))) |||
          ((value <<< (8 * (address &&& 3))) &&& (width.mask <<< (8 * (address &&& 3)))) := by
    cases width with
    | word => exact absurd rfl narrow
    | _ => rfl
  rw [merged, UInt32.toNat_or, UInt32.toNat_and, UInt32.toNat_and, Nat.testBit_or,
    Nat.testBit_and, Nat.testBit_and, testBit_complement _ inWord, mask,
    testBit_toNat_shiftLeft _ _ inWord]
  unfold carries
  cases moved : inLanes width address bit with
  | false => simp
  | true =>
      have above : 8 * (address.toNat % 4) ≤ bit := (inLanes_iff.mp moved).1
      simp [above]

/-! ## Registers with flags -/

/-- Of the status a write clears the bits that mask and value both have. -/
theorem InterruptController.testBit_writeStatus
    (controller : InterruptController)
    (value : UInt32)
    (bit : Nat) :
    (controller.writeStatus value).status.toNat.testBit bit =
      (controller.status.toNat.testBit bit &&
        !(controller.mask.toNat.testBit bit && value.toNat.testBit bit)) := by
  change (controller.status &&& ~~~(controller.mask &&& value.toUInt16)).toBitVec.getLsbD bit =
    (controller.status.toBitVec.getLsbD bit &&
      !(controller.mask.toBitVec.getLsbD bit && value.toBitVec.getLsbD bit))
  by_cases inHalf : bit < 16
  · simp [inHalf]
  · simp [BitVec.getLsbD_of_ge _ _ (Nat.le_of_not_lt inHalf)]

/-- A pending line stays pending when others are raised. -/
theorem InterruptController.testBit_request
    {controller : InterruptController}
    {bit : Nat}
    (isSet : controller.status.toNat.testBit bit = true)
    (lines : Lines) :
    (controller.request lines).status.toNat.testBit bit = true := by
  simp only [request, UInt16.toNat_or, Nat.testBit_or, isSet, Bool.true_or]

/-- The flags of the transfer interrupt lie above its settings. -/
theorem testBit_belowFlags {bit : Nat} (above : 24 ≤ bit) :
    Nat.testBit 0x00FFFFFF bit = false := by
  rw [show (0x00FFFFFF : Nat) = 2 ^ 24 - 1 from rfl, Nat.testBit_two_pow_sub_one]
  exact decide_eq_false (Nat.not_lt_of_le above)

/-- A write of the interrupt register clears the flags that it writes as set. -/
theorem DmaController.testBit_writeInterrupt
    (dma : DmaController)
    (value : UInt32)
    {bit : Nat}
    (isFlag : 24 ≤ bit ∧ bit < 31) :
    (dma.writeInterrupt value).interrupt.toNat.testBit bit =
      (dma.interrupt.toNat.testBit bit && !value.toNat.testBit bit) := by
  have stored := testBit_belowFlags isFlag.1
  have flag : Nat.testBit 0x7F000000 bit = true := by
    rw [show (0x7F000000 : Nat) = (2 ^ 7 - 1) <<< 24 from rfl, Nat.testBit_shiftLeft,
      Nat.testBit_two_pow_sub_one]
    simp only [ge_iff_le, isFlag.1, decide_true, Bool.true_and, decide_eq_true_eq]
    omega
  have inWord : bit < 32 := by omega
  change
    ((value &&& 0x00FFFFFF) |||
      (dma.interrupt &&& 0x7F000000 &&& ~~~(value &&& 0x7F000000))).toNat.testBit bit = _
  rw [UInt32.toNat_or, UInt32.toNat_and, UInt32.toNat_and, UInt32.toNat_and, Nat.testBit_or,
    Nat.testBit_and, Nat.testBit_and, Nat.testBit_and, testBit_complement _ inWord,
    UInt32.toNat_and, Nat.testBit_and, show UInt32.toNat 0x00FFFFFF = 0x00FFFFFF from rfl,
    show UInt32.toNat 0x7F000000 = 0x7F000000 from rfl, stored, flag]
  simp only [Bool.and_false, Bool.false_or, Bool.and_true]

/-- Ending a transfer clears no flag. -/
theorem DmaController.testBit_complete
    {dma : DmaController}
    {bit : Nat}
    (isSet : dma.interrupt.toNat.testBit bit = true)
    (words : Nat) :
    (dma.complete words).2.interrupt.toNat.testBit bit = true := by
  unfold complete
  simp only
  split
  · exact isSet
  · simp only [UInt32.toNat_or, Nat.testBit_or, isSet, Bool.true_or]

/-- A transfer is under way while bit 24 of its control is set. -/
theorem DmaChannel.isActive_eq (channel : DmaChannel) :
    channel.isActive = channel.control.toNat.testBit 24 := by
  have bitAt (bit : Nat) :
      (channel.control &&& startBit).toNat.testBit bit =
        (channel.control.toNat.testBit bit && decide (24 = bit)) := by
    rw [UInt32.toNat_and, Nat.testBit_and, ← Nat.testBit_two_pow]
    rfl
  unfold isActive
  cases isSet : channel.control.toNat.testBit 24 with
  | true =>
      rw [bne_iff_ne]
      intro clear
      have bit := bitAt 24
      rw [clear, isSet] at bit
      cases bit
  | false =>
      rw [bne_eq_false_iff_eq]
      apply UInt32.toNat_inj.mp
      apply Nat.eq_of_testBit_eq
      intro bit
      rw [bitAt, UInt32.toNat_zero, Nat.zero_testBit]
      by_cases same : 24 = bit
      · rw [← same, isSet, Bool.false_and]
      · rw [decide_eq_false same, Bool.and_false]

/-! ## Key registers -/

theorem toNat_even (address : UInt32) :
    (address &&& 0xFFFFFFFE).toNat = address.toNat / 2 * 2 := by
  have small := address.toNat_lt
  have masked : (address &&& 0xFFFFFFFE).toNat = address.toNat / 2 ^ 1 % 2 ^ 31 * 2 ^ 1 := by
    rw [← and_shiftedMask]
    exact UInt32.toNat_and _ _
  rw [masked]
  omega

theorem toNat_byteOfHalf (address : UInt32) : (address &&& 1).toNat = address.toNat % 2 := by
  rw [UInt32.toNat_and]
  exact Nat.and_two_pow_sub_one_eq_mod address.toNat 1

/-- A device register has one physical address, whatever the segment. -/
theorem toNat_of_port?
    {address physical : UInt32}
    (found : port? address = some physical) :
    physical.toNat = 0x1F800000 + address.toNat % 0x10000 := by
  unfold port? at found
  simp only at found
  split at found
  · obtain rfl := Option.some.inj found
    have inPage : address.toNat % 0x10000 < 2 ^ 16 := Nat.mod_lt _ (by decide)
    rw [UInt32.toNat_or, toNat_inPage]
    exact (Nat.shiftLeft_add_eq_or_of_lt inPage 0x1F80).symm
  · cases found

namespace VoiceHalf

/-- The voices in a half of the strobe are those whose bits are set. -/
theorem mem_voices (half : VoiceHalf) (value : UInt16) (voice : Nat) :
    voice ∈ half.voices value ↔
      voice < voiceCount ∧ half.first ≤ voice ∧ voice < half.first + 16 ∧
        value.toNat.testBit (voice - half.first) = true := by
  have bitAt (bit : Nat) :
      (value.toNat >>> bit) % 2 = 1 ↔ value.toNat.testBit bit = true := by
    rw [Nat.testBit_eq_decide_div_mod_eq, decide_eq_true_iff, Nat.shiftRight_eq_div_pow]
  unfold voices
  simp only [List.mem_filterMap, List.mem_range, Option.ite_none_right_eq_some,
    Option.some.injEq, bitAt]
  constructor
  · rintro ⟨bit, inHalf, ⟨isSet, known⟩, rfl⟩
    rw [Nat.add_sub_cancel_left]
    exact ⟨known, Nat.le_add_right _ _, Nat.add_lt_add_left inHalf _, isSet⟩
  · rintro ⟨known, above, below, isSet⟩
    have back : half.first + (voice - half.first) = voice := Nat.add_sub_of_le above
    exact ⟨voice - half.first, by omega, ⟨isSet, by rwa [back]⟩, back⟩

end VoiceHalf

namespace SoundRegister

theorem offsetOf_eq (address : UInt32) :
    offsetOf address = (address.toNat + 0xE07FE400) / 2 % 256 * 2 := by
  have masked : offsetOf address = (address - soundBase).toNat / 2 ^ 1 % 2 ^ 8 * 2 ^ 1 := by
    rw [← and_shiftedMask]
    exact UInt32.toNat_and _ _
  have moved : (address - soundBase).toNat = (0xE07FE400 + address.toNat) % 2 ^ 32 :=
    UInt32.toNat_sub _ _
  rw [masked, moved]
  omega

/-- Both bytes of a sound register have its offset. -/
theorem offsetOf_even (address : UInt32) :
    offsetOf (address &&& 0xFFFFFFFE) = offsetOf address := by
  rw [offsetOf_eq, offsetOf_eq, toNat_even]
  omega

/-- The voices that a key register stands for, and what it has done to those written as set. -/
def keyRequest? : SoundRegister → Option (VoiceHalf × (Nat → SoundRequest))
  | .keyOn half => some (half, .noteOn)
  | .keyOff half => some (half, .noteOff)
  | _ => none

variable {address : UInt32} {half : VoiceHalf} {make : Nat → SoundRequest}

/-- Only the two strobes send requests for voices. -/
theorem eq_of_keyRequest?
    {register : SoundRegister}
    (key : register.keyRequest? = some (half, make)) :
    register = .keyOn half ∧ make = .noteOn ∨ register = .keyOff half ∧ make = .noteOff := by
  cases register with
  | keyOn other =>
      cases key
      exact .inl ⟨rfl, rfl⟩
  | keyOff other =>
      cases key
      exact .inr ⟨rfl, rfl⟩
  | _ => cases key

/-- In the aligned word of a key register, the bit of a voice has its number. -/
theorem first_of_key (key : (ofAddress address).keyRequest? = some (half, make)) :
    half.first = 8 * (address.toNat / 2 * 2 % 4) := by
  have placed : (ofAddress address).offset = offsetOf address := by
    apply offset_ofAddress
    intro plain
    rw [plain] at key
    cases key
  rw [offsetOf_eq] at placed
  obtain ⟨found, -⟩ | ⟨found, -⟩ := eq_of_keyRequest? key <;>
    rw [found] at placed <;>
    cases half <;>
    simp only [offset, VoiceHalf.first] at placed ⊢ <;>
    omega

end SoundRegister

namespace SoundProcessor

variable {address : UInt32} {half : VoiceHalf} {make : Nat → SoundRequest}

/-- A key register shows what was last written to it. -/
theorem read_of_key
    (key : (SoundRegister.ofAddress address).keyRequest? = some (half, make))
    (sound : SoundProcessor) :
    sound.read address = sound.lastWritten address := by
  unfold read
  obtain ⟨found, -⟩ | ⟨found, -⟩ := SoundRegister.eq_of_keyRequest? key <;> rw [found]

/-- A byte of a sound register is read from the whole register. -/
theorem read_even (sound : SoundProcessor) :
    sound.read (address &&& 0xFFFFFFFE) = sound.read address := by
  unfold read lastWritten SoundRegister.ofAddress
  simp only [SoundRegister.offsetOf_even]

/-- A byte of a sound register is written through the whole register. -/
theorem write_even (sound : SoundProcessor) (value : UInt16) :
    sound.write (address &&& 0xFFFFFFFE) value = sound.write address value := by
  unfold write SoundRegister.ofAddress
  simp only [SoundRegister.offsetOf_even]

/-- Keeping the value of a key register changes no voice. -/
theorem voices_write_of_key
    (key : (SoundRegister.ofAddress address).keyRequest? = some (half, make))
    (sound : SoundProcessor)
    (value : UInt16) :
    (sound.write address value).voices = sound.voices := by
  unfold write
  obtain ⟨found, -⟩ | ⟨found, -⟩ := SoundRegister.eq_of_keyRequest? key <;>
    rw [found] <;>
    rfl

/-- A change of one voice leaves another as it is. -/
theorem voiceOrSilent_of_bind
    {sound after : SoundProcessor}
    {index other : Nat}
    {change : Voice → Except Fault SoundProcessor}
    (same :
      ∀ voice changed,
        change voice = .ok changed →
        changed.voiceOrSilent other = sound.voiceOrSilent other)
    (done : sound.voice index >>= change = .ok after) :
    after.voiceOrSilent other = sound.voiceOrSilent other := by
  cases found : sound.voice index with
  | error fault =>
      rw [found] at done
      cases done
  | ok voice =>
      rw [found] at done
      exact same voice after done

/-- Keying one voice leaves every other voice alone. -/
theorem voiceOrSilent_keyOn_of_ne
    {sound after : SoundProcessor}
    {index other : Nat}
    (differs : index ≠ other)
    (done : sound.keyOn index = .ok after) :
    after.voiceOrSilent other = sound.voiceOrSilent other := by
  refine voiceOrSilent_of_bind (fun voice changed made => ?_) done
  obtain rfl := Except.ok.inj made
  exact voiceOrSilent_setVoice_of_ne differs _

/-- Releasing a voice leaves another as it is. -/
theorem voiceOrSilent_keyOff_of_ne
    {sound after : SoundProcessor}
    {index other : Nat}
    (differs : index ≠ other)
    (done : sound.keyOff index = .ok after) :
    after.voiceOrSilent other = sound.voiceOrSilent other := by
  refine voiceOrSilent_of_bind (fun voice changed made => ?_) done
  obtain rfl := Except.ok.inj made
  exact voiceOrSilent_setVoice_of_ne differs _

end SoundProcessor

/--
A byte written to a key register is merged with the register as last written, so the voices
whose bits were set in its other byte are written as set once more.
-/
def repeats (sound : SoundProcessor) (address : UInt32) (voice : Nat) : Bool :=
  inLanes .half (address &&& 0xFFFFFFFE) voice && !inLanes .byte address voice &&
    (sound.lastWritten address).toNat.testBit (voice % 16)

/-- What a narrow write of a key register comes to. -/
def keyHalf (sound : SoundProcessor) (width : Width) (address value : UInt32) : UInt16 :=
  match width with
  | .byte =>
      (mergeLanes (sound.lastWritten address).toUInt32 value (address &&& 1) .byte).toUInt16
  | _ => value.toUInt16

/-- A bit is written as set if the write carries or repeats it. -/
theorem testBit_keyHalf
    {width : Width}
    {address : UInt32}
    {first bit : Nat}
    (narrow : width ≠ .word)
    (aligned : width.aligned address = true)
    (placed : first = 8 * (address.toNat / 2 * 2 % 4))
    (inHalf : bit < 16)
    (sound : SoundProcessor)
    (value : UInt32) :
    (keyHalf sound width address value).toNat.testBit bit =
      (carries width address value (first + bit) ||
        width == .byte && repeats sound address (first + bit)) := by
  cases width with
  | word => exact absurd rfl narrow
  | half =>
      have even : address.toNat % 2 = 0 := (aligned_iff .half address).mp aligned
      have start : 8 * (address.toNat % 4) = first := by omega
      have moved : inLanes .half address (first + bit) = true := by
        rw [inLanes_iff, Width.bytes]
        omega
      simp only [keyHalf, carries, start, moved, Bool.true_and, Nat.add_sub_cancel_left,
        UInt32.toNat_toUInt16, Nat.testBit_mod_two_pow, inHalf, decide_true]
      exact (Bool.or_false _).symm
  | byte =>
      have shown : inLanes .half (address &&& 0xFFFFFFFE) (first + bit) = true := by
        rw [inLanes_iff, toNat_even, Width.bytes]
        omega
      have low : (address &&& 1).toNat % 4 = address.toNat % 2 := by
        rw [toNat_byteOfHalf]
        omega
      have sameLane :
          inLanes .byte (address &&& 1) bit = inLanes .byte address (first + bit) := by
        simp only [inLanes, low, decide_eq_decide]
        omega
      have samePlace :
          bit - 8 * (address.toNat % 2) = first + bit - 8 * (address.toNat % 4) := by
        omega
      have sameVoice : (first + bit) % 16 = bit := by omega
      simp only [keyHalf, UInt32.toNat_toUInt16, Nat.testBit_mod_two_pow, inHalf, decide_true,
        Bool.true_and]
      rw [testBit_mergeLanes (by decide) _ _ _ (by omega)]
      simp only [carries, repeats, sameLane, low, samePlace, shown, sameVoice, BEq.rfl,
        Bool.true_and, UInt16.toNat_toUInt32]
      cases inLanes .byte address (first + bit) <;> simp

theorem run_get_bind
    {σ α : Type}
    (next : σ → EStateM Fault σ α)
    (state : σ) :
    (get >>= next).run state = (next state).run state :=
  rfl

namespace Bus

section

variable {address : UInt32} {half : VoiceHalf} {make : Nat → SoundRequest}

/-- Keep the value of a key register, and send a request for each voice whose bit is set. -/
def keyVoices
    (address : UInt32)
    (half : VoiceHalf)
    (make : Nat → SoundRequest)
    (value : UInt16) :
    BusAction Unit := do
  runAudio
  keepSound address value
  requestEach make (half.voices value)

/-- A write to a strobe keys the voices whose bits are set. -/
theorem writeSoundRegister_of_key
    (key : (SoundRegister.ofAddress address).keyRequest? = some (half, make))
    (value : UInt16) :
    writeSoundRegister address value = keyVoices address half make value := by
  unfold writeSoundRegister
  obtain ⟨found, rfl⟩ | ⟨found, rfl⟩ := SoundRegister.eq_of_keyRequest? key <;>
    rw [found] <;>
    rfl

/-- A byte is merged into what was last written to its register. -/
theorem writeSound_byte (address value : UInt32) :
    writeSound .byte address value =
      (get >>= fun bus =>
        writeSoundRegister (address &&& 0xFFFFFFFE)
          (mergeLanes (bus.link.sound.read (address &&& 0xFFFFFFFE)).toUInt32 value
            (address &&& 1) .byte).toUInt16) :=
  rfl

/-- A narrow write of a key register has the worker key the voices that it comes to. -/
theorem run_writeSound_of_key
    {width : Width}
    (narrow : width ≠ .word)
    (key : (SoundRegister.ofAddress address).keyRequest? = some (half, make))
    (value : UInt32)
    (bus : Bus) :
    (writeSound width address value).run bus =
      (keyVoices address half make (keyHalf bus.link.sound width address value)).run bus := by
  cases width with
  | word => exact absurd rfl narrow
  | half => exact congrArg (·.run bus) (writeSoundRegister_of_key key _)
  | byte =>
      have evenKey :
          (SoundRegister.ofAddress (address &&& 0xFFFFFFFE)).keyRequest? = some (half, make) := by
        unfold SoundRegister.ofAddress
        rw [SoundRegister.offsetOf_even]
        exact key
      have sameKept (value : UInt16) :
          keyVoices (address &&& 0xFFFFFFFE) half make value =
            keyVoices address half make value := by
        unfold keyVoices keepSound
        simp only [SoundProcessor.write_even]
      -- step by step: the kernel must not compare the runs by computing the address
      rw [writeSound_byte, run_get_bind, writeSoundRegister_of_key evenKey,
        SoundProcessor.read_even, SoundProcessor.read_of_key key, sameKept, keyHalf]

/-- The voices that a narrow write of a key register keys: those that it carries or repeats. -/
theorem mem_voices_keyHalf
    {width : Width}
    (narrow : width ≠ .word)
    (aligned : width.aligned address = true)
    (key : (SoundRegister.ofAddress address).keyRequest? = some (half, make))
    (sound : SoundProcessor)
    (value : UInt32)
    (voice : Nat) :
    voice ∈ half.voices (keyHalf sound width address value) ↔
      voice < voiceCount ∧
        (carries width address value voice = true ∨
          width = .byte ∧ repeats sound address voice = true) := by
  have placed := SoundRegister.first_of_key key
  rw [VoiceHalf.mem_voices]
  refine and_congr_right fun _ => ?_
  by_cases inHalf : half.first ≤ voice ∧ voice < half.first + 16
  · obtain ⟨bit, rfl⟩ := Nat.exists_eq_add_of_le inHalf.1
    have below : bit < 16 := Nat.lt_of_add_lt_add_left inHalf.2
    rw [Nat.add_sub_cancel_left, testBit_keyHalf narrow aligned placed below, Bool.or_eq_true,
      Bool.and_eq_true, beq_iff_eq]
    exact ⟨fun listed => listed.2.2, fun either => ⟨inHalf.1, inHalf.2, either⟩⟩
  · have outside : inLanes .half (address &&& 0xFFFFFFFE) voice = false := by
      rw [Bool.eq_false_iff, Ne, inLanes_iff, toNat_even, ← placed]
      exact inHalf
    have notMoved : inLanes width address voice = false := by
      have even := (aligned_iff width address).mp aligned
      rw [Bool.eq_false_iff, Ne, inLanes_iff]
      cases width with
      | word => exact absurd rfl narrow
      | byte | half =>
          rw [Width.bytes] at even ⊢
          omega
    refine iff_of_false (fun listed => inHalf ⟨listed.1, listed.2.1⟩) ?_
    simp only [carries, repeats, notMoved, outside, Bool.false_and, Bool.false_eq_true, and_false,
      or_self, not_false_eq_true]

/-- A request of a key register leaves every other voice alone. -/
theorem isFlat_request_of_key
    (key : (SoundRegister.ofAddress address).keyRequest? = some (half, make))
    {voice other : Nat}
    (differs : other ≠ voice) :
    IsFlat (fun bus => bus.link.sound.voiceOrSilent voice) (request (make other)) := by
  have served (worker : SoundWorker Tape) :
      (worker.serve (make other)).sound.voiceOrSilent voice =
        worker.sound.voiceOrSilent voice := by
    obtain ⟨-, rfl⟩ | ⟨-, rfl⟩ := SoundRegister.eq_of_keyRequest? key
    · unfold SoundWorker.serve SoundWorker.attempt
      simp only
      split
      · next done => exact SoundProcessor.voiceOrSilent_keyOn_of_ne differs done
      · rfl
    · unfold SoundWorker.serve SoundWorker.attempt
      simp only
      split
      · next done => exact SoundProcessor.voiceOrSilent_keyOff_of_ne differs done
      · rfl
  rintro ⟨memory, interrupts, counters, dma, ⟨worker, phase⟩⟩
  cases phase with
  | serving => exact served worker
  | ended => exact ⟨by decide, rfl⟩
  | closed => exact ⟨by decide, rfl⟩

/-- A voice that a key register does not key is as if only the audio had been asked for. -/
theorem voiceOrSilent_keyVoices
    (key : (SoundRegister.ofAddress address).keyRequest? = some (half, make))
    (kept : UInt16)
    {voice : Nat}
    (spared : voice ∉ half.voices kept)
    (bus : Bus) :
    (stateAfter (keyVoices address half make kept) bus).link.sound.voiceOrSilent voice =
      (stateAfter runAudio bus).link.sound.voiceOrSilent voice := by
  have sameVoices :
      IsFlat (fun bus => bus.link.sound.voiceOrSilent voice) (keepSound address kept) :=
    .modify (fun _ => rfl) fun bus => by
      change ((bus.link.sound.write address kept).voices[voice]?).getD .initial = _
      rw [SoundProcessor.voices_write_of_key key]
      rfl
  have flat :
      IsFlat (fun bus => bus.link.sound.voiceOrSilent voice)
        (do
          keepSound address kept
          requestEach make (half.voices kept)) :=
    .bind sameVoices fun _ => isFlat_requestEach fun other member =>
      isFlat_request_of_key key fun same => spared (same ▸ member)
  rw [keyVoices, stateAfter_bind]
  unfold stateAfter
  cases ran : runAudio.run bus with
  | ok value between => exact flat.stateAfter between
  | error fault failed => rfl

end

/-! ## Lines and flags -/

/-- Raised lines stay raised, and set flags of the transfer stay set. -/
structure Keeps (before after : Bus) : Prop where
  lines :
    ∀ {bit},
      before.interrupts.status.toNat.testBit bit = true →
      after.interrupts.status.toNat.testBit bit = true
  flags :
    ∀ {bit},
      before.dma.interrupt.toNat.testBit bit = true →
      after.dma.interrupt.toNat.testBit bit = true

theorem Keeps.of_same
    {before after : Bus}
    (sameInterrupts : after.interrupts = before.interrupts)
    (sameDma : after.dma = before.dma) :
    before.Keeps after := by
  constructor
  · rw [sameInterrupts]
    exact id
  · rw [sameDma]
    exact id

/-- What leaves the lines and the transfer alone keeps what is raised and set. -/
theorem Keeps.of_beside
    {before after : Bus}
    (same : after.beside = before.beside) :
    before.Keeps after :=
  .of_same (congrArg (fun shown => shown.2.2.1) same) (congrArg (fun shown => shown.2.2.2) same)

theorem Keeps.trans
    {before between after : Bus}
    (first : before.Keeps between)
    (second : between.Keeps after) :
    before.Keeps after where
  lines isSet := second.lines (first.lines isSet)
  flags isSet := second.flags (first.flags isSet)

/-- Moving a block raises no line and changes no register of the transfer. -/
theorem keeps_moveBlock (bus : Bus) : bus.Keeps bus.moveBlock := by
  unfold moveBlock
  simp only
  split
  · split <;> exact .of_same rfl rfl
  · split <;> exact .of_same rfl rfl

/-- The end of a transfer clears no pending line. -/
theorem keeps_completeTransfer (bus : Bus) : bus.Keeps bus.completeTransfer where
  lines isSet := by
    simp only [completeTransfer]
    split
    · exact InterruptController.testBit_request isSet .dma
    · exact isSet
  flags isSet := DmaController.testBit_complete isSet _

/-- A transfer clears neither a line nor a flag. -/
theorem keeps_runTransfer (bus : Bus) : bus.Keeps (stateAfter runTransfer bus) := by
  have audio := isFlat_beside_runAudio.stateAfter bus
  rw [runTransfer, stateAfter_bind]
  unfold stateAfter at audio
  cases ran : runAudio.run bus with
  | error fault failed =>
      rw [ran] at audio
      exact .of_beside audio
  | ok value between =>
      rw [ran] at audio
      exact (Keeps.of_beside audio).trans
        ((keeps_moveBlock between).trans (keeps_completeTransfer between.moveBlock))

section

variable {bus : Bus} {width : Width} {address value : UInt32}

/-- The bus once the channel control is written. -/
def withControl (bus : Bus) (width : Width) (address value : UInt32) : Bus :=
  { bus with
    dma := bus.dma.writeControl (mergeLanes bus.dma.channel.control value address width) }

/-- A narrow write makes the channel active exactly if it carries the start bit. -/
theorem isActive_withControl
    (narrow : width ≠ .word)
    (idle : bus.dma.channel.isActive = false) :
    (bus.withControl width address value).dma.channel.isActive =
      carries width address value 24 := by
  rw [DmaChannel.isActive_eq] at idle ⊢
  change (mergeLanes bus.dma.channel.control value address width).toNat.testBit 24 = _
  rw [testBit_mergeLanes narrow _ _ _ (by decide), idle]
  unfold carries
  cases inLanes width address 24 <;> rfl

/-- A narrow write to the channel control starts a transfer only by the start bit. -/
theorem run_writeDevice_dmaControl
    (narrow : width ≠ .word)
    (idle : bus.dma.channel.isActive = false) :
    (writeDevice width address value .dmaControl).run bus =
      if carries width address value 24 then
        runTransfer.run (bus.withControl width address value)
      else
        .ok () (bus.withControl width address value) := by
  rw [← isActive_withControl narrow idle]
  change
    (if (bus.withControl width address value).dma.channel.isActive = true then runTransfer
      else pure ()).run (bus.withControl width address value) = _
  split <;> rfl

/-- A narrow write to an idle channel starts a transfer only if it carries the start bit. -/
theorem stateAfter_writeDevice_dmaControl
    (narrow : width ≠ .word)
    (idle : bus.dma.channel.isActive = false) :
    stateAfter (writeDevice width address value .dmaControl) bus =
      if carries width address value 24 then
        stateAfter runTransfer (bus.withControl width address value)
      else
        bus.withControl width address value := by
  unfold stateAfter
  rw [run_writeDevice_dmaControl narrow idle]
  cases carries width address value 24 <;> rfl

/-- A narrow write clears no line but those that it acknowledges. -/
theorem status_writeDevice
    (narrow : width ≠ .word)
    (idle : bus.dma.channel.isActive = false)
    {port : Port}
    {bit : Nat}
    (isSet : bus.interrupts.status.toNat.testBit bit = true)
    (spared : port = .interruptStatus → carries width address value bit = false) :
    (stateAfter (writeDevice width address value port) bus).interrupts.status.toNat.testBit bit =
      true := by
  cases port with
  | interruptStatus =>
      have inWord : bit < 32 := by
        have reached : 2 ^ bit < 2 ^ 32 :=
          (Nat.ge_two_pow_of_testBit isSet).trans_lt
            (bus.interrupts.status.toNat_lt.trans_le (by decide))
        exact (Nat.pow_lt_pow_iff_right (by decide)).mp reached
      change (bus.interrupts.writeStatus (mergeLanes 0 value address width)).status.toNat.testBit
        bit = true
      rw [InterruptController.testBit_writeStatus, isSet, testBit_mergeLanes narrow _ _ _ inWord,
        spared rfl, UInt32.toNat_zero, Nat.zero_testBit, ite_self, Bool.and_false]
      rfl
  | dmaControl =>
      rw [stateAfter_writeDevice_dmaControl narrow idle]
      split
      · exact (keeps_runTransfer (bus.withControl width address value)).lines isSet
      · exact isSet
  | sound =>
      exact (Keeps.of_beside ((isFlat_writeSound width address value).stateAfter bus)).lines isSet
  | counter index register => cases register <;> exact isSet
  | _ => exact isSet

/-- A narrow write clears no flag of the transfer but those that it acknowledges. -/
theorem flag_writeDevice
    (narrow : width ≠ .word)
    (idle : bus.dma.channel.isActive = false)
    {port : Port}
    {bit : Nat}
    (isFlag : 24 ≤ bit ∧ bit < 31)
    (isSet : bus.dma.interrupt.toNat.testBit bit = true)
    (spared : port = .dmaInterrupt → carries width address value bit = false) :
    (stateAfter (writeDevice width address value port) bus).dma.interrupt.toNat.testBit bit =
      true := by
  cases port with
  | dmaInterrupt =>
      have masked : (bus.dma.readInterrupt &&& 0x00FFFFFF).toNat.testBit bit = false := by
        rw [UInt32.toNat_and, Nat.testBit_and]
        exact Bool.and_eq_false_imp.mpr fun _ => testBit_belowFlags isFlag.1
      change (bus.dma.writeInterrupt (mergeLanes (bus.dma.readInterrupt &&& 0x00FFFFFF) value
        address width)).interrupt.toNat.testBit bit = true
      rw [DmaController.testBit_writeInterrupt _ _ isFlag, isSet,
        testBit_mergeLanes narrow _ _ _ (by omega), spared rfl, masked, ite_self]
      rfl
  | dmaControl =>
      rw [stateAfter_writeDevice_dmaControl narrow idle]
      split
      · exact (keeps_runTransfer (bus.withControl width address value)).flags isSet
      · exact isSet
  | sound =>
      exact (Keeps.of_beside ((isFlat_writeSound width address value).stateAfter bus)).flags isSet
  | counter index register => cases register <;> exact isSet
  | _ => exact isSet

/-! ## Writes -/

/--
A write of the key register at an address keys the voices that it carries, and those that a
byte repeats.
-/
structure KeysInLanes
    (bus : Bus)
    (width : Width)
    (address value : UInt32)
    (half : VoiceHalf)
    (make : Nat → SoundRequest)
    (action : BusAction Unit)
    (kept : UInt16) :
    Prop where
  run : action.run bus = (keyVoices address half make kept).run bus
  keyed :
    ∀ voice,
      voice ∈ half.voices kept ↔
        voice < voiceCount ∧
          (carries width address value voice = true ∨
            width = .byte ∧ repeats bus.link.sound address voice = true)
  /-- All other voices are as if only the audio had been asked for. -/
  spared :
    ∀ voice,
      voice ∉ half.voices kept →
      (stateAfter action bus).link.sound.voiceOrSilent voice =
        (stateAfter runAudio bus).link.sound.voiceOrSilent voice

/-- What a narrow write of the register at an address does, and what its lanes decide. -/
structure ActsInLanes
    (bus : Bus)
    (width : Width)
    (address value : UInt32)
    (port : Port)
    (action : BusAction Unit) :
    Prop where
  /-- No line goes down but those that the write acknowledges. -/
  line :
    ∀ bit,
      bus.interrupts.status.toNat.testBit bit = true →
      (port = .interruptStatus → carries width address value bit = false) →
      (stateAfter action bus).interrupts.status.toNat.testBit bit = true
  /-- No flag of a transfer goes down but those that the write acknowledges. -/
  flag :
    ∀ bit,
      24 ≤ bit ∧ bit < 31 →
      bus.dma.interrupt.toNat.testBit bit = true →
      (port = .dmaInterrupt → carries width address value bit = false) →
      (stateAfter action bus).dma.interrupt.toNat.testBit bit = true
  /-- A transfer runs if the write carries the start bit; else only the control changes. -/
  transfer :
    port = .dmaControl →
      action.run bus =
        if carries width address value 24 then
          runTransfer.run (bus.withControl width address value)
        else
          .ok () (bus.withControl width address value)
  /-- No other register moves data between the memories. -/
  noTransfer :
    port ≠ .dmaControl →
      (stateAfter action bus).memory = bus.memory ∧
        (port ≠ .sound → (stateAfter action bus).link = bus.link)
  key :
    ∀ half make,
      port = .sound →
      (SoundRegister.ofAddress address).keyRequest? = some (half, make) →
      ∃ kept, bus.KeysInLanes width address value half make action kept

/-- A narrow write to a strobe keys the voices of both its bytes. -/
theorem keysInLanes_writeSound
    (narrow : width ≠ .word)
    (aligned : width.aligned address = true)
    {half : VoiceHalf}
    {make : Nat → SoundRequest}
    (key : (SoundRegister.ofAddress address).keyRequest? = some (half, make)) :
    bus.KeysInLanes width address value half make (writeSound width address value)
      (keyHalf bus.link.sound width address value) where
  run := run_writeSound_of_key narrow key value bus
  keyed := mem_voices_keyHalf narrow aligned key bus.link.sound value
  spared voice notKeyed := by
    rw [← voiceOrSilent_keyVoices key _ notKeyed bus]
    unfold stateAfter
    rw [run_writeSound_of_key narrow key value bus]

/-- No register but the transfer's control moves a block. -/
theorem noTransfer_writeDevice
    {port : Port}
    (noControl : port ≠ .dmaControl) :
    (stateAfter (writeDevice width address value port) bus).memory = bus.memory ∧
      (port ≠ .sound →
        (stateAfter (writeDevice width address value port) bus).link = bus.link) := by
  cases port with
  | dmaControl => exact absurd rfl noControl
  | sound =>
      have same := (isFlat_writeSound width address value).stateAfter bus
      exact ⟨congrArg (fun shown => shown.2.1) same, fun noSound => absurd rfl noSound⟩
  | counter index register => cases register <;> exact ⟨rfl, fun _ => rfl⟩
  | _ => exact ⟨rfl, fun _ => rfl⟩

/--
A narrow write acts in its lanes, save that a byte written to a key register keys the voices
of the register's other byte once more.
-/
theorem write_actsInLanes
    {physical : UInt32}
    {port : Port}
    (narrow : width ≠ .word)
    (aligned : width.aligned address = true)
    (found : port? address = some physical)
    (named : Port.ofAddress? physical = some port)
    (idle : bus.dma.channel.isActive = false) :
    bus.ActsInLanes width physical value port (write width address value) := by
  have toDevice : write width address value = writeDevice width physical value port := by
    unfold write
    simp only [found, named]
  have alignedToo : width.aligned physical = true := by
    have place := toNat_of_port? found
    rw [aligned_iff] at aligned ⊢
    cases width with
    | word => exact absurd rfl narrow
    | byte | half =>
        rw [Width.bytes] at aligned ⊢
        omega
  rw [toDevice]
  constructor
  case line => exact fun bit isSet spared => status_writeDevice narrow idle isSet spared
  case flag =>
    exact fun bit isFlag isSet spared => flag_writeDevice narrow idle isFlag isSet spared
  case transfer =>
    rintro rfl
    exact run_writeDevice_dmaControl narrow idle
  case noTransfer => exact noTransfer_writeDevice
  case key =>
    rintro half make rfl key
    exact ⟨_, keysInLanes_writeSound narrow alignedToo key⟩

end

/-- A byte written to a key register after power-on, through another segment. -/
theorem write_actsInLanes_keyByte :
    Width.byte ≠ .word ∧
      Width.byte.aligned 0xBF801D89 = true ∧
      port? 0xBF801D89 = some 0x1F801D89 ∧
      Port.ofAddress? 0x1F801D89 = some .sound ∧
      (initial 60 (.start .initial .blank 64)).dma.channel.isActive = false ∧
      (initial 60 (.start .initial .blank 64)).ActsInLanes .byte 0x1F801D89 0 .sound
        (write .byte 0xBF801D89 0) := by
  have narrow : Width.byte ≠ .word := by decide
  have aligned : Width.byte.aligned 0xBF801D89 = true := rfl
  have found : port? 0xBF801D89 = some 0x1F801D89 := by decide
  have named : Port.ofAddress? 0x1F801D89 = some .sound := by decide
  have idle : (initial 60 (.start .initial .blank 64)).dma.channel.isActive = false := rfl
  exact ⟨narrow, aligned, found, named, idle, write_actsInLanes narrow aligned found named idle⟩

/-- Voice 0 has been keyed off, and then on. -/
def keyedOffAndOn : BusAction Unit := do
  write .half 0x1F801D8C 1
  write .half 0x1F801D88 1

/-- A zero written to the other byte of the register keys voice 0 off once more. -/
theorem keyOff_fromOtherByte :
    let bus := stateAfter keyedOffAndOn (initial 60 (.start .initial .blank 64))
    let after := stateAfter (write .byte 0x1F801D8D 0) bus
    bus.dma.channel.isActive = false ∧
      carries .byte 0x1F801D8D 0 0 = false ∧
      (bus.link.sound.voiceOrSilent 0).envelope.phase = .attack ∧
      (after.link.sound.voiceOrSilent 0).envelope.phase = .release := by
  decide +kernel

end Bus

end PsxPlayer
