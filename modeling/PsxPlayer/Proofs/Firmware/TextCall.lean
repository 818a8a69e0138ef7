import PsxPlayer.Proofs.Firmware.BlockCopy
import PsxPlayer.Proofs.Firmware.GuestText

namespace PsxPlayer

/-!
# Calls about texts

Three library functions take texts by their addresses: one compares two of them, one copies a text,
and one counts the bytes of a text.  Two texts compare as the first bytes in which they differ, of
which one may be the NUL behind the shorter text.  A copy is made from what the text was before the
call, so that it is right whatever overlaps.
-/

/-! ## The order of texts -/

/--
Texts compare as the bytes in the first place in which they differ, if there is a NUL behind each
of them.
-/
theorem compare_of_firstDifference
    {left right : List UInt8}
    {index : Nat}
    (common :
      ∀ earlier,
        earlier < index →
        left.getD earlier 0 = right.getD earlier 0 ∧ left.getD earlier 0 ≠ 0)
    (differs : left.getD index 0 ≠ right.getD index 0) :
    compare left right = compare (left.getD index 0) (right.getD index 0) := by
  induction index generalizing left right with
  | zero =>
      rcases left with _ | ⟨byte, left⟩ <;> rcases right with _ | ⟨other, right⟩
      · exact absurd rfl differs
      · exact (Std.compare_eq_lt.mpr (UInt8.pos_iff_ne_zero.mpr differs.symm)).symm
      · exact (Std.compare_eq_gt.mpr (UInt8.pos_iff_ne_zero.mpr differs)).symm
      · rw [List.compare_cons_cons]
        change (compare byte other).then _ = compare byte other
        cases order : compare byte other with
        | eq => exact absurd (Std.compare_eq_iff_eq.mp order) differs
        | lt | gt => rfl
  | succ index inductionHypothesis =>
      have first := common 0 (Nat.zero_lt_succ index)
      rcases left with _ | ⟨byte, left⟩
      · exact absurd rfl first.2
      rcases right with _ | ⟨other, right⟩
      · exact absurd first.1 first.2
      · obtain rfl : byte = other := first.1
        rw [List.compare_cons_cons, Std.compare_self]
        exact
          inductionHypothesis
            (fun earlier before => common (earlier + 1) (Nat.succ_lt_succ before)) differs

/-- The order of texts is the sign of the difference of their first bytes that differ. -/
theorem signed_orderWord
    {left right : ByteArray}
    {index : Nat}
    (common :
      ∀ earlier,
        earlier < index →
        left.toList.getD earlier 0 = right.toList.getD earlier 0 ∧
          left.toList.getD earlier 0 ≠ 0)
    (differs : left.toList.getD index 0 ≠ right.toList.getD index 0) :
    signed (orderWord left right) =
      ((left.toList.getD index 0).toNat - (right.toList.getD index 0).toNat : Int).sign := by
  rw [orderWord, compare_of_firstDifference common differs]
  generalize left.toList.getD index 0 = byte at *
  generalize right.toList.getD index 0 = other at *
  cases order : compare byte other with
  | eq => exact absurd (Std.compare_eq_iff_eq.mp order) differs
  | lt =>
      have below := UInt8.lt_iff_toNat_lt.mp (Std.compare_eq_lt.mp order)
      exact (Int.sign_eq_neg_one_of_neg (by omega)).symm
  | gt =>
      have above := UInt8.lt_iff_toNat_lt.mp (Std.compare_eq_gt.mp order)
      exact (Int.sign_eq_one_of_pos (by omega)).symm

/-- Only equal texts compare as equal. -/
theorem orderWord_eq_zero_iff
    (left right : ByteArray) :
    orderWord left right = 0 ↔ left.toList = right.toList := by
  rw [orderWord, ← @Std.compare_eq_iff_eq (List UInt8)]
  cases compare left.toList right.toList <;> decide

namespace Bus

/-- Two texts differ in some place for the first time; one of them may have its NUL there. -/
structure DifferFirstAt (bus : Bus) (first second : UInt32) (index : Nat) : Prop where
  common :
    ∀ earlier,
      earlier < index →
      bus.readByte (first + UInt32.ofNat earlier) =
          bus.readByte (second + UInt32.ofNat earlier) ∧
        bus.readByte (first + UInt32.ofNat earlier) ≠ 0
  differs :
    bus.readByte (first + UInt32.ofNat index) ≠ bus.readByte (second + UInt32.ofNat index)

/-- Before its NUL is a text. -/
theorem HoldsText.le_length
    {bus : Bus}
    {address : UInt32}
    {text : List UInt8}
    (holds : bus.HoldsText address text)
    {index : Nat}
    (noNul :
      ∀ earlier, earlier < index → bus.readByte (address + UInt32.ofNat earlier) ≠ 0) :
    index ≤ text.length :=
  Nat.le_of_not_lt fun behind => noNul text.length behind holds.nul

/--
A word is the order of two texts: zero only if they are equal, and else the sign of the difference
of the first bytes that differ.
-/
structure IsOrder
    (bus : Bus)
    (first second : UInt32)
    (left right : List UInt8)
    (order : UInt32) :
    Prop where
  equal : order = 0 ↔ left = right
  differ :
    ∀ index,
      bus.DifferFirstAt first second index →
      signed order =
        ((bus.readByte (first + UInt32.ofNat index)).toNat -
          (bus.readByte (second + UInt32.ofNat index)).toNat : Int).sign

theorem isOrder_orderWord
    {bus : Bus}
    {first second : UInt32}
    {left right : List UInt8}
    (isLeft : bus.HoldsText first left)
    (isRight : bus.HoldsText second right)
    (leftShort : left.length < textLimit)
    (rightShort : right.length < textLimit) :
    bus.IsOrder first second left right
      (orderWord (textAt bus first textLimit) (textAt bus second textLimit)) := by
  have leftRead := isLeft.toList_textAt_eq leftShort
  have rightRead := isRight.toList_textAt_eq rightShort
  constructor
  · rw [orderWord_eq_zero_iff, leftRead, rightRead]
  · rintro index ⟨common, differs⟩
    have inLeft : index ≤ left.length :=
      isLeft.le_length fun earlier before => (common earlier before).2
    have inRight : index ≤ right.length :=
      isRight.le_length fun earlier before =>
        (common earlier before).1 ▸ (common earlier before).2
    rw [isLeft.readByte_eq inLeft, isRight.readByte_eq inRight] at differs ⊢
    rw [← leftRead, ← rightRead] at differs ⊢
    refine signed_orderWord (fun earlier before => ?_) differs
    have inBoth := common earlier before
    rw [isLeft.readByte_eq (before.le.trans inLeft),
      isRight.readByte_eq (before.le.trans inRight)] at inBoth
    rwa [leftRead, rightRead]

end Bus

/-! ## Running the calls -/

namespace Action

theorem run_callLibrary_compareText (machine : Machine) :
    (callLibrary .compareText).run machine =
      .ok ()
        (machine.answered
          (orderWord
            (textAt machine.bus (machine.cpu.registers.get Reg.a0) textLimit)
            (textAt machine.bus (machine.cpu.registers.get Reg.a1) textLimit))
          machine.bus.memory) :=
  rfl

theorem run_callLibrary_textLength (machine : Machine) :
    (callLibrary .textLength).run machine =
      .ok ()
        (machine.answered
          (UInt32.ofNat (textAt machine.bus (machine.cpu.registers.get Reg.a0) textLimit).size)
          machine.bus.memory) :=
  rfl

/-- Copying a text stores what it was before, with its NUL. -/
theorem run_callLibrary_copyText
    {machine : Machine}
    {text : List UInt8}
    (isText : machine.bus.HoldsText (machine.cpu.registers.get Reg.a1) text)
    (short : text.length < textLimit)
    (stays : StaysInRam (machine.cpu.registers.get Reg.a0) (text.length + 1)) :
    (callLibrary .copyText).run machine =
      .ok ()
        (machine.answered (machine.cpu.registers.get Reg.a0)
          (machine.bus.memory.storeBytes (machine.cpu.registers.get Reg.a0) (text ++ [0]))) := by
  have isLong : (text ++ [0]).length = text.length + 1 := List.length_append
  have read :
      (textArgument 1).run machine =
        .ok (textAt machine.bus (machine.cpu.registers.get Reg.a1) textLimit) machine :=
    rfl
  rw [callLibrary, copyText, EStateM.run_bind, run_argument_zero]
  simp only
  rw [EStateM.run_bind, read]
  simp only
  rw [toList_push, isText.toList_textAt_eq short, EStateM.run_bind, run_writeBytes]
  · rfl
  · intro index inside
    rw [isLong] at inside
    exact stays.noPort inside

end Action

/-! ## The calls -/

/-- The machine asks a library function about two addresses. -/
structure Machine.AsksAbout
    (machine : Machine)
    (function : LibraryFunction)
    (first second : UInt32) :
    Prop where
  asks : machine.AsksLibrary function
  first : machine.cpu.registers.get Reg.a0 = first
  second : machine.cpu.registers.get Reg.a1 = second

/-- Whoever asks for the length of the text at an address of this memory is told it. -/
def AddressSpace.TellsLength
    (space : AddressSpace)
    (address : UInt32)
    (length : Nat) :
    Prop :=
  ∀ {step : Action Unit} {machine : Machine},
    machine.AsksLibrary .textLength →
    machine.cpu.registers.get Reg.a0 = address →
    machine.bus.memory = space →
    ∃ told,
      (Action.serveTrap step .tableA).run machine = .ok () told ∧
        machine.ReturnsWith (UInt32.ofNat length) told ∧
        told.bus.memory = space

theorem Bus.HoldsText.tellsLength
    {bus : Bus}
    {address : UInt32}
    {text : List UInt8}
    (holds : bus.HoldsText address text)
    (short : text.length < textLimit)
    (stays : StaysInRam address (text.length + 1)) :
    bus.memory.TellsLength address text.length := by
  intro step machine asks isAddress sameMemory
  have told := Action.run_callLibrary_textLength machine.atCaller
  have isText : machine.bus.HoldsText address text := holds.congr stays sameMemory
  rw [← Action.run_serveTrap_of_asksLibrary asks step] at told
  refine ⟨_, told, ?_, sameMemory⟩
  have isLength :
      (textAt machine.atCaller.bus (machine.atCaller.cpu.registers.get Reg.a0) textLimit).size =
        text.length :=
    (congrArg (fun start => (textAt machine.bus start textLimit).size) isAddress).trans
      (isText.size_textAt_eq short)
  rw [isLength]
  exact machine.returnsWith_answered _ _

namespace Machine.AsksAbout

theorem comparesTexts
    {machine : Machine}
    {first second : UInt32}
    (asks : machine.AsksAbout .compareText first second)
    {left right : List UInt8}
    (isLeft : machine.bus.HoldsText first left)
    (isRight : machine.bus.HoldsText second right)
    (leftShort : left.length < textLimit)
    (rightShort : right.length < textLimit)
    (step : Action Unit) :
    ∃ compared order,
      (Action.serveTrap step .tableA).run machine = .ok () compared ∧
        machine.ReturnsWith order compared ∧
        compared.bus.memory = machine.bus.memory ∧
        machine.bus.IsOrder first second left right order := by
  obtain ⟨asked, rfl, rfl⟩ := asks
  have compared := Action.run_callLibrary_compareText machine.atCaller
  rw [← Action.run_serveTrap_of_asksLibrary asked step] at compared
  exact
    ⟨_, _, compared, machine.returnsWith_answered _ _, rfl,
      Bus.isOrder_orderWord isLeft isRight leftShort rightShort⟩

theorem copiesText
    {machine : Machine}
    {target source : UInt32}
    (asks : machine.AsksAbout .copyText target source)
    {text : List UInt8}
    (isText : machine.bus.HoldsText source text)
    (short : text.length < textLimit)
    (sized : machine.bus.memory.IsSized)
    (targetStays : StaysInRam target (text.length + 1))
    (sourceStays : StaysInRam source (text.length + 1))
    (step : Action Unit) :
    ∃ copied,
      (Action.serveTrap step .tableA).run machine = .ok () copied ∧
        machine.ReturnsWith target copied ∧
        machine.BringsBlock target source (text.length + 1) copied ∧
        copied.bus.HoldsText target text := by
  obtain ⟨asked, rfl, rfl⟩ := asks
  have copied :=
    @Action.run_callLibrary_copyText machine.atCaller text isText short targetStays
  rw [← Action.run_serveTrap_of_asksLibrary asked step] at copied
  refine ⟨_, copied, machine.returnsWith_answered _ _, ?_, ?_⟩
  · apply bringsBlock_of_stays sized targetStays
    rw [isText.bytesFrom_eq sourceStays]
    rfl
  · exact .of_stored sized isText.noNul targetStays rfl

end Machine.AsksAbout

/--
Comparing two texts gives back the sign of the difference of their first bytes that differ, and
zero only for equal texts.  A copy of a text has the bytes and the length that the text had before
the call, whatever overlaps, and no other byte changes.
-/
theorem textCalls_followBytes
    {step : Action Unit}
    {comparer copier : Machine}
    {first second target source : UInt32}
    {left right text : List UInt8}
    (compares : comparer.AsksAbout .compareText first second)
    (isLeft : comparer.bus.HoldsText first left)
    (isRight : comparer.bus.HoldsText second right)
    (leftShort : left.length < textLimit)
    (rightShort : right.length < textLimit)
    (copies : copier.AsksAbout .copyText target source)
    (isText : copier.bus.HoldsText source text)
    (short : text.length < textLimit)
    (sized : copier.bus.memory.IsSized)
    (targetStays : StaysInRam target (text.length + 1))
    (sourceStays : StaysInRam source (text.length + 1)) :
    (∃ compared order,
      (Action.serveTrap step .tableA).run comparer = .ok () compared ∧
        comparer.ReturnsWith order compared ∧
        compared.bus.memory = comparer.bus.memory ∧
        comparer.bus.IsOrder first second left right order) ∧
      ∃ copied,
        (Action.serveTrap step .tableA).run copier = .ok () copied ∧
          copier.ReturnsWith target copied ∧
          copier.BringsBlock target source (text.length + 1) copied ∧
          copier.bus.memory.TellsLength source text.length ∧
          copied.bus.memory.TellsLength target text.length := by
  obtain ⟨copied, ran, returns, brings, isCopy⟩ :=
    copies.copiesText isText short sized targetStays sourceStays step
  exact
    ⟨compares.comparesTexts isLeft isRight leftShort rightShort step,
      copied, ran, returns, brings, isText.tellsLength short sourceStays,
      isCopy.tellsLength short targetStays⟩

/-- A text of two bytes, the first of which is no ASCII, and a call about it. -/
def askingAboutText (number first second : UInt32) : Machine :=
  (callingLibrary .empty number first second).withMemory
    (AddressSpace.blank.setUp.storeBytes 0x80010100 [0x80, 0x61, 0])

/-- The text is compared with its end, and copied one byte up under another name. -/
theorem textCalls_followBytes_overlapping :
    (askingAboutText 0x17 0x80010100 0x80010101).AsksAbout .compareText 0x80010100 0x80010101 ∧
      (askingAboutText 0x19 0xA0010101 0x80010100).AsksAbout .copyText 0xA0010101 0x80010100 ∧
      StaysInRam 0x80010100 3 ∧
      StaysInRam 0xA0010101 3 ∧
      ∃ compared copied,
        (Action.serveTrap (pure ()) .tableA).run (askingAboutText 0x17 0x80010100 0x80010101) =
            .ok () compared ∧
          (Action.serveTrap (pure ()) .tableA).run (askingAboutText 0x19 0xA0010101 0x80010100) =
            .ok () copied ∧
          signed (compared.cpu.registers.get Reg.v0) = 1 ∧
          copied.bus.memory.readByte 0x00010102 = 0x61 := by
  have compares :
      (askingAboutText 0x17 0x80010100 0x80010101).AsksAbout .compareText 0x80010100 0x80010101 :=
    ⟨rfl, rfl, rfl⟩
  have copies :
      (askingAboutText 0x19 0xA0010101 0x80010100).AsksAbout .copyText 0xA0010101 0x80010100 :=
    ⟨rfl, rfl, rfl⟩
  have sourceLies : LiesInRam 0x80010100 3 := .inr ⟨⟨0x10100, by decide, by decide⟩, by decide⟩
  have targetLies : LiesInRam 0xA0010101 3 := .inr ⟨⟨0x10101, by decide, by decide⟩, by decide⟩
  have sized := AddressSpace.isSized_blank.setUp
  have isText (number first second : UInt32) :
      (askingAboutText number first second).bus.HoldsText 0x80010100 [0x80, 0x61] :=
    .of_stored sized (by decide) sourceLies.staysInRam rfl
  have isEnd :
      (askingAboutText 0x17 0x80010100 0x80010101).bus.HoldsText 0x80010101 [0x61] :=
    (isText _ _ _).tail
  obtain ⟨⟨compared, order, ranCompare, returns, -, isOrder⟩, copied, ranCopy, -, brings, -⟩ :=
    textCalls_followBytes compares (isText _ _ _) isEnd (by decide) (by decide)
      copies (isText _ _ _) (by decide) (sized.storeBytes _ _) targetLies.staysInRam
      sourceLies.staysInRam
  refine
    ⟨compares, copies, sourceLies.staysInRam, targetLies.staysInRam, compared, copied,
      ranCompare, ranCopy, ?_, ?_⟩
  · have start := (isText 0x17 0x80010100 0x80010101).readByte_eq (Nat.zero_le _)
    have behind := isEnd.readByte_eq (Nat.zero_le _)
    rw [returns.result, isOrder.differ 0 ⟨nofun, by rw [start, behind]; decide⟩, start, behind]
    decide
  · have sameByte : storedAt? 0x00010102 = storedAt? (0xA0010101 + UInt32.ofNat 1) := by decide
    have noPort := sourceLies.noPort (show 1 < 3 by decide)
    have held := (isText 0x19 0xA0010101 0x80010100).readByte_eq (show 1 ≤ 2 by decide)
    rw [brings.brought 1 (by decide) _ sameByte, ← Bus.readByte_of_noPort noPort, held]
    rfl

end PsxPlayer
