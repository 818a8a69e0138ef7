import PsxPlayer.Proofs.Firmware.GuestText
import PsxPlayer.Proofs.Firmware.LibraryCall
import PsxPlayer.Proofs.Text.Size

namespace PsxPlayer

/-!
# What printing a format gives back

A format and its arguments print some bytes, and the result of printing is meant to be their
number.  It is counted once the bytes have become text, however.  A byte that is no ASCII counts
twice there, and one that is part of no character in the text of an argument up to three times.
-/

/-! ## Formats -/

/-- The character of a byte is known by the byte. -/
theorem byteChar_eq_iff
    {byte : UInt8}
    {char : Char}
    (inByte : char.toNat < 0x100) :
    byteChar byte = char ↔ byte = char.toUInt8 := by
  have small := byte.toNat_lt
  have number : (byteChar byte).toNat = byte.toNat := toNat_ofNat (.inl (by omega))
  have low : char.toUInt8.toNat = char.toNat := Nat.mod_eq_of_lt inByte
  rw [← Char.toNat_inj, number, ← UInt8.toNat_inj, low]

namespace Format

/-- A part of what a format prints. -/
inductive Part where
  /-- A byte of the format, or one that an argument gives. -/
  | byte (value : UInt8)
  /-- A number in some base, with a sign if it is negative. -/
  | numeral (base : Nat) (negative : Bool) (magnitude : Nat)
  /-- The text that an argument points to. -/
  | text (bytes : List UInt8)

namespace Part

/-- The number of bytes that a part has. -/
def length : Part → Nat
  | .byte _ => 1
  | .numeral base negative magnitude => negative.toNat + (Nat.log base magnitude + 1)
  | .text bytes => bytes.length

/-- What is counted for a part on top of its bytes. -/
def surplus : Part → Nat
  | .byte value => if value < 0x80 then 0 else 1
  | .numeral _ _ _ => 0
  | .text bytes => Utf8.surplus bytes

/-- A part of ASCII. -/
def IsAscii : Part → Prop
  | .byte value => value < 0x80
  | .numeral _ _ _ => True
  | .text bytes => ∀ byte ∈ bytes, byte < 0x80

/-- ASCII is counted as it is. -/
theorem IsAscii.surplus_eq
    {part : Part}
    (ascii : part.IsAscii) :
    part.surplus = 0 := by
  cases part with
  | byte value => exact if_pos ascii
  | numeral base negative magnitude => rfl
  | text bytes => exact Utf8.surplus_of_ascii ascii

end Part

/-- The number of bytes that are printed. -/
def lengthOf (parts : List Part) : Nat :=
  (parts.map Part.length).sum

/-- What is counted on top of the bytes that are printed. -/
def surplusOf (parts : List Part) : Nat :=
  (parts.map Part.surplus).sum

section

variable (textFrom : UInt32 → List UInt8) (argument : Nat → UInt32)

/-- The part that an argument gives, by the letter behind the percent sign. -/
def partOf? (letter : UInt8) (value : UInt32) : Option Part :=
  if letter = 'd'.toUInt8 ∨ letter = 'i'.toUInt8 then
    some (.numeral 10 (signed value < 0) (signed value).natAbs)
  else if letter = 'u'.toUInt8 then
    some (.numeral 10 false value.toNat)
  else if letter = 'x'.toUInt8 ∨ letter = 'X'.toUInt8 then
    some (.numeral 16 false value.toNat)
  else if letter = 'c'.toUInt8 then
    some (.byte value.toUInt8)
  else if letter = 's'.toUInt8 then
    some (.text (textFrom value))
  else
    none

/-- The parts that a format prints, from argument `next` on. -/
def partsOf : List UInt8 → Nat → List Part
  | [], _ => []
  | [last], _ => [.byte last]
  | byte :: letter :: rest, next =>
      if byte ≠ '%'.toUInt8 then
        .byte byte :: partsOf (letter :: rest) next
      else
        match partOf? textFrom letter (argument next) with
        | some part => part :: partsOf rest (next + 1)
        | none =>
            if letter = '%'.toUInt8 then
              .byte letter :: partsOf rest next
            else
              .byte byte :: .byte letter :: partsOf rest next

end

/-- The part that a directive prints. -/
def Directive.part (textFrom : UInt32 → List UInt8) (directive : Directive) (value : UInt32) :
    Part :=
  match directive with
  | .signedDecimal => .numeral 10 (signed value < 0) (signed value).natAbs
  | .decimal => .numeral 10 false value.toNat
  | .lowerHex | .upperHex => .numeral 16 false value.toNat
  | .char => .byte value.toUInt8
  | .text => .text (textFrom value)

/-- A letter prints a part exactly when it is a directive. -/
theorem partOf?_eq
    (textFrom : UInt32 → List UInt8)
    (letter : UInt8)
    (value : UInt32) :
    partOf? textFrom letter value =
      (Directive.ofByte? letter).map fun directive => directive.part textFrom value := by
  unfold Directive.ofByte?
  split
  -- a letter that is none of the seven is none in the table either
  case h_8 notD notI notU notX notCapital notC notS =>
    have differs {char : Char} (other : byteChar letter = char → False)
        (inByte : char.toNat < 0x100) : letter ≠ char.toUInt8 :=
      mt (byteChar_eq_iff inByte).mpr other
    rw [partOf?, if_neg (not_or.mpr ⟨differs notD (by decide), differs notI (by decide)⟩),
      if_neg (differs notU (by decide)),
      if_neg (not_or.mpr ⟨differs notX (by decide), differs notCapital (by decide)⟩),
      if_neg (differs notC (by decide)), if_neg (differs notS (by decide))]
    rfl
  all_goals
    next isLetter =>
      cases (byteChar_eq_iff (by decide)).mp isLetter
      rfl

/-- A byte is counted as itself and its surplus. -/
theorem utf8Size_byteChar (byte : UInt8) :
    (byteChar byte).utf8Size = (Part.byte byte).length + (Part.byte byte).surplus := by
  rw [byteChar, utf8Size_byte, Part.length, Part.surplus]
  split <;> rfl

/-- A number without a sign is counted as its digits. -/
theorem digits_eq (base magnitude : Nat) :
    Nat.log base magnitude + 1 =
      (Part.numeral base false magnitude).length + (Part.numeral base false magnitude).surplus := by
  rw [Part.length, Part.surplus, Bool.toNat_false, Nat.zero_add]

/-- A directive is counted as its part and the surplus of that. -/
theorem utf8ByteSize_display
    (bus : Bus)
    (directive : Directive)
    (value : UInt32) :
    (directive.display bus value).utf8ByteSize =
      (directive.part bus.textFrom value).length + (directive.part bus.textFrom value).surplus := by
  cases directive with
  | signedDecimal =>
      rw [Directive.display, utf8ByteSize_toString_int]
      rfl
  | decimal =>
      rw [Directive.display, utf8ByteSize_toString]
      exact digits_eq 10 value.toNat
  | lowerHex =>
      rw [Directive.display, utf8ByteSize_toDigits (by decide) (by decide)]
      exact digits_eq 16 value.toNat
  | upperHex =>
      rw [Directive.display, utf8ByteSize_hexUpper]
      exact digits_eq 16 value.toNat
  | char =>
      rw [Directive.display, String.utf8ByteSize_singleton]
      exact utf8Size_byteChar _
  | text =>
      rw [Directive.display, Utf8.utf8ByteSize_decodeLossy, Bus.toList_textAt, Directive.part,
        Part.length, Part.surplus]

@[simp]
theorem lengthOf_cons (part : Part) (parts : List Part) :
    lengthOf (part :: parts) = part.length + lengthOf parts :=
  rfl

@[simp]
theorem surplusOf_cons (part : Part) (parts : List Part) :
    surplusOf (part :: parts) = part.surplus + surplusOf parts :=
  rfl

section

variable (textFrom : UInt32 → List UInt8) (argument : Nat → UInt32)

/-- A byte that is no percent sign prints itself. -/
theorem partsOf_of_ne
    {byte : UInt8}
    (literal : byte ≠ percent)
    (rest : List UInt8)
    (next : Nat) :
    partsOf textFrom argument (byte :: rest) next =
      .byte byte :: partsOf textFrom argument rest next := by
  cases rest with
  | nil => rfl
  | cons letter rest =>
      rw [partsOf, if_pos]
      exact literal

/--
The parts behind a percent sign: a directive takes an argument, another letter is
printed as it stands.
-/
theorem partsOf_percent
    (letter : UInt8)
    (rest : List UInt8)
    (next : Nat) :
    partsOf textFrom argument (percent :: letter :: rest) next =
      match partOf? textFrom letter (argument next) with
      | some part => part :: partsOf textFrom argument rest (next + 1)
      | none =>
          if letter = percent then
            .byte letter :: partsOf textFrom argument rest next
          else
            .byte percent :: .byte letter :: partsOf textFrom argument rest next := by
  have isPercent : ¬ percent ≠ '%'.toUInt8 := not_not.mpr rfl
  rw [partsOf, if_neg isPercent]
  rfl

end

/-- A format is counted as its parts and their surplus. -/
theorem utf8ByteSize_append
    (bus : Bus)
    (argument : Nat → UInt32)
    (bytes : List UInt8)
    (next : Nat)
    (out : String) :
    (append (Directive.display bus) argument bytes next out).utf8ByteSize =
      out.utf8ByteSize +
        (lengthOf (partsOf bus.textFrom argument bytes next) +
          surplusOf (partsOf bus.textFrom argument bytes next)) := by
  have sizePercent :
      '%'.utf8Size = (Part.byte percent).length + (Part.byte percent).surplus :=
    utf8Size_byteChar percent
  fun_induction append (Directive.display bus) argument bytes next out with
  | case1 next out => rfl
  | case2 byte rest next out literal inductionHypothesis =>
      rw [inductionHypothesis, partsOf_of_ne _ _ literal, String.utf8ByteSize_push,
        utf8Size_byteChar, lengthOf_cons, surplusOf_cons]
      omega
  | case3 byte next out isPercent =>
      obtain rfl := not_not.mp isPercent
      exact String.utf8ByteSize_push
  | case4 byte next out isPercent letter rest directive found inductionHypothesis =>
      obtain rfl := not_not.mp isPercent
      rw [inductionHypothesis, partsOf_percent, partOf?_eq, found, String.utf8ByteSize_append,
        utf8ByteSize_display, Option.map_some]
      simp only [lengthOf_cons, surplusOf_cons]
      omega
  | case5 byte next out isPercent rest missing inductionHypothesis =>
      obtain rfl := not_not.mp isPercent
      rw [inductionHypothesis, partsOf_percent, partOf?_eq, missing, String.utf8ByteSize_push,
        Option.map_none]
      simp only [if_true, lengthOf_cons, surplusOf_cons]
      rw [sizePercent]
      omega
  | case6 byte next out isPercent letter rest missing differs inductionHypothesis =>
      obtain rfl := not_not.mp isPercent
      rw [inductionHypothesis, partsOf_percent, partOf?_eq, missing, String.utf8ByteSize_push,
        String.utf8ByteSize_push, utf8Size_byteChar, Option.map_none]
      simp only [if_neg differs, lengthOf_cons, surplusOf_cons]
      rw [sizePercent]
      omega

/-- Text of ASCII bytes alone has no surplus. -/
theorem surplusOf_of_ascii
    {parts : List Part}
    (ascii : ∀ part ∈ parts, part.IsAscii) :
    surplusOf parts = 0 := by
  induction parts with
  | nil => rfl
  | cons part rest inductionHypothesis =>
      rw [surplusOf_cons, (ascii part (.head _)).surplus_eq,
        inductionHypothesis fun later member => ascii later (.tail _ member)]

/-- A format without a percent sign prints its own bytes. -/
theorem partsOf_of_noPercent
    (textFrom : UInt32 → List UInt8)
    (argument : Nat → UInt32)
    {bytes : List UInt8}
    (literal : percent ∉ bytes)
    (next : Nat) :
    partsOf textFrom argument bytes next = bytes.map .byte := by
  induction bytes with
  | nil => rfl
  | cons byte rest inductionHypothesis =>
      rw [List.mem_cons, not_or] at literal
      rw [partsOf_of_ne _ _ (Ne.symm literal.1), inductionHypothesis literal.2, List.map_cons]

/-- Plain bytes count one each. -/
theorem lengthOf_map_byte (bytes : List UInt8) : lengthOf (bytes.map .byte) = bytes.length := by
  induction bytes with
  | nil => rfl
  | cons byte rest inductionHypothesis =>
      rw [List.map_cons, lengthOf_cons, inductionHypothesis, Part.length, List.length_cons,
        Nat.add_comm]

/-- The surplus of plain bytes is the number of those past ASCII. -/
theorem surplusOf_map_byte (bytes : List UInt8) :
    surplusOf (bytes.map .byte) = bytes.countP (0x80 ≤ ·) := by
  induction bytes with
  | nil => rfl
  | cons byte rest inductionHypothesis =>
      rw [List.map_cons, surplusOf_cons, inductionHypothesis, Part.surplus, List.countP_cons,
        Nat.add_comm]
      congr 1
      by_cases ascii : byte < 0x80
      · simp [ascii]
      · simp [ascii, UInt8.not_lt.mp ascii]

/-! ### Room for the result -/

/-- A numeral of a word is short. -/
theorem length_numeral_le
    {base : Nat}
    (isBase : 2 ≤ base)
    (negative : Bool)
    {magnitude : Nat}
    (inWord : magnitude < 2 ^ 32) :
    (Part.numeral base negative magnitude).length ≤ textLimit := by
  have fewer : Nat.log base magnitude < 32 :=
    Nat.log_lt_of_lt_pow' (by decide) (inWord.trans_le (Nat.pow_le_pow_left isBase 32))
  have sign := Bool.toNat_le negative
  rw [Part.length, textLimit]
  omega

/-- What a directive prints is no longer than a text may be. -/
theorem length_part_le
    (bus : Bus)
    (directive : Directive)
    (value : UInt32) :
    (directive.part bus.textFrom value).length ≤ textLimit := by
  have small := value.toNat_lt
  cases directive with
  | signedDecimal =>
      have above := value.toInt32.le_toInt
      have below := value.toInt32.toInt_lt
      refine length_numeral_le (by decide) _ ?_
      rw [signed]
      omega
  | decimal | lowerHex | upperHex => exact length_numeral_le (by decide) _ small
  | char => exact (by decide : 1 ≤ textLimit)
  | text => exact bus.length_textFrom_le value

theorem length_le_of_partOf?
    {bus : Bus}
    {letter : UInt8}
    {value : UInt32}
    {part : Part}
    (found : partOf? bus.textFrom letter value = some part) :
    part.length ≤ textLimit := by
  rw [partOf?_eq, Option.map_eq_some_iff] at found
  obtain ⟨directive, -, rfl⟩ := found
  exact length_part_le bus directive value

/-- A directive is two bytes of its format, and prints at most as much as a text may have. -/
theorem lengthOf_partsOf_le
    (bus : Bus)
    (argument : Nat → UInt32)
    (bytes : List UInt8)
    (next : Nat) :
    2 * lengthOf (partsOf bus.textFrom argument bytes next) ≤ textLimit * bytes.length := by
  have single (byte : UInt8) : (Part.byte byte).length = 1 := rfl
  have limit : textLimit = 0x10000 := rfl
  fun_induction partsOf bus.textFrom argument bytes next with
  | case1 next => exact Nat.zero_le _
  | case2 next last => simp [lengthOf, single, limit]
  | case3 byte letter rest next literal inductionHypothesis =>
      rw [lengthOf_cons, single, List.length_cons, Nat.mul_succ]
      omega
  | case4 byte letter rest next isPercent part found inductionHypothesis =>
      have bound := length_le_of_partOf? found
      rw [lengthOf_cons, List.length_cons, List.length_cons, Nat.mul_succ, Nat.mul_succ]
      omega
  | case5 byte rest next isPercent missing inductionHypothesis =>
      rw [lengthOf_cons, single, List.length_cons, List.length_cons, Nat.mul_succ, Nat.mul_succ]
      omega
  | case6 byte letter rest next isPercent missing differs inductionHypothesis =>
      rw [lengthOf_cons, lengthOf_cons, single, single, List.length_cons, List.length_cons,
        Nat.mul_succ, Nat.mul_succ]
      omega

end Format

/-! ## The result -/

namespace Machine

/-- The parts that a call to print a format prints. -/
def printedParts (machine : Machine) : List Format.Part :=
  Format.partsOf machine.bus.textFrom (Format.argumentOf machine.bus machine.cpu.registers)
    (machine.bus.textFrom (machine.cpu.registers.get Reg.a0)) 1

/-- The length of what is printed is a word. -/
theorem lengthOf_printedParts_lt (machine : Machine) :
    Format.lengthOf machine.printedParts < 2 ^ 32 := by
  have bound :=
    Format.lengthOf_partsOf_le machine.bus
      (Format.argumentOf machine.bus machine.cpu.registers)
      (machine.bus.textFrom (machine.cpu.registers.get Reg.a0)) 1
  have short := machine.bus.length_textFrom_le (machine.cpu.registers.get Reg.a0)
  have product := Nat.mul_le_mul_left textLimit short
  have limit : textLimit * textLimit = 2 ^ 32 := rfl
  rw [← printedParts] at bound
  omega

/-- The size of the rendered text is the length of its parts and their surplus. -/
theorem utf8ByteSize_render (machine : Machine) :
    (Format.render machine.bus machine.cpu.registers).utf8ByteSize =
      Format.lengthOf machine.printedParts + Format.surplusOf machine.printedParts := by
  rw [Format.render, Format.utf8ByteSize_append, Bus.toList_textAt, printedParts]
  exact Nat.zero_add _

end Machine

/-- The call answers with the size of the rendered text, and returns to its caller. -/
theorem Action.run_serveTrap_of_asksToPrint
    {machine : Machine}
    (asks : machine.AsksLibrary .printFormat)
    (step : Action Unit) :
    ∃ after,
      (serveTrap step .tableA).run machine = .ok () after ∧
        after.cpu.registers.get Reg.v0 =
          UInt32.ofNat
            (Format.lengthOf machine.printedParts + Format.surplusOf machine.printedParts) ∧
        after.cpu.registers.pc = machine.cpu.registers.get Reg.ra := by
  rw [run_serveTrap_of_asksLibrary asks, ← machine.utf8ByteSize_render]
  exact ⟨_, rfl, Registers.get_set_self _ (by decide) _, Registers.pc_set _ _ _⟩

/--
Printing a format gives back the number of bytes that it prints, and their surplus on top of that.
There is none with ASCII, and a format without a percent sign has one for each of its other bytes.
-/
theorem printFormat_countsSurplus
    {step : Action Unit}
    {machine : Machine}
    (asks : machine.AsksLibrary .printFormat) :
    let format := machine.bus.textFrom (machine.cpu.registers.get Reg.a0)
    let length := Format.lengthOf machine.printedParts
    let surplus := Format.surplusOf machine.printedParts
    ∃ after,
      (Action.serveTrap step .tableA).run machine = .ok () after ∧
        after.cpu.registers.pc = machine.cpu.registers.get Reg.ra ∧
        after.cpu.registers.get Reg.v0 = UInt32.ofNat (length + surplus) ∧
        ((after.cpu.registers.get Reg.v0).toNat = length ↔ surplus % 2 ^ 32 = 0) ∧
        ((∀ part ∈ machine.printedParts, part.IsAscii) →
          (after.cpu.registers.get Reg.v0).toNat = length) ∧
        (Format.percent ∉ format →
          (after.cpu.registers.get Reg.v0).toNat =
            format.length + format.countP (0x80 ≤ ·)) := by
  intro format length surplus
  obtain ⟨after, ran, result, place⟩ := Action.run_serveTrap_of_asksToPrint asks step
  have inWord : length < 2 ^ 32 := machine.lengthOf_printedParts_lt
  have isLength :
      (after.cpu.registers.get Reg.v0).toNat = length ↔ surplus % 2 ^ 32 = 0 := by
    rw [result, UInt32.toNat_ofNat']
    omega
  refine
    ⟨after, ran, place, result, isLength,
      fun ascii => isLength.mpr (congrArg (· % 2 ^ 32) (Format.surplusOf_of_ascii ascii)),
      fun literal => ?_⟩
  have parts : machine.printedParts = format.map .byte :=
    Format.partsOf_of_noPercent _ _ literal 1
  have short : format.length ≤ textLimit := machine.bus.length_textFrom_le _
  have fewer : format.countP (0x80 ≤ ·) ≤ format.length := List.countP_le_length
  have limit : textLimit = 0x10000 := rfl
  rw [result, parts, Format.lengthOf_map_byte, Format.surplusOf_map_byte,
    UInt32.toNat_ofNat', Nat.mod_eq_of_lt (by omega)]

/-- A machine that prints a format with one argument. -/
def askingToPrint (format : List UInt8) (value : UInt32) : Machine :=
  (callingLibrary .empty 0x3F 0x80010100 value).withMemory
    (AddressSpace.blank.setUp.storeBytes 0x80010100 (format ++ [0]))

theorem holdsText_askingToPrint
    {format : List UInt8}
    (noNul : (0 : UInt8) ∉ format)
    (short : format.length < 0x10000)
    (value : UInt32) :
    (askingToPrint format value).bus.HoldsText 0x80010100 format := by
  have start : InRam 0x80010100 := ⟨0x10100, by decide, by decide⟩
  have lies : LiesInRam 0x80010100 (format.length + 1) :=
    .inr ⟨start, show 0x10100 + (format.length + 1) ≤ 0x200000 by omega⟩
  exact .of_stored AddressSpace.isSized_blank.setUp noNul lies.staysInRam rfl

/-- The format is `%d`, and its argument is -5. -/
theorem printFormat_countsSurplus_ofNumber :
    (askingToPrint [0x25, 0x64] 0xFFFFFFFB).AsksLibrary .printFormat ∧
      ∃ after,
        (Action.serveTrap (pure ()) .tableA).run (askingToPrint [0x25, 0x64] 0xFFFFFFFB) =
            .ok () after ∧
          after.cpu.registers.get Reg.v0 = 2 := by
  have asks : (askingToPrint [0x25, 0x64] 0xFFFFFFFB).AsksLibrary .printFormat := rfl
  have holds :
      (askingToPrint [0x25, 0x64] 0xFFFFFFFB).bus.HoldsText
        ((askingToPrint [0x25, 0x64] 0xFFFFFFFB).cpu.registers.get Reg.a0) [0x25, 0x64] :=
    holdsText_askingToPrint (by decide) (by decide) _
  obtain ⟨after, ran, -, result, -⟩ :=
    @printFormat_countsSurplus (pure ()) _ asks
  refine ⟨asks, after, ran, ?_⟩
  have parts :
      (askingToPrint [0x25, 0x64] 0xFFFFFFFB).printedParts = [.numeral 10 true 5] := by
    rw [Machine.printedParts, holds.textFrom_eq (by decide)]
    rfl
  have single : Nat.log 10 5 = 0 := Nat.log_of_lt (by decide)
  rw [result, parts, Format.lengthOf_cons, Format.Part.length, single]
  decide

/-- A Japanese letter of two bytes is counted as four. -/
theorem printFormat_countsLetterTwice :
    (askingToPrint [0x82, 0xA0] 0).AsksLibrary .printFormat ∧
      (askingToPrint [0x82, 0xA0] 0).bus.HoldsText
        ((askingToPrint [0x82, 0xA0] 0).cpu.registers.get Reg.a0) [0x82, 0xA0] ∧
      Format.percent ∉ [0x82, 0xA0] ∧
      ∃ after,
        (Action.serveTrap (pure ()) .tableA).run (askingToPrint [0x82, 0xA0] 0) = .ok () after ∧
          after.cpu.registers.get Reg.v0 = 4 := by
  have asks : (askingToPrint [0x82, 0xA0] 0).AsksLibrary .printFormat := rfl
  have holds :
      (askingToPrint [0x82, 0xA0] 0).bus.HoldsText
        ((askingToPrint [0x82, 0xA0] 0).cpu.registers.get Reg.a0) [0x82, 0xA0] :=
    holdsText_askingToPrint (by decide) (by decide) _
  have literal : Format.percent ∉ [0x82, 0xA0] := by decide
  obtain ⟨after, ran, result, -⟩ := Action.run_serveTrap_of_asksToPrint asks (pure ())
  refine ⟨asks, holds, literal, after, ran, ?_⟩
  rw [result, Machine.printedParts, holds.textFrom_eq (by decide),
    Format.partsOf_of_noPercent _ _ literal, Format.lengthOf_map_byte,
    Format.surplusOf_map_byte]
  decide

end PsxPlayer
