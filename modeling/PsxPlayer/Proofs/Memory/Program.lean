import PsxPlayer.Bus
import PsxPlayer.Firmware.Trap
import PsxPlayer.Proofs.Memory.Bytes

namespace PsxPlayer

/-!
# Programs in RAM

Words that are written to RAM one after the other, at places that do not overlap,
all read back.  The traps are planted that way, and so is a guest program.
-/

/-- Where a word lies in RAM, when all of it lies there. -/
def ramWord? (address : UInt32) : Option Nat :=
  match place? address 4 with
  | some ⟨.ram, offset⟩ => some offset
  | _ => none

/-- Two words lie in RAM and do not overlap. -/
def ramWordsApart (first second : UInt32) : Bool :=
  match ramWord? first, ramWord? second with
  | some first, some second => first + 4 ≤ second || second + 4 ≤ first
  | _, _ => false

theorem place?_of_ramWord?
    {address : UInt32}
    {offset : Nat}
    (found : ramWord? address = some offset) :
    place? address 4 = some ⟨.ram, offset⟩ := by
  unfold ramWord? at found
  split at found
  · next placed =>
      cases found
      exact placed
  · cases found

/-- A place in RAM lies inside of RAM. -/
theorem le_size_of_ramWord?
    {address : UInt32}
    {offset : Nat}
    (found : ramWord? address = some offset) :
    offset + 4 ≤ Region.ram.size := by
  have placed := place?_of_ramWord? found
  unfold place? at placed
  simp only [Option.ite_none_right_eq_some, Option.some.injEq] at placed
  obtain ⟨⟨-, inside⟩, same⟩ := placed
  obtain ⟨region, start⟩ := Place.mk.inj same
  rw [region, start] at inside
  exact inside

namespace AddressSpace

theorem write_of_ramWord?
    {address : UInt32}
    {offset : Nat}
    (found : ramWord? address = some offset)
    (space : AddressSpace)
    (value : UInt32) :
    space.write .word address value =
      { space with ram := setLittle space.ram offset value .word } := by
  have placed : place? address Width.word.bytes = _ := place?_of_ramWord? found
  simp only [write, placed, modifyStorage]

theorem read_of_ramWord?
    {address : UInt32}
    {offset : Nat}
    (found : ramWord? address = some offset)
    (space : AddressSpace) :
    space.read .word address = getLittle space.ram offset .word := by
  have placed : place? address Width.word.bytes = _ := place?_of_ramWord? found
  simp only [read, placed, storage]

/-- Write words one after the other. -/
def writeWords (space : AddressSpace) (words : List (UInt32 × UInt32)) : AddressSpace :=
  words.foldl (fun space (address, word) => space.write .word address word) space

@[simp]
theorem writeWords_cons
    (space : AddressSpace)
    (entry : UInt32 × UInt32)
    (rest : List (UInt32 × UInt32)) :
    space.writeWords (entry :: rest) =
      (space.write .word entry.1 entry.2).writeWords rest :=
  rfl

/-- Words apart from an address in RAM leave the word at it alone. -/
theorem read_writeWords_of_apart
    {words : List (UInt32 × UInt32)}
    {address : UInt32}
    (apart : ∀ entry, entry ∈ words → ramWordsApart address entry.1 = true)
    (space : AddressSpace) :
    (space.writeWords words).read .word address = space.read .word address := by
  induction words generalizing space with
  | nil => rfl
  | cons entry rest inductionHypothesis =>
      have entryApart := apart entry (.head _)
      unfold ramWordsApart at entryApart
      split at entryApart
      · next offset entryOffset found entryFound =>
          have outside : offset + 4 ≤ entryOffset ∨ entryOffset + 4 ≤ offset := by
            simpa using entryApart
          rw [writeWords_cons,
            inductionHypothesis fun later member => apart later (.tail _ member),
            write_of_ramWord? entryFound, read_of_ramWord? found,
            read_of_ramWord? found, getLittle_setLittle_of_outside]
          simpa only [Width.bytes] using outside
      · cases entryApart

theorem ramSize_write
    {space : AddressSpace}
    (sized : space.ram.size = Region.ram.size)
    {address : UInt32}
    (inRam : (ramWord? address).isSome = true)
    (word : UInt32) :
    (space.write .word address word).ram.size = Region.ram.size := by
  obtain ⟨offset, found⟩ := Option.isSome_iff_exists.mp inRam
  rw [write_of_ramWord? found, ← sized]
  exact size_setLittle space.ram offset word .word

/-- Words that do not overlap all read back. -/
theorem read_writeWords
    {words : List (UInt32 × UInt32)}
    {address word : UInt32}
    {space : AddressSpace}
    (sized : space.ram.size = Region.ram.size)
    (inRam : ∀ entry, entry ∈ words → (ramWord? entry.1).isSome = true)
    (apart : words.Pairwise fun first second => ramWordsApart first.1 second.1 = true)
    (member : (address, word) ∈ words) :
    (space.writeWords words).read .word address = word := by
  induction words generalizing space with
  | nil => cases member
  | cons entry rest inductionHypothesis =>
      rw [List.pairwise_cons] at apart
      obtain ⟨offset, found⟩ := Option.isSome_iff_exists.mp (inRam entry (.head _))
      have inside : offset + 4 ≤ space.ram.size := by
        rw [sized]
        exact le_size_of_ramWord? found
      rw [writeWords_cons]
      rcases List.mem_cons.mp member with isFirst | inRest
      · subst isFirst
        rw [read_writeWords_of_apart apart.1, write_of_ramWord? found,
          read_of_ramWord? found, getLittle_setLittle_word inside]
      · exact inductionHypothesis
          (ramSize_write sized (inRam entry (.head _)) entry.2)
          (fun later inRest => inRam later (.tail _ inRest)) apart.2 inRest

end AddressSpace

/-- The words of a guest program, with the traps, do not overlap in RAM. -/
def isProgram (words : List (UInt32 × UInt32)) : Bool :=
  (Trap.planted ++ words).all (fun entry => (ramWord? entry.1).isSome) &&
    decide
      ((Trap.planted ++ words).Pairwise fun first second =>
        ramWordsApart first.1 second.1 = true)

/-- Memory after power-on, with the traps and a guest program. -/
def memoryWith (words : List (UInt32 × UInt32)) : AddressSpace :=
  (Trap.plant AddressSpace.blank.setUp).writeWords words

/-- The traps and a guest program read back. -/
theorem read_memoryWith
    {words : List (UInt32 × UInt32)}
    {address word : UInt32}
    (program : isProgram words = true)
    (member : (address, word) ∈ Trap.planted ++ words) :
    (memoryWith words).read .word address = word := by
  simp only [isProgram, Bool.and_eq_true, List.all_eq_true, decide_eq_true_eq] at program
  have together :
      memoryWith words =
        (Trap.plantRom AddressSpace.blank.setUp).writeWords (Trap.planted ++ words) :=
    List.foldl_append.symm
  rw [together]
  exact AddressSpace.read_writeWords (size_zeroBytes _) program.1 program.2 member

/-- The bus reads plain memory where there is no device. -/
theorem Bus.read_of_noPort
    {bus : Bus}
    {address : UInt32}
    (noPort : port? address = none)
    (width : Width) :
    bus.read width address = bus.memory.read width address := by
  simp only [Bus.read, noPort]

end PsxPlayer
