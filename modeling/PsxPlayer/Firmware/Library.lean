import PsxPlayer.Firmware.Call
import PsxPlayer.Firmware.Text

namespace PsxPlayer

/-!
# Library functions

The functions of the first library table that sound drivers use: saved contexts,
strings, blocks of memory, random numbers, the heap and formatted output.
-/

/-- A function of the first table. -/
inductive LibraryFunction where
  | saveContext
  | restoreContext
  | compareText
  | copyText
  | textLength
  | clearBlock
  | copyBlock
  | fillBlock
  | moveBlock
  | random
  | seedRandom
  | allocate
  | release
  | startHeap
  | printFormat
  | flushCache
  deriving DecidableEq, Repr

namespace LibraryFunction

/-- The function with a number. -/
def ofNumber? (number : UInt32) : Option LibraryFunction :=
  match number.toNat with
  | 0x13 => some .saveContext
  | 0x14 => some .restoreContext
  | 0x17 => some .compareText
  | 0x19 => some .copyText
  | 0x1B => some .textLength
  | 0x28 => some .clearBlock
  | 0x2A => some .copyBlock
  | 0x2B => some .fillBlock
  | 0x2C => some .moveBlock
  | 0x2F => some .random
  | 0x30 => some .seedRandom
  | 0x33 => some .allocate
  | 0x34 => some .release
  | 0x39 => some .startHeap
  | 0x3F => some .printFormat
  | 0x44 => some .flushCache
  | _ => none

end LibraryFunction

/-- The registers in a saved context, in the order of its words. -/
def contextRegisters : List Reg :=
  [Reg.ra, Reg.sp, Reg.fp] ++ Reg.saved ++ [Reg.gp]

/-- The next state of the random number generator. -/
def nextSeed (seed : UInt32) : UInt32 :=
  seed * 1103515245 + 12345

/-- The random number that a state gives, 15 bits. -/
def randomOf (seed : UInt32) : UInt32 :=
  (seed >>> 16) &&& 0x7FFF

/-- The order of two texts as -1, 0 or 1. -/
def orderWord (left right : ByteArray) : UInt32 :=
  match compare left.toList right.toList with
  | .lt => 0xFFFFFFFF
  | .eq => 0
  | .gt => 1

namespace Action

/-- Store registers in consecutive words. -/
def writeContext (address : UInt32) : List Reg → Action Unit
  | [] => pure ()
  | register :: rest => do
      write .word address (← getReg register)
      writeContext (address + 4) rest

/-- Load registers from consecutive words. -/
def readContext (address : UInt32) : List Reg → Action Unit
  | [] => pure ()
  | register :: rest => do
      setReg register (← read .word address)
      readContext (address + 4) rest

/-- Continue where a context was saved, with a result for it. -/
def restoreContext (address value : UInt32) : Action Unit := do
  readContext address contextRegisters
  result value
  returnToCaller

/-- Fill `count` bytes. -/
def fillBytes (value : UInt32) (address : UInt32) : Nat → Action Unit
  | 0 => pure ()
  | count + 1 => do
      write .byte address value
      fillBytes value (address + 1) count

/-- Copy `count` bytes one by one, so that an overlap repeats what was copied. -/
def copyBytes (target source : UInt32) : Nat → Action Unit
  | 0 => pure ()
  | count + 1 => do
      write .byte target (← read .byte source)
      copyBytes (target + 1) (source + 1) count

/-- Append `count` bytes of memory. -/
def appendBytes (bus : Bus) (address : UInt32) : Nat → ByteArray → ByteArray
  | 0, found => found
  | count + 1, found => appendBytes bus (address + 1) count (found.push (bus.readByte address))

/-- Write bytes to memory. -/
def writeBytes (address : UInt32) : List UInt8 → Action Unit
  | [] => pure ()
  | byte :: rest => do
      write .byte address byte.toUInt32
      writeBytes (address + 1) rest

/-- The text that an argument points to. -/
def textArgument (index : Nat) : Action ByteArray := do
  let address ← argument index
  ofBus fun bus => textAt bus address textLimit

/-- Copy a text with its NUL. -/
def copyText : Action Unit := do
  let target ← argument 0
  let text ← textArgument 1
  writeBytes target (text.push 0).toList
  result target

/-- Fill a block and give back its address. -/
def fillBlock (value : UInt32) (length : Nat) : Action Unit := do
  let target ← argument 0
  fillBytes value target length
  result target

/-- Copy a block as if through a buffer of its own. -/
def moveBlock : Action Unit := do
  let target ← argument 0
  let source ← argument 1
  let length ← lengthArgument 2
  let block ← ofBus fun bus => appendBytes bus source length ByteArray.empty
  writeBytes target block.toList
  result target

/-- Allocate from the heap; the result is 0 when there is no room. -/
def allocate : Action Unit := do
  let size ← argument 0
  match ← ofFirmware fun firmware => firmware.heap.allocate? size with
  | some (address, heap) =>
      modifyFirmware fun firmware => { firmware with heap := heap }
      result address
  | none => result 0

/-- Release an allocation. -/
def release : Action Unit := do
  let address ← argument 0
  modifyFirmware fun firmware =>
    { firmware with heap := (firmware.heap.release? address).getD firmware.heap }

/-- Print a format; the result is the length of the text in bytes. -/
def printFormat : Action Unit := do
  let registers ← ofRegisters id
  let text ← ofBus fun bus => Format.render bus registers
  print (withoutLineEnds text)
  result (UInt32.ofNat text.utf8ByteSize)

/-- Carry out a function of the first table. -/
def callLibrary : LibraryFunction → Action Unit
  | .saveContext => do
      writeContext (← argument 0) contextRegisters
      result 0
  | .restoreContext => do
      restoreContext (← argument 0) (← argument 1)
  | .compareText => do
      result (orderWord (← textArgument 0) (← textArgument 1))
  | .copyText => copyText
  | .textLength => do
      result (UInt32.ofNat (← textArgument 0).size)
  | .clearBlock => do
      fillBlock 0 (← lengthArgument 1)
  | .copyBlock => do
      let target ← argument 0
      copyBytes target (← argument 1) (← lengthArgument 2)
      result target
  | .fillBlock => do
      fillBlock (← argument 1) (← lengthArgument 2)
  | .moveBlock => moveBlock
  | .random => do
      modifyFirmware fun firmware => { firmware with seed := nextSeed firmware.seed }
      result (randomOf (← ofFirmware Firmware.seed))
  | .seedRandom => do
      let seed ← argument 0
      modifyFirmware fun firmware => { firmware with seed := seed }
  | .allocate => allocate
  | .release => release
  | .startHeap => do
      let heap := Heap.ofRange (← argument 0) (← argument 1)
      modifyFirmware fun firmware => { firmware with heap := heap }
  | .printFormat => printFormat
  | .flushCache => pure ()

end Action

end PsxPlayer
