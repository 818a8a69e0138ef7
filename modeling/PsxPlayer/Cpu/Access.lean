import PsxPlayer.Cpu.Machine

namespace PsxPlayer

/-!
# Memory access

Loads and stores of the processor. A halfword or word access has to be aligned;
the left and right forms move the part of an unaligned word that lies in one
aligned word. While the cache is isolated, stores do not reach memory.
-/

/-- The address of an access: a register plus a signed offset. -/
def effectiveAddress (base offset : UInt32) : UInt32 :=
  base + signExtend16 offset

/-- The aligned word that holds an address. -/
def alignedWord (address : UInt32) : UInt32 :=
  address &&& 0xFFFFFFFC

/-- Bits below the byte that an address names in its word. -/
def bitsBelow (address : UInt32) : UInt32 :=
  8 * (address &&& 3)

/-- Bits above the byte that an address names in its word. -/
def bitsAbove (address : UInt32) : UInt32 :=
  24 - bitsBelow address

/-- Put `value` moved up by `shift` bits over the upper end of `old`. -/
def pasteUp (shift old value : UInt32) : UInt32 :=
  (old &&& ~~~(0xFFFFFFFF <<< shift)) ||| (value <<< shift)

/-- Put `value` moved down by `shift` bits over the lower end of `old`. -/
def pasteDown (shift old value : UInt32) : UInt32 :=
  (old &&& ~~~(0xFFFFFFFF >>> shift)) ||| (value >>> shift)

namespace Action

/-- Load what lies at an aligned address, or raise an address error. -/
@[inline]
def loadAligned
    (width : Width)
    (extend : UInt32 → UInt32)
    (target : Reg)
    (address : UInt32) :
    Action Unit := do
  if width.aligned address then
    setReg target (extend (← read width address))
  else
    raiseAddress .addressErrorLoad address

/-- Put the word that holds an address over a part of a register. -/
@[inline]
def loadPart
    (paste : UInt32 → UInt32 → UInt32)
    (target : Reg)
    (address : UInt32) :
    Action Unit := do
  let word ← read .word (alignedWord address)
  setReg target (paste (← getReg target) word)

/-- Carry out a load. -/
def load (op : LoadOp) (target base : Reg) (offset : UInt32) : Action Unit := do
  let address := effectiveAddress (← getReg base) offset
  match op with
  | .signedByte => loadAligned .byte signExtend8 target address
  | .byte => loadAligned .byte id target address
  | .signedHalf => loadAligned .half signExtend16 target address
  | .half => loadAligned .half id target address
  | .word => loadAligned .word id target address
  | .left => loadPart (pasteUp (bitsAbove address)) target address
  | .right => loadPart (pasteDown (bitsBelow address)) target address

/-- Write memory unless the cache is isolated. -/
@[inline]
def writeThrough (width : Width) (address value : UInt32) : Action Unit := do
  if (← getSystem SystemRegisters.status) &&& SystemRegisters.isolateBit = 0 then
    write width address value

/-- Store at an aligned address, or raise an address error. -/
@[inline]
def storeAligned (width : Width) (address value : UInt32) : Action Unit :=
  if width.aligned address then
    writeThrough width address value
  else
    raiseAddress .addressErrorStore address

/-- Put a register over a part of the word that holds an address. -/
@[inline]
def storePart
    (paste : UInt32 → UInt32 → UInt32)
    (address value : UInt32) :
    Action Unit := do
  let memory ← read .word (alignedWord address)
  writeThrough .word (alignedWord address) (paste memory value)

/-- Carry out a store. -/
def store (op : StoreOp) (source base : Reg) (offset : UInt32) : Action Unit := do
  let address := effectiveAddress (← getReg base) offset
  let value ← getReg source
  match op with
  | .byte => storeAligned .byte address value
  | .half => storeAligned .half address value
  | .word => storeAligned .word address value
  | .left => storePart (pasteDown (bitsAbove address)) address value
  | .right => storePart (pasteUp (bitsBelow address)) address value

end Action

end PsxPlayer
