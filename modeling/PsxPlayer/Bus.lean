import PsxPlayer.Counter
import PsxPlayer.Dma
import PsxPlayer.Interrupt
import PsxPlayer.Memory.Space
import PsxPlayer.Sound.Link

namespace PsxPlayer

/-!
# Bus

All memory accesses of the processor go through the bus. Most reach plain
memory; those to the hardware registers below reach a device.

```text
0x1F801070, 0x1F801074  interrupt status and mask
0x1F8010C0-0x1F8010CB   DMA channel 4
0x1F8010F0, 0x1F8010F4  DMA priority and interrupt
0x1F801100-0x1F80113F   root counters
0x1F801C00-0x1F801DFF   sound
```

A register is read whole and shifted down to the byte lane of the access. A
narrow write is merged into the register's value first, except that lanes
outside a write to the interrupt status count as zero.
-/

/-- The registers of a root counter. -/
inductive CounterRegister where
  | count
  | mode
  | target
  | unused
  deriving DecidableEq, Repr

/-- A hardware register that belongs to a device. -/
inductive Port where
  | interruptStatus
  | interruptMask
  | dmaAddress
  | dmaBlock
  | dmaControl
  | dmaPriority
  | dmaInterrupt
  | counter (index : Nat) (register : CounterRegister)
  | sound
  deriving DecidableEq, Repr

namespace Port

/-- The counter register at an offset in a counter's block. -/
def counterRegister (offset : UInt32) : CounterRegister :=
  if offset = 0 then .count
  else if offset = 4 then .mode
  else if offset = 8 then .target
  else .unused

/-- The device register that holds a physical address. -/
def ofAddress? (address : UInt32) : Option Port :=
  let aligned := address &&& 0xFFFFFFFC
  if soundBase ≤ aligned ∧ aligned ≤ soundLast then
    some .sound
  else if 0x1F801100 ≤ aligned ∧ aligned ≤ 0x1F80113F then
    some (.counter ((aligned >>> 4) &&& 3).toNat (counterRegister (aligned &&& 0xF)))
  else if aligned = 0x1F801070 then some .interruptStatus
  else if aligned = 0x1F801074 then some .interruptMask
  else if aligned = 0x1F8010C0 then some .dmaAddress
  else if aligned = 0x1F8010C4 then some .dmaBlock
  else if aligned = 0x1F8010C8 then some .dmaControl
  else if aligned = 0x1F8010F0 then some .dmaPriority
  else if aligned = 0x1F8010F4 then some .dmaInterrupt
  else none

end Port

/-- Memory and the devices. -/
structure Bus where
  memory : AddressSpace
  interrupts : InterruptController
  counters : CounterBank
  dma : DmaController
  link : SoundLink Tape

/-- An action on the bus, which may need the sound worker and fail without it. -/
abbrev BusAction := EStateM Fault Bus

namespace Bus

/-- A bus after power-on, with memory set up. -/
def initial (vsyncRate : Nat) (link : SoundLink Tape) : Bus where
  memory := AddressSpace.blank.setUp
  interrupts := .initial
  counters := .initial vsyncRate
  dma := .initial
  link := link

/-- Reset memory and devices. -/
def reset (bus : Bus) : Bus :=
  { memory := bus.memory.clear
    interrupts := .initial
    counters := bus.counters.reset
    dma := .initial
    link := bus.link.modifySound SoundProcessor.reset }

/-- Change the sound processor. -/
@[inline]
def modifySound (bus : Bus) (change : SoundProcessor → SoundProcessor) : Bus :=
  match bus with
  | ⟨memory, interrupts, counters, dma, link⟩ =>
      ⟨memory, interrupts, counters, dma, link.modifySound change⟩

/-- The value of a counter register. -/
def readCounter (bus : Bus) (index : Nat) : CounterRegister → UInt32
  | .count => bus.counters.readCount index
  | .mode => (bus.counters.get index).mode
  | .target => (bus.counters.get index).target
  | .unused => 0

/-- The value of a device register other than the sound registers. -/
def readPort (bus : Bus) : Port → UInt32
  | .interruptStatus => bus.interrupts.status.toUInt32
  | .interruptMask => bus.interrupts.mask.toUInt32
  | .dmaAddress => bus.dma.channel.baseAddress
  | .dmaBlock => bus.dma.channel.blockControl
  | .dmaControl => bus.dma.channel.control
  | .dmaPriority => bus.dma.priority
  | .dmaInterrupt => bus.dma.readInterrupt
  | .counter index register => bus.readCounter index register
  | .sound => 0

/-- Read sound registers, which are halfwords: a word takes two of them. -/
def readSound (bus : Bus) (width : Width) (address : UInt32) : UInt32 :=
  let sound := bus.link.sound
  match width with
  | .word =>
      (sound.read address).toUInt32 ||| ((sound.read (address + 2)).toUInt32 <<< (16 : UInt32))
  | _ =>
      (sound.read (address &&& 0xFFFFFFFE)).toUInt32 >>> (8 * (address &&& 1))

/-- Read a device register at a physical address. -/
def readDevice (bus : Bus) (width : Width) (address : UInt32) : Port → UInt32
  | .sound => bus.readSound width address &&& width.mask
  | port => (bus.readPort port >>> (8 * (address &&& 3))) &&& width.mask

/-- The zero-extended value of `width` at `address`. -/
def read (bus : Bus) (width : Width) (address : UInt32) : UInt32 :=
  match port? address with
  | some physical =>
      match Port.ofAddress? physical with
      | some port => bus.readDevice width physical port
      | none => bus.memory.read width address
  | none => bus.memory.read width address

/-- The byte at `address`. -/
def readByte (bus : Bus) (address : UInt32) : UInt8 :=
  (bus.read .byte address).toUInt8

/-- Move the clock by one instruction. -/
def tick (bus : Bus) : Bus :=
  { bus with counters := bus.counters.advance 1 }

/-- Service the counters. -/
def updateCounters : BusAction Unit := fun bus =>
  match bus with
  | ⟨memory, interrupts, counters, dma, link⟩ =>
      match counters.update interrupts link with
      | ⟨counters, interrupts, .ok () link⟩ =>
          .ok () ⟨memory, interrupts, counters, dma, link⟩
      | ⟨counters, interrupts, .error fault link⟩ =>
          .error fault ⟨memory, interrupts, counters, dma, link⟩

/-- Bring the audio up to the clock. -/
def runAudio : BusAction Unit := fun bus =>
  match bus with
  | ⟨memory, interrupts, counters, dma, link⟩ =>
      match counters.runAudio link with
      | (counters, .ok () link) => .ok () ⟨memory, interrupts, counters, dma, link⟩
      | (counters, .error fault link) =>
          .error fault ⟨memory, interrupts, counters, dma, link⟩

/-- Send a request to the sound worker. -/
def request (request : SoundRequest) : BusAction Unit := fun bus =>
  match bus with
  | ⟨memory, interrupts, counters, dma, link⟩ =>
      match (SoundLink.request request).run link with
      | .ok () link => .ok () ⟨memory, interrupts, counters, dma, link⟩
      | .error fault link => .error fault ⟨memory, interrupts, counters, dma, link⟩

/-- Write a sound register without telling the worker. -/
def keepSound (address : UInt32) (value : UInt16) : BusAction Unit :=
  modify fun bus => bus.modifySound fun sound => sound.write address value

/-- Send one request for each voice. -/
def requestEach (make : Nat → SoundRequest) : List Nat → BusAction Unit
  | [] => pure ()
  | voice :: rest => do
      request (make voice)
      requestEach make rest

/--
Write one sound register. A write that changes what sounds first brings the
audio up to the clock, and then has the worker carry it out.
-/
def writeSoundRegister (address : UInt32) (value : UInt16) : BusAction Unit :=
  match SoundRegister.ofAddress address with
  | .keyOn half => do
      runAudio
      keepSound address value
      requestEach .noteOn (half.voices value)
  | .keyOff half => do
      runAudio
      keepSound address value
      requestEach .noteOff (half.voices value)
  | .transferFifo => do
      runAudio
      keepSound address value
  | .voice index .loopAddress => do
      runAudio
      keepSound address value
      request (.overrideLoop index)
  | _ => keepSound address value

/-- Write sound registers: a word writes two, a byte changes half of one. -/
def writeSound (width : Width) (address value : UInt32) : BusAction Unit :=
  match width with
  | .word => do
      writeSoundRegister address value.toUInt16
      writeSoundRegister (address + 2) (value >>> 16).toUInt16
  | .half => writeSoundRegister address value.toUInt16
  | .byte => do
      let even := address &&& 0xFFFFFFFE
      let old := ((← get).link.sound.read even).toUInt32
      writeSoundRegister even (mergeLanes old value (address &&& 1) .byte).toUInt16

/-- Bytes that the programmed transfer moves; it ends at the end of RAM. -/
def transferLength (channel : DmaChannel) : Nat :=
  min (channel.wordCount * 4) (Region.ram.size - channel.address.toNat)

/-- Move the bytes of the programmed transfer. -/
def moveBlock (bus : Bus) : Bus :=
  let address := bus.dma.channel.address
  let length := transferLength bus.dma.channel
  match bus.dma.channel.direction with
  | .fromRam =>
      match bus.memory.ramSlice? address length with
      | some block => bus.modifySound fun sound => sound.pushBlock block
      | none => bus
  | .toRam =>
      if (AddressSpace.ramRun? address length).isSome then
        let (block, sound) := bus.link.sound.popBlock length
        match bus with
        | ⟨memory, interrupts, counters, dma, link⟩ =>
            ⟨memory.ramSplice address block, interrupts, counters, dma,
              link.modifySound fun _ => sound⟩
      else
        bus

/-- End the programmed transfer and raise its interrupt. -/
def completeTransfer (bus : Bus) : Bus :=
  let (raised, dma) := bus.dma.complete bus.dma.channel.wordCount
  { bus with
    dma := dma
    interrupts := if raised then bus.interrupts.request .dma else bus.interrupts }

/-- Carry out the programmed transfer at once. -/
def runTransfer : BusAction Unit := do
  runAudio
  modify fun bus => bus.moveBlock.completeTransfer

/-- Write a counter register. -/
def writeCounter (bus : Bus) (index : Nat) (value : UInt32) : CounterRegister → Bus
  | .count => { bus with counters := bus.counters.writeCount index value }
  | .mode => { bus with counters := bus.counters.writeMode index value }
  | .target => { bus with counters := bus.counters.writeTarget index value }
  | .unused => bus

/-- Write a device register at a physical address. -/
def writeDevice (width : Width) (address value : UInt32) (port : Port) : BusAction Unit := do
  let merged := fun old => mergeLanes old value address width
  match port with
  | .interruptStatus =>
      modify fun bus => { bus with interrupts := bus.interrupts.writeStatus (merged 0) }
  | .interruptMask =>
      modify fun bus =>
        { bus with
          interrupts := bus.interrupts.writeMask (merged (bus.readPort .interruptMask)) }
  | .dmaAddress =>
      modify fun bus =>
        { bus with dma := bus.dma.writeBaseAddress (merged (bus.readPort .dmaAddress)) }
  | .dmaBlock =>
      modify fun bus =>
        { bus with dma := bus.dma.writeBlockControl (merged (bus.readPort .dmaBlock)) }
  | .dmaControl =>
      modify fun bus =>
        { bus with dma := bus.dma.writeControl (merged (bus.readPort .dmaControl)) }
      if (← get).dma.channel.isActive then
        runTransfer
  | .dmaPriority =>
      modify fun bus =>
        { bus with dma := bus.dma.writePriority (merged (bus.readPort .dmaPriority)) }
  | .dmaInterrupt =>
      modify fun bus =>
        { bus with
          dma :=
            bus.dma.writeInterrupt (merged (bus.readPort .dmaInterrupt &&& 0x00FFFFFF)) }
  | .counter index register =>
      modify fun bus => bus.writeCounter index (merged (bus.readCounter index register)) register
  | .sound => writeSound width address value

/-- Write plain memory. -/
def writeMemory (width : Width) (address value : UInt32) : BusAction Unit := fun bus =>
  match bus with
  | ⟨memory, interrupts, counters, dma, link⟩ =>
      .ok () ⟨memory.write width address value, interrupts, counters, dma, link⟩

/-- Store the low bytes of `value` at `address`. -/
def write (width : Width) (address value : UInt32) : BusAction Unit :=
  match port? address with
  | some physical =>
      match Port.ofAddress? physical with
      | some port => writeDevice width physical value port
      | none => writeMemory width address value
  | none => writeMemory width address value

/-- Stop the sound worker. -/
def closeLink : BusAction Unit := fun bus =>
  match bus with
  | ⟨memory, interrupts, counters, dma, link⟩ =>
      match SoundLink.close.run link with
      | .ok () link => .ok () ⟨memory, interrupts, counters, dma, link⟩
      | .error fault link => .error fault ⟨memory, interrupts, counters, dma, link⟩

end Bus

end PsxPlayer
