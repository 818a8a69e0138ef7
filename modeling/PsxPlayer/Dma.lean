namespace PsxPlayer

/-!
# Sound DMA

The registers of DMA channel 4, which moves words between main RAM and sound
RAM, and of the DMA interrupt. Moving the bytes is the bus's work; here a write
to the channel control says whether a transfer starts, and `complete` ends it.
-/

/-- Registers of the sound channel. -/
structure DmaChannel where
  /-- RAM address, 24 bits. -/
  baseAddress : UInt32
  /-- Block size in bits 0-15, block count in bits 16-31. -/
  blockControl : UInt32
  /-- Direction in bit 0, mode in bits 9-10, start in bit 24, trigger in bit 28. -/
  control : UInt32
  deriving DecidableEq, Repr

/-- Direction of a transfer. -/
inductive DmaDirection where
  | toRam
  | fromRam
  deriving DecidableEq, Repr

namespace DmaChannel

def startBit : UInt32 := 0x01000000

def triggerBit : UInt32 := 0x10000000

/-- Whether the start bit is set. -/
def isActive (channel : DmaChannel) : Bool :=
  channel.control &&& startBit != 0

/-- Direction of the programmed transfer. -/
def direction (channel : DmaChannel) : DmaDirection :=
  if channel.control &&& 1 != 0 then .fromRam else .toRam

/-- Mode of the programmed transfer: 0 moves one block, others a block sequence. -/
def mode (channel : DmaChannel) : UInt32 :=
  (channel.control >>> 9) &&& 3

/-- Word-aligned RAM address of the transfer. -/
def address (channel : DmaChannel) : UInt32 :=
  channel.baseAddress &&& 0x001FFFFC

/-- Words in one block. -/
def blockSize (channel : DmaChannel) : Nat :=
  (channel.blockControl &&& 0xFFFF).toNat

/-- Blocks in a sequence. -/
def blockCount (channel : DmaChannel) : Nat :=
  (channel.blockControl >>> 16).toNat

/-- Words the programmed transfer moves; a single block of size 0 is 0x10000 words. -/
def wordCount (channel : DmaChannel) : Nat :=
  if channel.mode = 0 then
    if channel.blockSize = 0 then 0x10000 else channel.blockSize
  else
    channel.blockSize * channel.blockCount

end DmaChannel

/-- The sound channel with the controller's own registers. -/
structure DmaController where
  channel : DmaChannel
  /-- Channel priorities and enables. -/
  priority : UInt32
  /-- Interrupt register without its computed bit 31. -/
  interrupt : UInt32
  deriving DecidableEq, Repr

namespace DmaController

/-- The state after power-on. -/
def initial : DmaController where
  channel := ⟨0, 0, 0⟩
  priority := 0x07654321
  interrupt := 0

/-- Bit 23 of the interrupt register: let channel flags through. -/
def masterEnable : UInt32 := 0x00800000

/-- Bit 20 of the interrupt register: enable the sound channel's flag. -/
def channelEnable : UInt32 := 0x00100000

/-- Bit 28 of the interrupt register: the sound channel has finished. -/
def channelFlag : UInt32 := 0x10000000

def writeBaseAddress (dma : DmaController) (value : UInt32) : DmaController :=
  { dma with channel := { dma.channel with baseAddress := value &&& 0x00FFFFFF } }

def writeBlockControl (dma : DmaController) (value : UInt32) : DmaController :=
  { dma with channel := { dma.channel with blockControl := value } }

/-- Write the channel control. A transfer starts when the channel is then active. -/
def writeControl (dma : DmaController) (value : UInt32) : DmaController :=
  { dma with channel := { dma.channel with control := value } }

def writePriority (dma : DmaController) (value : UInt32) : DmaController :=
  { dma with priority := value }

/-- Whether the interrupt condition holds: forced, or an enabled flag under the master enable. -/
def interruptActive (dma : DmaController) : Bool :=
  let forced := dma.interrupt &&& 0x8000 != 0
  let enabled := (dma.interrupt >>> 16) &&& 0x7F
  let flags := (dma.interrupt >>> 24) &&& 0x7F
  forced || (dma.interrupt &&& masterEnable != 0 && enabled &&& flags != 0)

/-- Read the interrupt register; bit 31 shows the interrupt condition. -/
def readInterrupt (dma : DmaController) : UInt32 :=
  let stored := dma.interrupt &&& 0x7FFFFFFF
  if dma.interruptActive then stored ||| 0x80000000 else stored

/-- Write the interrupt register: bits 0-23 are stored, flags written as 1 are cleared. -/
def writeInterrupt (dma : DmaController) (value : UInt32) : DmaController :=
  let flags := dma.interrupt &&& 0x7F000000
  let kept := flags &&& ~~~(value &&& 0x7F000000)
  { dma with interrupt := (value &&& 0x00FFFFFF) ||| kept }

/--
End a transfer of `words` words: a block sequence leaves the RAM address behind
its last word, the start and trigger bits fall, and an enabled channel latches
its flag. The result tells whether the interrupt line is raised.
-/
def complete (dma : DmaController) (words : Nat) : Bool × DmaController :=
  let channel := dma.channel
  let baseAddress :=
    if channel.mode = 1 then
      (channel.baseAddress + UInt32.ofNat (words * 4)) &&& 0x00FFFFFF
    else
      channel.baseAddress
  let channel : DmaChannel :=
    { channel with
      baseAddress := baseAddress
      control :=
        channel.control &&& ~~~(DmaChannel.startBit ||| DmaChannel.triggerBit) }
  if dma.interrupt &&& channelEnable = 0 then
    (false, { dma with channel := channel })
  else
    let interrupt := dma.interrupt ||| channelFlag
    (interrupt &&& masterEnable != 0,
      { dma with channel := channel, interrupt := interrupt })

end DmaController

end PsxPlayer
