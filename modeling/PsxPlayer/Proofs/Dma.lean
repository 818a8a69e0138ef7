import PsxPlayer.Proofs.Sound.Asked
import PsxPlayer.Proofs.Sound.Transfer

namespace PsxPlayer

/-!
# Sound transfers

A store to the channel control that carries the start bit does the whole transfer.  As many
bytes as are programmed, but none behind the end of RAM, go between RAM and sound RAM, where
they go round at its end, and nothing else in either of them changes.
-/

namespace DmaChannel

/-- The RAM address wraps around the end of RAM, and is a multiple of 4. -/
theorem toNat_address (channel : DmaChannel) :
    channel.address.toNat = channel.baseAddress.toNat % 0x200000 / 4 * 4 := by
  have masked :
      channel.address.toNat = channel.baseAddress.toNat / 2 ^ 2 % 2 ^ 19 * 2 ^ 2 := by
    rw [← and_shiftedMask]
    exact UInt32.toNat_and _ _
  rw [masked]
  omega

/-- A transfer starts in RAM. -/
theorem address_inRam (channel : DmaChannel) : channel.address.toNat < Region.ram.size := by
  rw [toNat_address, Region.size]
  omega

end DmaChannel

namespace DmaController

/-- Whether a completed transfer raises the interrupt line. -/
def Raises (dma : DmaController) : Prop :=
  dma.interrupt &&& channelEnable ≠ 0 ∧ dma.interrupt &&& masterEnable ≠ 0

/-- The end of a transfer raises the line exactly if its interrupt is enabled. -/
theorem complete_fst_iff
    (dma : DmaController)
    (words : Nat) :
    (dma.complete words).1 = true ↔ dma.Raises := by
  have flagApart :
      (dma.interrupt ||| channelFlag) &&& masterEnable = dma.interrupt &&& masterEnable := by
    have split :
        (dma.interrupt ||| channelFlag) &&& masterEnable =
          dma.interrupt &&& masterEnable ||| channelFlag &&& masterEnable :=
      UInt32.toBitVec_inj.mp BitVec.and_or_distrib_right
    exact split.trans UInt32.or_zero
  unfold complete Raises
  dsimp only
  split
  · next disabled =>
      exact ⟨fun raised => Bool.noConfusion raised, fun raises => absurd disabled raises.1⟩
  · next enabled =>
      rw [flagApart, bne_iff_ne]
      exact ⟨fun master => ⟨enabled, master⟩, fun raises => raises.2⟩

/-- The start and the trigger bit fall. -/
theorem complete_control
    (dma : DmaController)
    (words : Nat) :
    (dma.complete words).2.channel.control =
      dma.channel.control &&& ~~~(DmaChannel.startBit ||| DmaChannel.triggerBit) := by
  unfold complete
  dsimp only
  split <;> rfl

/-- A block sequence moves the RAM address, of which there are 24 bits. -/
theorem complete_baseAddress
    {dma : DmaController}
    (isSequence : dma.channel.mode = 1)
    (words : Nat) :
    (dma.complete words).2.channel.baseAddress.toNat =
      (dma.channel.baseAddress.toNat + 4 * words) % 2 ^ 24 := by
  have stored :
      (dma.complete words).2.channel.baseAddress =
        (dma.channel.baseAddress + UInt32.ofNat (words * 4)) &&& 0x00FFFFFF := by
    unfold complete
    dsimp only
    rw [if_pos isSequence]
    split <;> rfl
  have masked (number : Nat) : number &&& 0x00FFFFFF = number % 2 ^ 24 :=
    Nat.and_two_pow_sub_one_eq_mod number 24
  have mask : (0x00FFFFFF : UInt32).toNat = 0x00FFFFFF := rfl
  rw [stored, UInt32.toNat_and, UInt32.toNat_add, UInt32.toNat_ofNat', mask, masked]
  omega

end DmaController

namespace AddressSpace

/-- A run that lies in the lowest RAM is stored at its address. -/
theorem ramRun?_of_inside
    {address : UInt32}
    {length : Nat}
    (low : address.toNat < Region.ram.size)
    (inside : address.toNat + length ≤ Region.ram.size) :
    ramRun? address length = some address.toNat := by
  rw [Region.size] at low
  have inRam : InRam address := by
    refine ⟨address.toNat, ?_, by omega⟩
    rw [physical?, if_pos (.inl (by omega)), Nat.mod_eq_of_lt (by omega)]
  have place : place? address 1 = some ⟨.ram, address.toNat⟩ := by
    rw [show 1 = Width.byte.bytes from rfl, place?_eq_storedAt? rfl, storedAt?_of_inRam inRam,
      Nat.mod_eq_of_lt low]
  unfold ramRun?
  simp only [place]
  exact if_pos inside

/-- A run that is put into RAM goes in byte by byte, and into nothing else. -/
theorem ramSplice_copied
    {space : AddressSpace}
    {address : UInt32}
    {run : ByteArray}
    (sized : space.IsSized)
    (low : address.toNat < Region.ram.size)
    (inside : address.toNat + run.size ≤ Region.ram.size) :
    Copied run.size (fun index => address.toNat + index) run.get! space.ram
        (space.ramSplice address run).ram ∧
      ∀ region,
        region ≠ .ram →
        (space.ramSplice address run).storage region = space.storage region := by
  have spliced :
      space.ramSplice address run =
        space.modifyStorage .ram fun bytes => overwrite bytes address.toNat run := by
    unfold ramSplice
    rw [ramRun?_of_inside low inside]
  have inTarget : address.toNat + run.size ≤ space.ram.size := inside.trans_eq (sized .ram).symm
  have inRun : 0 + run.size ≤ run.size := (Nat.zero_add _).le
  have copied := copied_copySlice inRun inTarget
  rw [spliced]
  refine ⟨copied.congr (fun _ _ => rfl) fun index _ => ?_, fun region notRam => ?_⟩
  · rw [Nat.zero_add]
  · exact storage_modifyStorage_of_ne notRam _ _

end AddressSpace

namespace Bus

/-- The bus once a channel control has been stored. -/
def programmed (bus : Bus) (control : UInt32) : Bus :=
  { bus with dma := bus.dma.writeControl control }

/-- An address of the channel control. -/
def IsDmaControl (address : UInt32) : Prop :=
  (port? address).bind Port.ofAddress? = some .dmaControl

/-- The control register has its physical address among its names. -/
theorem isDmaControl_physical : IsDmaControl 0x1F8010C8 := by
  unfold IsDmaControl
  decide

/-- A transfer ends in RAM. -/
theorem transferLength_inRam (channel : DmaChannel) :
    channel.address.toNat + transferLength channel ≤ Region.ram.size := by
  have inRam := channel.address_inRam
  unfold transferLength
  omega

/-- All of a transfer lies in RAM, from its address on. -/
theorem ramRun?_transfer (channel : DmaChannel) :
    AddressSpace.ramRun? channel.address (transferLength channel) = some channel.address.toNat :=
  AddressSpace.ramRun?_of_inside channel.address_inRam (transferLength_inRam channel)

/-! ## The bytes moved -/

/-- The bytes of RAM that the channel is programmed to send. -/
def outgoing (bus : Bus) : ByteArray :=
  bus.memory.ram.extract bus.dma.channel.address.toNat
    (bus.dma.channel.address.toNat + transferLength bus.dma.channel)

/-- A transfer from RAM hands its bytes to sound RAM. -/
theorem moveBlock_fromRam
    {bus : Bus}
    (fromRam : bus.dma.channel.direction = .fromRam) :
    bus.moveBlock = bus.modifySound fun sound => sound.pushBlock bus.outgoing := by
  have run := ramRun?_transfer bus.dma.channel
  unfold moveBlock
  simp only [fromRam, AddressSpace.ramSlice?, run]
  rfl

/-- A transfer to RAM takes its bytes from sound RAM. -/
theorem moveBlock_toRam
    {bus : Bus}
    (toRam : bus.dma.channel.direction = .toRam) :
    bus.moveBlock =
      { bus with
        memory :=
          bus.memory.ramSplice bus.dma.channel.address
            (bus.link.sound.popBlock (transferLength bus.dma.channel)).1
        link :=
          bus.link.modifySound fun sound =>
            (sound.popBlock (transferLength bus.dma.channel)).2 } := by
  have run := ramRun?_transfer bus.dma.channel
  unfold moveBlock
  simp only [toRam, run]
  rfl

/-- The bytes of RAM have gone into sound RAM. -/
structure Sent (channel : DmaChannel) (before after : Bus) : Prop where
  memory : after.memory = before.memory
  soundRam :
    Copied (transferLength channel)
      (fun index => (before.link.sound.transferAddress + index) % soundRamSize)
      (fun index => before.memory.ram.get! (channel.address.toNat + index))
      before.link.sound.ram after.link.sound.ram

/-- The bytes of sound RAM have gone into RAM. -/
structure Taken (channel : DmaChannel) (before after : Bus) : Prop where
  soundRam : after.link.sound.ram = before.link.sound.ram
  ram :
    Copied (transferLength channel)
      (fun index => channel.address.toNat + index)
      (fun index =>
        before.link.sound.ram.get!
          ((before.link.sound.transferAddress + index) % soundRamSize))
      before.memory.ram after.memory.ram
  otherMemory :
    ∀ region, region ≠ .ram → after.memory.storage region = before.memory.storage region

/-- The bytes have gone in the direction of the channel, and the transfer address behind them. -/
structure Moved (channel : DmaChannel) (before after : Bus) : Prop where
  sent : channel.direction = .fromRam → Sent channel before after
  taken : channel.direction = .toRam → Taken channel before after
  transferAddress :
    after.link.sound.transferAddress =
      (before.link.sound.transferAddress + transferLength channel) % soundRamSize

/-- RAM and sound RAM keep their sizes. -/
theorem Moved.keepsSizes
    {channel : DmaChannel}
    {before after : Bus}
    (moved : Moved channel before after)
    (sized : before.memory.IsSized) :
    after.memory.IsSized ∧ after.link.sound.ram.size = before.link.sound.ram.size := by
  cases direction : channel.direction with
  | fromRam =>
      have sent := moved.sent direction
      exact ⟨sent.memory ▸ sized, sent.soundRam.sameSize⟩
  | toRam =>
      have taken := moved.taken direction
      refine ⟨fun region => ?_, congrArg ByteArray.size taken.soundRam⟩
      by_cases isRam : region = .ram
      · subst isRam
        exact taken.ram.sameSize.trans (sized .ram)
      · rw [taken.otherMemory region isRam]
        exact sized region

section

variable {bus : Bus} (sized : bus.memory.IsSized)

include sized

/-- As many bytes leave RAM as the transfer is long. -/
theorem size_outgoing : bus.outgoing.size = transferLength bus.dma.channel := by
  have ramSize : bus.memory.ram.size = Region.ram.size := sized .ram
  have inside := transferLength_inRam bus.dma.channel
  rw [outgoing, ByteArray.size_extract]
  omega

variable (soundSized : bus.link.sound.ram.size = soundRamSize)

include soundSized

/-- A transfer from RAM sends its bytes and moves the address in sound RAM on. -/
theorem moveBlock_sends
    (fromRam : bus.dma.channel.direction = .fromRam) :
    Sent bus.dma.channel bus bus.moveBlock ∧
      bus.moveBlock.link.sound.transferAddress =
        (bus.link.sound.transferAddress + transferLength bus.dma.channel) % soundRamSize := by
  have size := size_outgoing sized
  obtain ⟨copied, moved⟩ :=
    SoundProcessor.pushFrom_copied soundSized
      (Nat.mod_lt bus.link.sound.transferAddress (by decide)) bus.outgoing 0
  rw [size, Nat.sub_zero] at copied moved
  rw [moveBlock_fromRam fromRam]
  refine ⟨⟨rfl, copied.congr (fun index _ => ?_) fun index inside => ?_⟩, moved.trans ?_⟩
  · rw [Nat.mod_add_mod]
  · rw [Nat.zero_add, outgoing, get!_extract inside]
  · rw [Nat.mod_add_mod]

/-- A transfer to RAM takes its bytes and moves the address in sound RAM on. -/
theorem moveBlock_takes
    (toRam : bus.dma.channel.direction = .toRam) :
    Taken bus.dma.channel bus bus.moveBlock ∧
      bus.moveBlock.link.sound.transferAddress =
        (bus.link.sound.transferAddress + transferLength bus.dma.channel) % soundRamSize := by
  have size := SoundProcessor.size_popBlock soundSized (transferLength bus.dma.channel)
  have inRam := transferLength_inRam bus.dma.channel
  rw [← size] at inRam
  obtain ⟨copied, kept⟩ :=
    AddressSpace.ramSplice_copied sized bus.dma.channel.address_inRam inRam
  rw [size] at copied
  rw [moveBlock_toRam toRam]
  refine ⟨⟨rfl, copied.congr (fun _ _ => rfl) fun index inside => ?_, kept⟩, ?_⟩
  · exact (SoundProcessor.get!_popBlock soundSized inside).symm
  · exact
      congrArg SoundProcessor.transferAddress
        (SoundProcessor.popBlock_snd soundSized (transferLength bus.dma.channel))

/-- A transfer moves its bytes. -/
theorem moveBlock_moves : Moved bus.dma.channel bus bus.moveBlock where
  sent fromRam := (moveBlock_sends sized soundSized fromRam).1
  taken toRam := (moveBlock_takes sized soundSized toRam).1
  transferAddress := by
    cases direction : bus.dma.channel.direction with
    | fromRam => exact (moveBlock_sends sized soundSized direction).2
    | toRam => exact (moveBlock_takes sized soundSized direction).2

end

/-! ## Between stores -/

/-- Memory has all of its bytes, and the sound processor is in order. -/
structure IsSized (bus : Bus) : Prop where
  memory : bus.memory.IsSized
  sound : bus.link.sound.WellFormed

/-- A bus starts with memory and sound in order. -/
theorem isSized_initial
    (vsyncRate ringFrames : Nat)
    (tape : Tape) :
    (initial vsyncRate (.start .initial tape ringFrames)).IsSized where
  memory := AddressSpace.isSized_blank.setUp
  sound := SoundProcessor.wellFormed_initial

/-- What leaves alone what is beside the sound leaves memory alone. -/
theorem memory_of_beside
    {α : Type}
    {action : BusAction α}
    (flat : IsFlat beside action)
    (bus : Bus) :
    (stateAfter action bus).memory = bus.memory :=
  congrArg (fun shown => shown.2.1) (flat.stateAfter bus)

/-- A transfer keeps every region's size. -/
theorem IsSized.memory_runTransfer
    {bus : Bus}
    (sized : bus.IsSized) :
    (stateAfter runTransfer bus).memory.IsSized := by
  have sameMemory := memory_of_beside isFlat_beside_runAudio bus
  have sound := (asksOnly_runAudio bus).wellFormed sized.sound
  rw [runTransfer, stateAfter_bind]
  unfold stateAfter at sameMemory sound
  cases ran : runAudio.run bus with
  | ok value between =>
      rw [ran] at sameMemory sound
      have stillSized : between.memory.IsSized := sameMemory ▸ sized.memory
      exact ((moveBlock_moves stillSized sound.ramSize).keepsSizes stillSized).1
  | error fault failed =>
      rw [ran] at sameMemory
      exact sameMemory ▸ sized.memory

/-- Of the stores to a device only one that starts a transfer reaches memory. -/
theorem IsSized.memory_writeDevice
    {bus : Bus}
    (sized : bus.IsSized)
    (width : Width)
    (address value : UInt32)
    (port : Port) :
    (stateAfter (writeDevice width address value port) bus).memory.IsSized := by
  cases port with
  | dmaControl =>
      let stored := bus.programmed (mergeLanes bus.dma.channel.control value address width)
      have storedSized : stored.IsSized := ⟨sized.memory, sized.sound⟩
      change
        (stateAfter (if stored.dma.channel.isActive = true then runTransfer else pure ())
          stored).memory.IsSized
      split
      · exact storedSized.memory_runTransfer
      · exact sized.memory
  | sound => exact memory_of_beside (isFlat_writeSound width address value) bus ▸ sized.memory
  | counter index register => cases register <;> exact sized.memory
  | _ => exact sized.memory

/-- Every store leaves memory and sound in order. -/
theorem IsSized.write
    {bus : Bus}
    (sized : bus.IsSized)
    (width : Width)
    (address value : UInt32) :
    (stateAfter (Bus.write width address value) bus).IsSized where
  memory := by
    unfold Bus.write
    split
    · split
      · exact sized.memory_writeDevice _ _ _ _
      · exact sized.memory.write width address value
    · exact sized.memory.write width address value
  sound := by
    obtain ⟨commands, performs⟩ := isMadeUp_write width address value bus
    have same : stateAfter (Bus.write width address value) bus = bus.obeyAll commands :=
      performs.obeyed
    have becomes := becomes_obeyAll bus commands
    exact (congrArg (fun bus : Bus => bus.link.sound) same ▸ becomes).wellFormed sized.sound

/-! ## The store that starts it -/

/--
A store of `control` is a transfer, and no audio is due before it.  The sizes are those that
memory and sound RAM have in every run (`IsSized.write`).
-/
structure CanTransfer (bus : Bus) (control : UInt32) : Prop where
  memory : bus.memory.IsSized
  soundRam : bus.link.sound.ram.size = soundRamSize
  noneDue : bus.counters.periodsDue = 0
  starts : control &&& DmaChannel.startBit ≠ 0

/-- When no audio is due, every store of the start bit is a transfer. -/
theorem IsSized.canTransfer
    {bus : Bus}
    {control : UInt32}
    (sized : bus.IsSized)
    (noneDue : bus.counters.periodsDue = 0)
    (starts : control &&& DmaChannel.startBit ≠ 0) :
    bus.CanTransfer control :=
  ⟨sized.memory, sized.sound.ramSize, noneDue, starts⟩

/-- What a transfer started by `control` leaves behind. -/
structure Transferred (bus : Bus) (control : UInt32) (after : Bus) : Prop where
  moved : Moved (bus.programmed control).dma.channel bus after
  control :
    after.dma.channel.control =
      control &&& ~~~(DmaChannel.startBit ||| DmaChannel.triggerBit)
  line :
    bus.dma.Raises ∧ after.interrupts = bus.interrupts.request .dma ∨
      ¬bus.dma.Raises ∧ after.interrupts = bus.interrupts

section

variable {bus : Bus} {address control : UInt32}

/-- Moving the block leaves the registers of the transfer. -/
theorem moveBlock_dma (bus : Bus) : bus.moveBlock.dma = bus.dma := by
  unfold moveBlock
  dsimp only
  split <;> split <;> rfl

/-- Moving the block raises no line. -/
theorem moveBlock_interrupts (bus : Bus) : bus.moveBlock.interrupts = bus.interrupts := by
  unfold moveBlock
  dsimp only
  split <;> split <;> rfl

/-- When no audio is due, a transfer starts with what the store finds. -/
theorem run_write_dmaControl
    (isControl : IsDmaControl address)
    (noneDue : bus.counters.periodsDue = 0)
    (starts : control &&& DmaChannel.startBit ≠ 0) :
    (write .word address control).run bus =
      .ok () (bus.programmed control).moveBlock.completeTransfer := by
  obtain ⟨physical, found, isPort⟩ := Option.bind_eq_some_iff.mp isControl
  have stored :
      (write .word address control).run bus = runTransfer.run (bus.programmed control) := by
    unfold write
    simp only [found, isPort]
    change
      (if (bus.programmed control).dma.channel.isActive = true then runTransfer
        else pure ()).run (bus.programmed control) = _
    have active : (bus.programmed control).dma.channel.isActive = true := bne_iff_ne.mpr starts
    rw [if_pos active]
  have audio : runAudio.run (bus.programmed control) = .ok () (bus.programmed control) := by
    have same : bus.counters.runAudio bus.link = (bus.counters, .ok () bus.link) :=
      if_pos noneDue
    simp only [runAudio, EStateM.run, programmed, same]
  rw [stored, runTransfer, EStateM.run_bind, audio]
  rfl

/-- A transfer that has been moved and completed is done. -/
theorem transferred_completeTransfer
    (can : bus.CanTransfer control) :
    bus.Transferred control (bus.programmed control).moveBlock.completeTransfer where
  moved := by
    have moves : Moved _ (bus.programmed control) (bus.programmed control).moveBlock :=
      moveBlock_moves can.memory can.soundRam
    exact
      { sent fromRam := { moves.sent fromRam with }
        taken toRam := { moves.taken toRam with }
        transferAddress := moves.transferAddress }
  control := by
    rw [completeTransfer, moveBlock_dma]
    exact DmaController.complete_control _ _
  line := by
    have raised :=
      DmaController.complete_fst_iff (bus.programmed control).dma
        (bus.programmed control).dma.channel.wordCount
    simp only [completeTransfer, moveBlock_dma, moveBlock_interrupts]
    by_cases raises : bus.dma.Raises
    · exact .inl ⟨raises, if_pos (raised.mpr raises)⟩
    · exact .inr ⟨raises, if_neg fun isRaised => raises (raised.mp isRaised)⟩

/--
The channel takes the block back that it has sent: the same bytes, to where they came from,
out of what the transfer left in sound RAM.
-/
structure ReadsBack
    (bus : Bus)
    (control : UInt32)
    (sent later : Bus)
    (laterControl : UInt32) :
    Prop where
  sends : (bus.programmed control).dma.channel.direction = .fromRam
  fits : transferLength (bus.programmed control).dma.channel ≤ soundRamSize
  takes : (later.programmed laterControl).dma.channel.direction = .toRam
  sameAddress :
    (later.programmed laterControl).dma.channel.address =
      (bus.programmed control).dma.channel.address
  sameLength :
    transferLength (later.programmed laterControl).dma.channel =
      transferLength (bus.programmed control).dma.channel
  sameSoundRam : later.link.sound.ram = sent.link.sound.ram
  sameTransferAddress : later.link.sound.transferAddress = bus.link.sound.transferAddress

/-- A block that sound RAM has room for comes back as it was. -/
theorem Transferred.readsBack
    {sent later restored : Bus}
    {laterControl : UInt32}
    (first : bus.Transferred control sent)
    (second : later.Transferred laterControl restored)
    (reads : ReadsBack bus control sent later laterControl)
    {index : Nat}
    (inside : index < transferLength (bus.programmed control).dma.channel) :
    restored.memory.ram.get!
        ((bus.programmed control).dma.channel.address.toNat + index) =
      bus.memory.ram.get! ((bus.programmed control).dma.channel.address.toNat + index) := by
  have out :=
    (first.moved.sent reads.sends).soundRam.stored index inside fun later after inRun =>
      SoundProcessor.place_ne_of_lt _ after (by have room := reads.fits; omega)
  have back :=
    (second.moved.taken reads.takes).ram.stored index (reads.sameLength ▸ inside)
      fun later after inRun => by omega
  rw [reads.sameAddress, reads.sameSoundRam, reads.sameTransferAddress] at back
  exact back.trans out

/--
A store that starts a transfer moves exactly the programmed bytes, ends it and raises the
line if it is to; a block that has gone out this way comes back the same way.
-/
theorem write_dmaControl_transfers
    (isControl : IsDmaControl address)
    (can : bus.CanTransfer control) :
    ∃ after,
      (write .word address control).run bus = .ok () after ∧
        bus.Transferred control after ∧
        ∀ later laterControl,
          later.CanTransfer laterControl →
          ReadsBack bus control after later laterControl →
          ∃ restored,
            (write .word address laterControl).run later = .ok () restored ∧
              ∀ index,
                index < transferLength (bus.programmed control).dma.channel →
                restored.memory.ram.get!
                    ((bus.programmed control).dma.channel.address.toNat + index) =
                  bus.memory.ram.get!
                    ((bus.programmed control).dma.channel.address.toNat + index) := by
  have first := transferred_completeTransfer can
  refine ⟨_, run_write_dmaControl isControl can.noneDue can.starts, first, ?_⟩
  intro later laterControl laterCan reads
  refine ⟨_, run_write_dmaControl isControl laterCan.noneDue laterCan.starts, ?_⟩
  intro index inside
  exact first.readsBack (transferred_completeTransfer laterCan) reads inside

/--
Eight words from four before the end of RAM on, to the last eight bytes of sound RAM, with
the interrupt enabled.
-/
def overBothEnds : Bus :=
  { (initial 60 (.start .initial .blank 64)).modifySound fun sound => sound.moveTo 0x7FFF8 with
    dma := ⟨⟨0x1FFFF0, 8, 0⟩, 0, 0x00900000⟩ }

/-- Four words go out, and come back into RAM that has been cleared. -/
theorem write_dmaControl_transfers_overBothEnds :
    ∃ sent restored,
      (write .word 0x1F8010C8 0x01000001).run overBothEnds = .ok () sent ∧
        sent.link.sound.transferAddress = 8 ∧
        sent.dma.channel.control = 1 ∧
        sent.interrupts.status = 8 ∧
        (write .word 0x1F8010C8 0x11000000).run
            { overBothEnds with
              memory := AddressSpace.blank
              link := sent.link.modifySound fun sound => sound.moveTo 0x7FFF8 } =
          .ok () restored ∧
        ∀ index,
          index < 16 →
          restored.memory.ram.get! (0x1FFFF0 + index) =
            overBothEnds.memory.ram.get! (0x1FFFF0 + index) := by
  have can : overBothEnds.CanTransfer 0x01000001 :=
    ⟨AddressSpace.isSized_blank.setUp, size_zeroBytes _, rfl, by decide⟩
  obtain ⟨sent, ran, transferred, readsBack⟩ :=
    write_dmaControl_transfers isDmaControl_physical can
  have raises : overBothEnds.dma.Raises := by
    constructor <;> decide
  have line : sent.interrupts = overBothEnds.interrupts.request .dma := by
    rcases transferred.line with ⟨-, raised⟩ | ⟨silent, -⟩
    · exact raised
    · exact absurd raises silent
  obtain ⟨-, soundSize⟩ := transferred.moved.keepsSizes can.memory
  have takes : DmaChannel.direction ⟨0x1FFFF0, 8, 0x11000000⟩ = .toRam := by decide
  have sameLength :
      transferLength ⟨0x1FFFF0, 8, 0x11000000⟩ = transferLength ⟨0x1FFFF0, 8, 0x01000001⟩ := by
    decide
  obtain ⟨restored, ranBack, same⟩ :=
    readsBack
      { overBothEnds with
        memory := AddressSpace.blank
        link := sent.link.modifySound fun sound => sound.moveTo 0x7FFF8 }
      0x11000000
      ⟨AddressSpace.isSized_blank, soundSize.trans can.soundRam, can.noneDue, by decide⟩
      ⟨rfl, by decide, takes, rfl, sameLength, rfl, rfl⟩
  exact
    ⟨sent, restored, ran, transferred.moved.transferAddress, transferred.control,
      congrArg InterruptController.status line, ranBack, same⟩

/--
Behind a block sequence the RAM address has moved by all the words programmed.  So it is
behind the last byte moved just if the end of RAM has cut off nothing, or whole rounds of the
address.
-/
theorem write_dmaControl_baseAddress
    (isControl : IsDmaControl address)
    (can : bus.CanTransfer control)
    (isSequence : (bus.programmed control).dma.channel.mode = 1) :
    let channel := (bus.programmed control).dma.channel
    ∃ after,
      (write .word address control).run bus = .ok () after ∧
        Moved channel bus after ∧
        after.dma.channel.baseAddress.toNat =
          (channel.baseAddress.toNat + 4 * channel.wordCount) % 2 ^ 24 ∧
        (after.dma.channel.baseAddress.toNat =
            (channel.baseAddress.toNat + transferLength channel) % 2 ^ 24 ↔
          2 ^ 24 ∣ 4 * channel.wordCount - transferLength channel) := by
  intro channel
  have address :
      (bus.programmed control).moveBlock.completeTransfer.dma.channel.baseAddress.toNat =
        (channel.baseAddress.toNat + 4 * channel.wordCount) % 2 ^ 24 := by
    rw [completeTransfer, moveBlock_dma]
    exact DmaController.complete_baseAddress isSequence channel.wordCount
  refine ⟨_, run_write_dmaControl isControl can.noneDue can.starts,
    (transferred_completeTransfer can).moved, address, ?_⟩
  rw [address]
  have cut : transferLength channel ≤ 4 * channel.wordCount := by
    unfold transferLength
    omega
  omega

/-- After power-on, a RAM address and a block control have been stored. -/
def withRegisters (baseAddress blockControl : UInt32) : Bus :=
  { initial 60 (.start .initial .blank 64) with
    dma := ⟨⟨baseAddress, blockControl, 0⟩, 0x07654321, 0⟩ }

/-- Any registers with the start bit start a transfer. -/
theorem canTransfer_withRegisters
    (baseAddress blockControl : UInt32)
    {control : UInt32}
    (starts : control &&& DmaChannel.startBit ≠ 0) :
    (withRegisters baseAddress blockControl).CanTransfer control := by
  have sized := isSized_initial 60 64 .blank
  have noneDue : (CounterBank.initial 60).periodsDue = 0 := by decide
  exact IsSized.canTransfer ⟨sized.memory, sized.sound⟩ noneDue starts

/-- Behind two blocks of 16 words the address is behind all of their bytes. -/
theorem write_dmaControl_baseAddress_twoBlocks :
    ∃ after,
      (write .word 0x1F8010C8 0x01000201).run (withRegisters 0x1000 0x00020010) =
          .ok () after ∧
        after.dma.channel.baseAddress.toNat = 0x1000 + 128 := by
  have can : (withRegisters 0x1000 0x00020010).CanTransfer 0x01000201 :=
    canTransfer_withRegisters _ _ (by decide)
  obtain ⟨after, ran, -, -, behind⟩ :=
    write_dmaControl_baseAddress isDmaControl_physical can (by decide)
  exact ⟨after, ran, behind.mpr (by decide)⟩

/--
Of a block of 16 words the end of RAM leaves four, but the address moves by all of them, so
that the next block leaves out the first 48 bytes of RAM.
-/
theorem cutOff_skipsRam :
    ∃ after,
      (write .word 0x1F8010C8 0x01000201).run (withRegisters 0x1FFFF0 0x00010010) =
          .ok () after ∧
        transferLength ⟨0x1FFFF0, 0x00010010, 0x01000201⟩ = 16 ∧
        after.dma.channel.baseAddress = 0x200030 ∧
        after.dma.channel.baseAddress.toNat ≠ (0x1FFFF0 + 16) % 2 ^ 24 ∧
        after.dma.channel.address = 0x30 := by
  have can : (withRegisters 0x1FFFF0 0x00010010).CanTransfer 0x01000201 :=
    canTransfer_withRegisters _ _ (by decide)
  have channel :
      (((withRegisters 0x1FFFF0 0x00010010).programmed
            0x01000201).moveBlock.completeTransfer).dma.channel =
        ⟨0x200030, 0x00010010, 0x201⟩ := by
    rw [completeTransfer, moveBlock_dma]
    decide
  refine ⟨_, run_write_dmaControl isDmaControl_physical can.noneDue can.starts, by decide, ?_⟩
  rw [channel]
  decide

end

end Bus

end PsxPlayer
