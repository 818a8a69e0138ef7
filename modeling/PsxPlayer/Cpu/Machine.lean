import PsxPlayer.Bus
import PsxPlayer.Firmware.State

namespace PsxPlayer

/-!
# Machine

The processor, the firmware and the bus as one state, and the actions that read
and change it. An action may fail; the state then stays as it was at the point
of failure.
-/

/-- The whole console. -/
structure Machine where
  cpu : Cpu
  firmware : Firmware
  bus : Bus
  /-- The lines that the guest has printed. -/
  printed : Array String

/-- An action on the console. -/
abbrev Action := EStateM Fault Machine

namespace Action

/-- Change the processor. -/
@[inline]
def modifyCpu (change : Cpu → Cpu) : Action Unit := fun machine =>
  match machine with
  | ⟨cpu, firmware, bus, printed⟩ => .ok () ⟨change cpu, firmware, bus, printed⟩

/-- Change the registers. -/
@[inline]
def modifyRegisters (change : Registers → Registers) : Action Unit :=
  modifyCpu fun cpu =>
    match cpu with
    | ⟨registers, system, inDelaySlot, exceptionTaken, deferredLoad?, skipsIdleLoops⟩ =>
        ⟨change registers, system, inDelaySlot, exceptionTaken, deferredLoad?, skipsIdleLoops⟩

/-- Change the firmware's memory. -/
@[inline]
def modifyFirmware (change : Firmware → Firmware) : Action Unit := fun machine =>
  match machine with
  | ⟨cpu, firmware, bus, printed⟩ => .ok () ⟨cpu, change firmware, bus, printed⟩

/-- Change the bus. -/
@[inline]
def modifyBus (change : Bus → Bus) : Action Unit := fun machine =>
  match machine with
  | ⟨cpu, firmware, bus, printed⟩ => .ok () ⟨cpu, firmware, change bus, printed⟩

/-- Read something off the processor. -/
@[inline]
def ofCpu {α : Type} (view : Cpu → α) : Action α := fun machine =>
  .ok (view machine.cpu) machine

/-- Read something off the registers. -/
@[inline]
def ofRegisters {α : Type} (view : Registers → α) : Action α :=
  ofCpu fun cpu => view cpu.registers

/-- Read something off the firmware's memory. -/
@[inline]
def ofFirmware {α : Type} (view : Firmware → α) : Action α := fun machine =>
  .ok (view machine.firmware) machine

/-- Read something off the bus. -/
@[inline]
def ofBus {α : Type} (view : Bus → α) : Action α := fun machine =>
  .ok (view machine.bus) machine

/-- Run an action on the bus. -/
@[inline]
def onBus {α : Type} (action : BusAction α) : Action α := fun machine =>
  match machine with
  | ⟨cpu, firmware, bus, printed⟩ =>
      match action.run bus with
      | .ok value bus => .ok value ⟨cpu, firmware, bus, printed⟩
      | .error fault bus => .error fault ⟨cpu, firmware, bus, printed⟩

/-- The value of a register. -/
@[inline]
def getReg (register : Reg) : Action UInt32 :=
  ofRegisters fun registers => registers.get register

/-- Write a register. -/
@[inline]
def setReg (register : Reg) (value : UInt32) : Action Unit :=
  modifyRegisters fun registers => registers.set register value

/-- The program counter. -/
@[inline]
def getPc : Action UInt32 :=
  ofRegisters Registers.pc

/-- Continue at an address. -/
@[inline]
def setPc (address : UInt32) : Action Unit :=
  modifyRegisters fun registers => { registers with pc := address }

/-- The value of a system register. -/
@[inline]
def getSystem (index : Fin 32) : Action UInt32 :=
  ofCpu fun cpu => cpu.system.get index

/-- Change the system registers. -/
@[inline]
def modifySystem (change : SystemRegisters → SystemRegisters) : Action Unit :=
  modifyCpu fun cpu => { cpu with system := change cpu.system }

/-- Raise an exception in the current instruction. -/
@[inline]
def raise (cause : ExceptionCause) : Action Unit :=
  modifyCpu fun cpu => cpu.raise cause

/-- Raise an address error in the current instruction. -/
@[inline]
def raiseAddress (cause : ExceptionCause) (address : UInt32) : Action Unit :=
  modifyCpu fun cpu => cpu.raiseAddress cause address

/-- Read memory through the bus. -/
@[inline]
def read (width : Width) (address : UInt32) : Action UInt32 :=
  ofBus fun bus => bus.read width address

/-- Write memory through the bus. -/
@[inline]
def write (width : Width) (address value : UInt32) : Action Unit :=
  onBus (Bus.write width address value)

/-- Print a line. -/
def print (line : String) : Action Unit := fun machine =>
  match machine with
  | ⟨cpu, firmware, bus, printed⟩ => .ok () ⟨cpu, firmware, bus, printed.push line⟩

end Action

end PsxPlayer
