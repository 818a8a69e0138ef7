import PsxPlayer.Cpu.Execute
import PsxPlayer.Executable
import PsxPlayer.Settings.Basic

namespace PsxPlayer

/-!
# Player

The console set up by the user's settings, with the firmware in place: loading a
program, running it for some time, and ending the recording.
-/

/-- A console and the settings it was set up with. -/
structure Player where
  settings : Settings
  machine : Machine

namespace Player

/-- The sound processor that the settings ask for. -/
def soundOf (settings : Settings) : SoundProcessor :=
  { SoundProcessor.initial with
    filter := settings.filter
    reverbEnabled := settings.reverb }

/-- The bus that the settings ask for, with the firmware's traps planted. -/
def busOf (settings : Settings) : Bus :=
  let link := SoundLink.start (soundOf settings) Tape.blank settings.ringFrames
  let bus := Bus.initial settings.vsyncRate link
  { bus with memory := Trap.plant bus.memory }

/-- Set up a console, unless the settings are invalid or ask for too large a ring. -/
def create (settings : Settings) : Except Fault Player := do
  settings.validate
  if settings.ringFrames ≥ SoundWorker.ringBound then
    throw .ringTooLarge
  return {
    settings := settings
    machine :=
      { cpu := { Cpu.initial with skipsIdleLoops := settings.skipsIdleLoops }
        firmware := .initial
        bus := busOf settings
        printed := #[] } }

end Player

namespace Machine

/-- Reset everything but the sound worker's output. -/
def reset (machine : Machine) : Machine :=
  match machine with
  | ⟨cpu, _, bus, printed⟩ =>
      match bus.reset with
      | ⟨memory, interrupts, counters, dma, link⟩ =>
          ⟨cpu.reset, .initial, ⟨Trap.plant memory, interrupts, counters, dma, link⟩, printed⟩

/-- Set the registers that a program starts with. -/
def seed (machine : Machine) (entry globalPointer stackPointer : UInt32) : Machine :=
  match machine with
  | ⟨cpu, firmware, bus, printed⟩ =>
      let registers := { cpu.registers with pc := entry }
      let registers := registers.set Reg.gp globalPointer
      let registers := registers.set Reg.sp stackPointer
      ⟨{ cpu with registers := registers.set Reg.fp stackPointer }, firmware, bus, printed⟩

/-- Change memory. -/
def modifyMemory (machine : Machine) (change : AddressSpace → AddressSpace) : Machine :=
  match machine with
  | ⟨cpu, firmware, ⟨memory, interrupts, counters, dma, link⟩, printed⟩ =>
      ⟨cpu, firmware, ⟨change memory, interrupts, counters, dma, link⟩, printed⟩

/-- Copy a program into memory and get ready to start it. -/
def loadExecutable (machine : Machine) (program : Executable) : Machine :=
  (machine.modifyMemory fun memory => memory.load program.loadAddress program.text).seed
    program.entry program.globalPointer program.stackPointer

end Machine

namespace Action

/-- Execute instructions one by one. -/
def steps : Nat → Action Unit
  | 0 => pure ()
  | count + 1 => do
      step
      steps count

/-- More steps than any run takes. -/
def stepLimit : Nat := 0x4000000000000000

/-- Step until `cycles` have passed since the clock was at `start`, `limit` times at most. -/
def runSince (start cycles : UInt32) : Nat → Action Unit
  | 0 => pure ()
  | limit + 1 => do
      if (← ofBus fun bus => bus.counters.cycle) - start < cycles then
        step
        runSince start cycles limit

/-- Run for some cycles of the clock, or a little longer. -/
def runCycles (cycles : UInt32) : Action Unit := do
  let start ← ofBus fun bus => bus.counters.cycle
  runSince start cycles stepLimit

/-- Cycles in a second. -/
def cyclesPerSecond : UInt32 :=
  UInt32.ofNat (clockRate / cycleScale)

/-- Run for some seconds. -/
def runSeconds : Nat → Action Unit
  | 0 => pure ()
  | count + 1 => do
      runCycles cyclesPerSecond
      runSeconds count

/-- Instructions that are executed between two looks at the output. -/
def sliceSteps : Nat := 4096

/--
Execute slices as long as the worker has mixed fewer than `frames` frames, `limit`
slices at most.
-/
def runFrames (frames : Nat) : Nat → Action Unit
  | 0 => pure ()
  | limit + 1 => do
      if (← ofBus fun bus => bus.link.frames) < frames then
        steps sliceSteps
        runFrames frames limit

/-- Bring the audio up to the clock and stop the sound worker. -/
def finish : Action Unit := do
  if ← ofBus fun bus => bus.link.isRunning then
    onBus Bus.runAudio
  onBus Bus.closeLink

end Action

end PsxPlayer
