import PsxPlayer.Firmware.Library

namespace PsxPlayer

/-!
# Kernel functions

The functions of the second and the third library table: root counters, events,
the way back from an exception, and output by character and by line.
-/

/-- A function of the second table. -/
inductive KernelFunction where
  | setCounter
  | readCounter
  | startCounter
  | stopCounter
  | resetCounter
  | deliverEvent
  | openEvent
  | closeEvent
  | waitEvent
  | testEvent
  | enableEvent
  | disableEvent
  | returnFromException
  | unhookReturn
  | hookReturn
  | printChar
  | printLine
  deriving DecidableEq, Repr

namespace KernelFunction

/-- The function with a number. -/
def ofNumber? (number : UInt32) : Option KernelFunction :=
  match number.toNat with
  | 0x02 => some .setCounter
  | 0x03 => some .readCounter
  | 0x04 => some .startCounter
  | 0x05 => some .stopCounter
  | 0x06 => some .resetCounter
  | 0x07 => some .deliverEvent
  | 0x08 => some .openEvent
  | 0x09 => some .closeEvent
  | 0x0A => some .waitEvent
  | 0x0B => some .testEvent
  | 0x0C => some .enableEvent
  | 0x0D => some .disableEvent
  | 0x17 => some .returnFromException
  | 0x18 => some .unhookReturn
  | 0x19 => some .hookReturn
  | 0x3D => some .printChar
  | 0x3F => some .printLine
  | _ => none

end KernelFunction

/-- The number of the function of the third table that sets a clear flag. -/
def setClearFlagNumber : UInt32 := 0x0A

/-- The counter that paces frames, which the guest cannot program. -/
def framePacer : Nat := 3

/-- The interrupt line of a counter. -/
def counterLine (counter : Nat) : Lines :=
  match counter with
  | 0 => .timer0
  | 1 => .timer1
  | 2 => .timer2
  | _ => .vblank

/-- The counter mode that the flags of a program request stand for. -/
def counterMode (counter : Nat) (flags : UInt32) : UInt32 :=
  let bit := fun (flag mode : UInt32) => if flags &&& flag ≠ 0 then mode else 0
  bit 0x1000 (Counter.irqOnTarget ||| Counter.irqRepeat) |||
    bit 0x0100 0x008 |||
    bit 0x0010 Counter.syncEnable |||
    bit 0x0001 (if counter = 2 then Counter.slowClock else Counter.videoClock)

namespace Action

/-- The counter that the first argument names. -/
def counterArgument : Action Nat := do
  return ((← argument 0) &&& 3).toNat

/-- Change the counters. -/
def modifyCounters (change : CounterBank → CounterBank) : Action Unit :=
  modifyBus fun bus => { bus with counters := change bus.counters }

/-- Program a counter. -/
def setCounter : Action Unit := do
  let counter ← counterArgument
  let target ← argument 1
  let mode := counterMode counter (← argument 2)
  if counter ≠ framePacer then
    modifyCounters fun bank => (bank.writeTarget counter target).writeMode counter mode
  result 1

/-- Read a counter. -/
def readCounter : Action Unit := do
  let counter ← counterArgument
  if counter ≠ framePacer then
    result (← ofBus fun bus => bus.counters.readCount counter)
  else
    result 0

/-- Clear a counter. -/
def resetCounter : Action Unit := do
  let counter ← counterArgument
  if counter ≠ framePacer then
    modifyCounters fun bank =>
      ((bank.writeMode counter 0).writeTarget counter 0).writeCount counter 0
  result 1

/-- Enable or disable the interrupt of a counter. -/
def enableCounter (enable : Bool) : Action Unit := do
  let line := (counterLine (← counterArgument)).bits
  modifyBus fun bus =>
    let mask := bus.interrupts.mask
    let mask := if enable then mask ||| line else mask &&& ~~~line
    { bus with interrupts := { bus.interrupts with mask := mask } }
  result 1

/-- Deliver to one event, in the way its mode asks for. -/
def deliverTo (step : Action Unit) (slot : Nat) (event : Event) : Action Unit := do
  if event.mode = Event.callbackMode then
    if event.handler ≠ 0 then
      callHandler step event.handler
  else if event.mode = Event.readyMode then
    modifyFirmware fun firmware =>
      { firmware with events := firmware.events.setStatus slot .ready }

/-- Deliver to those of some slots whose event is active and fits. -/
def deliverAmong
    (step : Action Unit)
    (eventClass specification : UInt32) :
    List Nat → Action Unit
  | [] => pure ()
  | slot :: rest => do
      match ← ofFirmware fun firmware => firmware.events.get? slot with
      | some event =>
          if event.receives eventClass specification then
            deliverTo step slot event
      | none => pure ()
      deliverAmong step eventClass specification rest

/-- Deliver to every event that is active and fits. -/
def deliverEvent (step : Action Unit) (eventClass specification : UInt32) : Action Unit := do
  let slots ← ofFirmware fun firmware => List.range firmware.events.slots.length
  deliverAmong step eventClass specification slots

/-- Open an event; the result is its handle, or -1 when there is no slot. -/
def openEvent : Action Unit := do
  let event : Event :=
    ⟨← argument 0, ← argument 1, ← argument 2, ← argument 3, .waiting⟩
  match ← ofFirmware fun firmware => firmware.events.open? event with
  | some (handle, events) =>
      modifyFirmware fun firmware => { firmware with events := events }
      result handle
  | none => result 0xFFFFFFFF

/-- Change the status of an event; the result tells whether the handle is known. -/
def updateEvent (status : EventStatus) : Action Unit := do
  let handle ← argument 0
  match ← ofFirmware fun firmware => firmware.events.update? handle status with
  | some events =>
      modifyFirmware fun firmware => { firmware with events := events }
      result 1
  | none => result 0

/-- Test an event, which rearms it when it is ready. -/
def testEvent : Action Unit := do
  let handle ← argument 0
  let (ready, events) ← ofFirmware fun firmware => firmware.events.test handle
  modifyFirmware fun firmware => { firmware with events := events }
  result (flagWord ready)

/-- Go back to where the last interrupt was taken, with the registers of that time. -/
def returnFromException : Action Unit := do
  match ← ofFirmware Firmware.savedContext? with
  | some registers =>
      modifyFirmware fun firmware => { firmware with savedContext? := none }
      modifyRegisters fun _ => registers
  | none => pure ()
  let inDelaySlot := (← getSystem SystemRegisters.cause) &&& SystemRegisters.delaySlotBit ≠ 0
  let address ← getSystem SystemRegisters.returnAddress
  setPc (if inDelaySlot then address + 4 else address)
  modifySystem SystemRegisters.popMode

/-- Print a character; an end of line prints what has been gathered. -/
def printChar (char : Char) : Action Unit := do
  if char = '\n' then
    print (← ofFirmware Firmware.line)
    modifyFirmware fun firmware => { firmware with line := "" }
  else
    modifyFirmware fun firmware => { firmware with line := firmware.line.push char }

/-- Carry out a function of the second table. -/
def callKernel (step : Action Unit) : KernelFunction → Action Unit
  | .setCounter => setCounter
  | .readCounter => readCounter
  | .startCounter => enableCounter true
  | .stopCounter => enableCounter false
  | .resetCounter => resetCounter
  | .deliverEvent => do
      deliverEvent step (← argument 0) (← argument 1)
  | .openEvent => openEvent
  | .closeEvent => updateEvent .unused
  | .waitEvent => testEvent
  | .testEvent => testEvent
  | .enableEvent => updateEvent .active
  | .disableEvent => updateEvent .waiting
  | .returnFromException => returnFromException
  | .unhookReturn => modifyFirmware fun firmware => { firmware with hook := 0 }
  | .hookReturn => do
      let hook ← argument 0
      modifyFirmware fun firmware => { firmware with hook := hook }
  | .printChar => do
      let byte := (← argument 0).toUInt8
      printChar (byteChar byte)
      result byte.toUInt32
  | .printLine => do
      let address ← argument 0
      print (← ofBus fun bus => Utf8.decodeLossy (textAt bus address lineLimit))

/-- Set the clear flag of a counter; the result is the flag before. -/
def setClearFlag : Action Unit := do
  let counter := Fin.ofNat 4 (← counterArgument)
  let value ← argument 1
  let old ← ofFirmware fun firmware => firmware.clearFlags[counter]
  modifyFirmware fun firmware =>
    { firmware with clearFlags := firmware.clearFlags.set counter value }
  result old

end Action

end PsxPlayer
