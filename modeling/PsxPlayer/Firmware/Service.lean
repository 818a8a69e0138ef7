import PsxPlayer.Firmware.Kernel

namespace PsxPlayer

/-!
# Firmware service

What happens at each firmware entry. The exception entry tells apart interrupts,
system calls and faults by the cause register; the table entries take the number
of a function from t1. A function that does not exist gives 0.
-/

/-- The class of the events that belong to counter 0; the others' follow. -/
def counterEventClass : UInt32 := 0xF2000000

/-- The specification of the events that an interrupt delivers. -/
def interruptSpecification : UInt32 := 2

/-- The counters in the order in which their events are delivered. -/
def deliveryOrder : List Nat := [3, 0, 1, 2]

/-- The status bits of the mode stack and the line mask that critical sections switch. -/
def criticalBits : UInt32 := 0x404

namespace Action

/-- Enter or leave a critical section, as the first argument asks. -/
def systemCall : Action Unit := do
  let request ← argument 0
  if request = 1 then
    modifySystem fun system =>
      system.set SystemRegisters.status
        (system.get SystemRegisters.status &&& ~~~criticalBits)
    result 1
  else if request = 2 then
    modifySystem fun system =>
      system.set SystemRegisters.status
        (system.get SystemRegisters.status ||| criticalBits)

/-- Deliver the events of those of some counters whose line is pending. -/
def deliverPending (step : Action Unit) (pending : Lines) : List Nat → Action Unit
  | [] => pure ()
  | counter :: rest => do
      if pending.contains (counterLine counter) then
        deliverEvent step (counterEventClass + UInt32.ofNat counter) interruptSpecification
      deliverPending step pending rest

/-- Continue behind an exception. -/
def resume (address : UInt32) : Action Unit := do
  setPc address
  modifySystem SystemRegisters.popMode

/--
Serve an interrupt: deliver its events, acknowledge it, and continue at the hook
if the guest has set one.
-/
def serveInterrupt (step : Action Unit) (returnAddress : UInt32) : Action Unit := do
  let registers ← ofRegisters id
  modifyFirmware fun firmware => { firmware with savedContext? := some registers }
  let pending ← ofBus fun bus => bus.interrupts.pending
  deliverPending step pending deliveryOrder
  modifyBus fun bus => { bus with interrupts := bus.interrupts.acknowledge pending }
  let hook ← ofFirmware Firmware.hook
  if hook ≠ 0 then
    restoreContext hook 1
  else
    resume returnAddress

/-- Serve an exception. -/
def serveException (step : Action Unit) : Action Unit := do
  let returnAddress ← getSystem SystemRegisters.returnAddress
  let code ← ofCpu fun cpu => cpu.system.causeCode
  if code = ExceptionCause.interrupt.code then
    serveInterrupt step returnAddress
  else
    if code = ExceptionCause.syscall.code then
      systemCall
    resume (returnAddress + 4)

/-- The number of the function that a table call asks for. -/
def functionNumber : Action UInt32 := do
  return (← getReg Reg.t1) &&& 0xFF

/-- Serve a firmware entry. -/
def serveTrap (step : Action Unit) (trap : Trap) : Action Unit := do
  let number ← functionNumber
  match trap with
  | .exception => serveException step
  | .tableA =>
      returnToCaller
      match LibraryFunction.ofNumber? number with
      | some function => callLibrary function
      | none => result 0
  | .tableB =>
      returnToCaller
      match KernelFunction.ofNumber? number with
      | some function => callKernel step function
      | none => result 0
  | .tableC =>
      returnToCaller
      if number = setClearFlagNumber then setClearFlag else result 0
  | .callReturn => pure ()

end Action

end PsxPlayer
