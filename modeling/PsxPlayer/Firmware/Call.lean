import PsxPlayer.Cpu.Machine
import PsxPlayer.Firmware.Trap

namespace PsxPlayer

/-!
# Calls between guest and firmware

The guest calls a firmware function with its arguments in a0 to a3 and finds the
result in v0. The firmware calls a guest function by running it until it comes
back to `Trap.returnAddress`.
-/

namespace Action

/-- Argument `index` of a call, 0 to 3. -/
def argument (index : Nat) : Action UInt32 :=
  getReg (Fin.ofNat 32 (Reg.a0.val + index))

/-- An argument that counts bytes; a negative count means none. -/
def lengthArgument (index : Nat) : Action Nat := do
  return (signed (← argument index)).toNat

/-- Give the guest a result. -/
def result (value : UInt32) : Action Unit :=
  setReg Reg.v0 value

/-- Return to the guest's caller. -/
def returnToCaller : Action Unit := do
  setPc (← getReg Reg.ra)

/-- Step until the program counter is at `target`, at most `limit` times. -/
def runUntil (step : Action Unit) (target : UInt32) : Nat → Action Bool
  | 0 => return (← getPc) == target
  | limit + 1 => do
      if (← getPc) == target then
        return true
      step
      runUntil step target limit

/-- Instructions that a guest function may take. -/
def handlerLimit : Nat := 10000000

/-- Run a guest function; all registers but v0 are put back afterwards. -/
def callHandler (step : Action Unit) (function : UInt32) : Action Unit := do
  let saved ← ofRegisters id
  modifyRegisters fun registers =>
    { registers.set Reg.ra Trap.returnAddress with pc := function }
  let _ ← runUntil step Trap.returnAddress handlerLimit
  let value ← getReg Reg.v0
  modifyRegisters fun _ => saved.set Reg.v0 value

end Action

end PsxPlayer
