import PsxPlayer.Cpu.System

namespace PsxPlayer

/-!
# Changes

What some instructions have changed in the processor: the registers whose values
differ, by number in ascending order, with their new values.
-/

/-- The numbers below `count` whose values differ, with the new values. -/
def changedValues (count : Nat) (before after : Nat → UInt32) : List (Nat × UInt32) :=
  (List.range count).filterMap fun number =>
    if before number = after number then none else some (number, after number)

/-- The general purpose registers, HI and LO that differ. -/
def Registers.changes (before after : Registers) : List (Nat × UInt32) :=
  changedValues 34 before.getNumbered after.getNumbered

/-- The system registers that differ. -/
def SystemRegisters.changes (before after : SystemRegisters) : List (Nat × UInt32) :=
  changedValues 32 (fun number => before.get (Fin.ofNat 32 number))
    fun number => after.get (Fin.ofNat 32 number)

end PsxPlayer
