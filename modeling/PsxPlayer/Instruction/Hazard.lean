import PsxPlayer.Instruction.Basic

namespace PsxPlayer

/-!
# Load hazards

A load in a branch's delay slot becomes visible one instruction after the branch
target has started. How the target uses the loaded register decides what it may
see; `hazardAt` reads that off the target's operands.
-/

/-- The register that links a call to its return address. -/
def linkRegister : Reg := 31

namespace Instruction

/-- The general purpose registers whose values an instruction depends on. -/
def sources : Instruction → List Reg
  | .shift _ _ rt _ => [rt]
  | .shiftVariable _ _ rt rs => [rs, rt]
  | .alu _ _ rs rt => [rs, rt]
  | .immediate _ _ rs _ => [rs]
  | .loadUpper .. => []
  | .wide _ rs rt => [rs, rt]
  | .moveFromHi .. => []
  | .moveFromLo .. => []
  | .moveToHi rs => [rs]
  | .moveToLo rs => [rs]
  | .jump .. => []
  | .jumpLink .. => []
  | .jumpRegister rs => [rs]
  | .jumpLinkRegister _ rs => [rs]
  | .branch .equal rs rt _ => [rs, rt]
  | .branch .notEqual rs rt _ => [rs, rt]
  | .branch .notPositive rs _ _ => [rs]
  | .branch .positive rs _ _ => [rs]
  | .branchSign _ _ rs _ => [rs]
  | .load .left rt base _ => [base, rt]
  | .load .right rt base _ => [base, rt]
  | .load _ _ base _ => [base]
  | .store _ rt base _ => [base, rt]
  | .systemCall => []
  | .breakpoint => []
  | .moveFromSystem .. => []
  | .moveToSystem rt _ => [rt]
  | .returnFromException => []
  | .geometry => []
  | .loadGeometry base => [base]
  | .storeGeometry base => [base]
  | .trap .. => []
  | .unknown => []

/-- The general purpose register an instruction writes. -/
def destination? : Instruction → Option Reg
  | .shift _ rd _ _ => some rd
  | .shiftVariable _ rd _ _ => some rd
  | .alu _ rd _ _ => some rd
  | .immediate _ rt _ _ => some rt
  | .loadUpper rt _ => some rt
  | .moveFromHi rd => some rd
  | .moveFromLo rd => some rd
  | .jumpLink .. => some linkRegister
  | .jumpLinkRegister rd _ => some rd
  | .branchSign _ true _ _ => some linkRegister
  | .load _ rt _ _ => some rt
  | .moveFromSystem rt _ => some rt
  | _ => none

end Instruction

/-- How a branch target uses the register that the delay slot loads. -/
inductive Hazard where
  /-- Neither reads nor writes it. -/
  | none
  /-- Reads it and has to see the old value. -/
  | reads
  /-- Overwrites it without reading it. -/
  | writes
  /-- Reads the old value and overwrites it, so that the load is lost. -/
  | readsAndWrites
  deriving DecidableEq, Repr

/-- The hazard between a load into `register` and the target instruction. -/
def Instruction.hazard (target : Instruction) (register : Reg) : Hazard :=
  match target.sources.contains register, target.destination? == some register with
  | false, false => .none
  | true, false => .reads
  | false, true => .writes
  | true, true => .readsAndWrites

/-- The hazard between a load into `register` and the word at the target. -/
def hazardAt (target : UInt32) (register : Reg) : Hazard :=
  (Instruction.ofWord target).hazard register

end PsxPlayer
