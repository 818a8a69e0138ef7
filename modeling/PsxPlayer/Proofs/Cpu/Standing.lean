import PsxPlayer.Proofs.Cpu.Course
import PsxPlayer.Proofs.Cpu.Operands

namespace PsxPlayer

/-!
# Where an instruction leaves the machine

A machine stands at its program counter, with its system registers and with the
registers that the firmware has kept of an interrupt.  An instruction that nests no
other changes this in a few ways only, and it leaves the marks alone with which the
processor keeps track of delay slots.
-/

/-- What decides where a machine goes on. -/
structure Standing where
  pc : UInt32
  system : SystemRegisters
  savedContext? : Option Registers

/-- How the processor keeps track of delay slots and of the loads in them. -/
structure Marks where
  inDelaySlot : Bool
  deferredLoad? : Option (Reg × UInt32)
  deriving DecidableEq, Repr

namespace Marks

/-- No delay slot is executed and no load is held back. -/
def clear : Marks := ⟨false, none⟩

end Marks

namespace Machine

def standing (machine : Machine) : Standing :=
  ⟨machine.cpu.registers.pc, machine.cpu.system, machine.firmware.savedContext?⟩

def marks (machine : Machine) : Marks :=
  ⟨machine.cpu.inDelaySlot, machine.cpu.deferredLoad?⟩

/-- What an instruction leaves alone that only computes. -/
def control (machine : Machine) : Standing × Marks :=
  (machine.standing, machine.marks)

/-- Registers other than the program counter have no part in the control. -/
theorem control_withRegisters
    (machine : Machine)
    {registers : Registers}
    (samePc : registers.pc = machine.cpu.registers.pc) :
    (machine.withRegisters registers).control = machine.control := by
  simp only [control, standing, marks, withRegisters, samePc]

end Machine

/-- The width of a load that has to be aligned. -/
def LoadOp.width? : LoadOp → Option Width
  | .signedByte | .byte => some .byte
  | .signedHalf | .half => some .half
  | .word => some .word
  | .left | .right => none

/-- The width of a store that has to be aligned. -/
def StoreOp.width? : StoreOp → Option Width
  | .byte => some .byte
  | .half => some .half
  | .word => some .word
  | .left | .right => none

/-- Whether an address does not fit an access, if its width is given. -/
def isMisaligned (width? : Option Width) (address : UInt32) : Bool :=
  width?.any fun width => !width.aligned address

/-- Whether an instruction raises an exception. -/
def Instruction.raises (registers : Registers) : Instruction → Bool
  | .systemCall | .breakpoint => true
  | .alu op _ rs rt => (op.compute? (registers.get rs) (registers.get rt)).isNone
  | .immediate op _ rs value => (op.compute? (registers.get rs) value).isNone
  | .load op _ base offset =>
      isMisaligned op.width? (effectiveAddress (registers.get base) offset)
  | .store op _ base offset =>
      isMisaligned op.width? (effectiveAddress (registers.get base) offset)
  | _ => false

namespace Execution

/-- An execution raises an exception. -/
def Raises (execution : Execution) : Prop :=
  execution.instruction.raises execution.machine.cpu.registers = true

/-- The system registers once a system call has been granted, if there is one. -/
def granted (execution : Execution) : SystemRegisters :=
  let system := execution.machine.cpu.system
  let request := execution.machine.cpu.registers.get Reg.a0
  let status := system.get SystemRegisters.status
  if execution.causeCode = ExceptionCause.syscall.code then
    if request = 1 then
      system.set SystemRegisters.status (status &&& ~~~criticalBits)
    else if request = 2 then
      system.set SystemRegisters.status (status ||| criticalBits)
    else
      system
  else
    system

/-- The library function that goes back to a saved context is called. -/
def RestoresContext (execution : Execution) : Prop :=
  execution.trap? = some .tableA ∧
    LibraryFunction.ofNumber? execution.function = some .restoreContext

/-- A function of the firmware is called that returns to its caller. -/
structure CallsTable (execution : Execution) : Prop where
  isTable :
    execution.trap? = some .tableA ∨
      execution.trap? = some .tableB ∨ execution.trap? = some .tableC
  noContext : ¬execution.RestoresContext
  noReturn : ¬execution.CallsKernel .returnFromException

/-- The address at which the firmware finds the return address of a saved context. -/
def contextAddress (execution : Execution) : UInt32 :=
  execution.machine.cpu.registers.get Reg.a0

/-- The ways in which an execution that nests no other may leave the machine. -/
inductive Leaves (execution : Execution) : Standing → Prop where
  | undisturbed
      (noException : execution.trap? ≠ some .exception) :
      Leaves execution execution.machine.standing
  | raised
      {after : Machine}
      (raises : execution.Raises)
      (entered : execution.machine.HasRaised after)
      (sameFirmware : after.firmware = execution.machine.firmware) :
      Leaves execution after.standing
  | systemWritten
      {source : Reg}
      {index : Fin 32}
      (writes : execution.instruction = .moveToSystem source index) :
      Leaves execution
        { execution.machine.standing with
          system :=
            execution.machine.cpu.system.set index
              (execution.machine.cpu.registers.get source) }
  | modePopped
      (pops : execution.instruction = .returnFromException) :
      Leaves execution
        { execution.machine.standing with system := execution.machine.cpu.system.popMode }
  | exceptionServed
      (called : execution.trap? = some .exception)
      (noInterrupt : execution.causeCode ≠ ExceptionCause.interrupt.code) :
      Leaves execution
        { execution.machine.standing with
          pc := execution.machine.cpu.system.get SystemRegisters.returnAddress + 4
          system := execution.granted.popMode }
  | tableReturned
      (called : execution.CallsTable) :
      Leaves execution
        { execution.machine.standing with pc := execution.machine.cpu.registers.get Reg.ra }
  | contextRestored
      (restores : execution.RestoresContext) :
      Leaves execution
        { execution.machine.standing with
          pc := execution.machine.bus.read .word execution.contextAddress }
  | interruptLeft
      (calls : execution.CallsKernel .returnFromException)
      (address : UInt32)
      (returns :
        address = execution.machine.cpu.system.get SystemRegisters.returnAddress ∨
          address =
            execution.machine.cpu.system.get SystemRegisters.returnAddress + 4) :
      Leaves execution ⟨address, execution.machine.cpu.system.popMode, none⟩

/-- How an execution ends that nests no other. -/
def LeavesBehind
    (execution : Execution) :
    EStateM.Result Fault Machine Unit → Prop
  | .ok _ after => execution.Leaves after.standing ∧ after.marks = execution.machine.marks
  | .error fault failed =>
      fault ≠ .nestingTooDeep ∧
        execution.Leaves failed.standing ∧
        failed.marks = execution.machine.marks

end Execution

namespace Action

/-- An action that stays where it is. -/
abbrev StaysPut {α : Type} (action : Action α) : Prop :=
  IsFlat Machine.control action

section

variable (register : Reg) (value : UInt32)

theorem staysPut_ofCpu {α : Type} (view : Cpu → α) : StaysPut (ofCpu view) :=
  .modify (fun _ => rfl) fun _ => rfl

theorem staysPut_ofBus {α : Type} (view : Bus → α) : StaysPut (ofBus view) :=
  .modify (fun _ => rfl) fun _ => rfl

theorem staysPut_ofFirmware {α : Type} (view : Firmware → α) :
    StaysPut (ofFirmware view) :=
  .modify (fun _ => rfl) fun _ => rfl

theorem staysPut_getReg : StaysPut (getReg register) :=
  staysPut_ofCpu fun cpu => cpu.registers.get register

/-- A change of the registers that leaves the program counter stays where it is. -/
theorem staysPut_modifyRegisters
    {change : Registers → Registers}
    (samePc : ∀ registers, (change registers).pc = registers.pc) :
    StaysPut (modifyRegisters change) :=
  .modify (run_modifyRegisters · change) fun machine =>
    machine.control_withRegisters (samePc _)

theorem staysPut_setReg : StaysPut (setReg register value) :=
  staysPut_modifyRegisters fun registers => registers.pc_set register value

/-- A change of the firmware that leaves the saved context stays where it is. -/
theorem staysPut_modifyFirmware
    {change : Firmware → Firmware}
    (sameContext :
      ∀ firmware, (change firmware).savedContext? = firmware.savedContext?) :
    StaysPut (modifyFirmware change) :=
  .modify (run_modifyFirmware · change) fun machine => by
    simp only [Machine.control, Machine.standing, Machine.marks, sameContext]

/-- Whatever happens to the bus, the processor stays where it is. -/
theorem staysPut_modifyBus (change : Bus → Bus) : StaysPut (modifyBus change) :=
  .modify (fun _ => rfl) fun _ => rfl

theorem staysPut_print (line : String) : StaysPut (print line) :=
  .modify (fun _ => rfl) fun _ => rfl

/-- A read stays where it is. -/
theorem staysPut_read (width : Width) (address : UInt32) :
    StaysPut (read width address) :=
  staysPut_ofBus fun bus => bus.read width address

/-- What happens on the bus happens elsewhere. -/
theorem staysPut_onBus
    {α β : Type}
    {view : Bus → β}
    {action : BusAction α}
    (flat : IsFlat view action) :
    StaysPut (onBus action) := by
  intro machine
  have busFlat := flat machine.bus
  rw [run_onBus]
  cases ran : action.run machine.bus with
  | ok value bus => rfl
  | error fault bus =>
      rw [ran] at busFlat
      exact ⟨busFlat.1, rfl⟩

/-- A store stays where it is, whatever device it reaches. -/
theorem staysPut_write (width : Width) (address : UInt32) :
    StaysPut (write width address value) :=
  staysPut_onBus (Bus.isFlat_write width address value)

/-- Serving the counters stays where it is. -/
theorem staysPut_serveCounters : StaysPut serveCounters :=
  .bind (staysPut_ofBus _) fun _ =>
    .ite (fun _ => staysPut_onBus Bus.isFlat_updateCounters) fun _ => .pure ()

end

section

variable {execution : Execution}

/-- What stays put leaves nothing behind. -/
theorem StaysPut.leavesBehind
    {action : Action Unit}
    (stays : StaysPut action)
    (noException : execution.trap? ≠ some .exception) :
    execution.LeavesBehind (action.run execution.machine) := by
  have left
      {after : Machine}
      (same : after.control = execution.machine.control) :
      execution.Leaves after.standing ∧ after.marks = execution.machine.marks := by
    have sameStanding : after.standing = execution.machine.standing :=
      congrArg Prod.fst same
    exact ⟨sameStanding ▸ .undisturbed noException, congrArg Prod.snd same⟩
  have same := stays execution.machine
  cases ran : action.run execution.machine with
  | ok value after =>
      rw [ran] at same
      exact left same
  | error fault failed =>
      rw [ran] at same
      exact ⟨same.1, left same.2⟩

/-- An exception leaves the standing of one. -/
theorem leavesBehind_raise
    (raises : execution.Raises)
    (cause : ExceptionCause) :
    execution.LeavesBehind ((raise cause).run execution.machine) :=
  ⟨.raised raises ⟨cause, .inl rfl⟩ rfl, rfl⟩

/-- An address exception leaves the standing of one. -/
theorem leavesBehind_raiseAddress
    (raises : execution.Raises)
    (cause : ExceptionCause)
    (address : UInt32) :
    execution.LeavesBehind ((raiseAddress cause address).run execution.machine) :=
  ⟨.raised raises ⟨cause, .inr ⟨address, rfl⟩⟩ rfl, rfl⟩

/-- A result that does not overflow leaves the standing of a plain instruction. -/
theorem leavesBehind_settleResult
    {target : Reg}
    {result? : Option UInt32}
    (noException : execution.trap? ≠ some .exception)
    (raises : result? = none → execution.Raises) :
    execution.LeavesBehind ((settleResult target result?).run execution.machine) := by
  cases result? with
  | some value => exact (staysPut_setReg target value).leavesBehind noException
  | none => exact leavesBehind_raise (raises rfl) .overflow

/-- A load goes on behind itself, or raises an address exception. -/
theorem leavesBehind_load
    {op : LoadOp}
    {target base : Reg}
    {offset : UInt32}
    (loads : execution.instruction = .load op target base offset) :
    execution.LeavesBehind ((load op target base offset).run execution.machine) := by
  have noException : execution.trap? ≠ some .exception := by
    simp [Execution.trap?, loads]
  have aligned
      (width : Width)
      (extend : UInt32 → UInt32)
      (asked : op.width? = some width) :
      execution.LeavesBehind
        ((loadAligned width extend target
            (effectiveAddress (execution.machine.cpu.registers.get base) offset)).run
          execution.machine) := by
    unfold loadAligned
    split
    · exact StaysPut.leavesBehind
        (.bind (staysPut_read _ _) fun _ => staysPut_setReg _ _) noException
    · next misaligned =>
        refine leavesBehind_raiseAddress ?_ _ _
        simp [Execution.Raises, loads, Instruction.raises, isMisaligned, asked, misaligned]
  have part (paste : UInt32 → UInt32 → UInt32) (address : UInt32) :
      execution.LeavesBehind ((loadPart paste target address).run execution.machine) :=
    StaysPut.leavesBehind
      (.bind (staysPut_read _ _) fun _ =>
        .bind (staysPut_getReg _) fun _ => staysPut_setReg _ _)
      noException
  rw [load, EStateM.run_bind, run_getReg]
  cases op with
  | signedByte => exact aligned _ _ rfl
  | byte => exact aligned _ _ rfl
  | signedHalf => exact aligned _ _ rfl
  | half => exact aligned _ _ rfl
  | word => exact aligned _ _ rfl
  | left => exact part _ _
  | right => exact part _ _

theorem staysPut_writeThrough (width : Width) (address value : UInt32) :
    StaysPut (writeThrough width address value) :=
  .bind (staysPut_ofCpu _) fun _ =>
    .ite (fun _ => staysPut_write _ _ _) fun _ => .pure ()

/-- A store goes on behind itself, or raises an address exception. -/
theorem leavesBehind_store
    {op : StoreOp}
    {source base : Reg}
    {offset : UInt32}
    (stores : execution.instruction = .store op source base offset) :
    execution.LeavesBehind ((store op source base offset).run execution.machine) := by
  have noException : execution.trap? ≠ some .exception := by
    simp [Execution.trap?, stores]
  have aligned (width : Width) (value : UInt32) (asked : op.width? = some width) :
      execution.LeavesBehind
        ((storeAligned width
            (effectiveAddress (execution.machine.cpu.registers.get base) offset)
            value).run
          execution.machine) := by
    unfold storeAligned
    split
    · exact StaysPut.leavesBehind (staysPut_writeThrough _ _ _) noException
    · next misaligned =>
        refine leavesBehind_raiseAddress ?_ _ _
        simp [Execution.Raises, stores, Instruction.raises, isMisaligned, asked, misaligned]
  have part (paste : UInt32 → UInt32 → UInt32) (address value : UInt32) :
      execution.LeavesBehind ((storePart paste address value).run execution.machine) :=
    StaysPut.leavesBehind
      (.bind (staysPut_read _ _) fun _ => staysPut_writeThrough _ _ _) noException
  rw [store, EStateM.run_bind, run_getReg]
  simp only
  rw [EStateM.run_bind, run_getReg]
  cases op with
  | byte => exact aligned _ _ rfl
  | half => exact aligned _ _ rfl
  | word => exact aligned _ _ rfl
  | left => exact part _ _ _
  | right => exact part _ _ _

/-- What an instruction leaves behind that neither transfers control nor is a trap. -/
theorem leavesBehind_of_isPlain
    (plain : execution.instruction.isPlain = true)
    (execute : Instruction → Action Unit) :
    execution.LeavesBehind
      ((executeWith execute execution.instruction).run execution.machine) := by
  have noException : execution.trap? ≠ some .exception := by
    intro called
    obtain ⟨code, isTrap, -⟩ := Execution.instruction_of_trap called
    rw [isTrap] at plain
    cases plain
  have still {action : Action Unit} (stays : StaysPut action) :
      execution.LeavesBehind (action.run execution.machine) :=
    stays.leavesBehind noException
  cases same : execution.instruction <;>
    simp only [same, Instruction.isPlain, Instruction.isTransfer, Bool.not_true,
      Bool.false_eq_true] at plain
  case load op target base offset => exact leavesBehind_load same
  case store op source base offset => exact leavesBehind_store same
  case shift op target source amount =>
    exact still
      (.bind (staysPut_getReg _) fun _ => staysPut_setReg _ _)
  case shiftVariable op target first second =>
    exact still
      (.bind (staysPut_getReg _) fun _ =>
        .bind (staysPut_getReg _) fun _ => staysPut_setReg _ _)
  case alu op target first second =>
    have raises
        (overflows :
          op.compute? (execution.machine.cpu.registers.get first)
              (execution.machine.cpu.registers.get second) =
            none) :
        execution.Raises := by
      simp only [Execution.Raises, same, Instruction.raises, overflows, Option.isNone_none]
    rw [executeWith, EStateM.run_bind, run_getReg]
    simp only
    rw [EStateM.run_bind, run_getReg]
    exact leavesBehind_settleResult noException raises
  case immediate op target source value =>
    have raises
        (overflows :
          op.compute? (execution.machine.cpu.registers.get source) value = none) :
        execution.Raises := by
      simp only [Execution.Raises, same, Instruction.raises, overflows, Option.isNone_none]
    rw [executeWith, EStateM.run_bind, run_getReg]
    exact leavesBehind_settleResult noException raises
  case loadUpper target value => exact still (staysPut_setReg _ _)
  case wide op first second =>
    exact still
      (.bind (staysPut_getReg _) fun _ =>
        .bind (staysPut_getReg _) fun _ => staysPut_modifyRegisters fun _ => rfl)
  case moveFromHi target =>
    exact still
      (.bind (staysPut_ofCpu _) fun _ => staysPut_setReg _ _)
  case moveFromLo target =>
    exact still
      (.bind (staysPut_ofCpu _) fun _ => staysPut_setReg _ _)
  case moveToHi source =>
    exact still
      (.bind (staysPut_getReg _) fun _ => staysPut_modifyRegisters fun _ => rfl)
  case moveToLo source =>
    exact still
      (.bind (staysPut_getReg _) fun _ => staysPut_modifyRegisters fun _ => rfl)
  case systemCall =>
    exact leavesBehind_raise (by rw [Execution.Raises, same]; rfl) .syscall
  case breakpoint =>
    exact leavesBehind_raise (by rw [Execution.Raises, same]; rfl) .breakpoint
  case moveFromSystem target index =>
    exact still
      (.bind (staysPut_ofCpu _) fun _ => staysPut_setReg _ _)
  case moveToSystem source index => exact ⟨.systemWritten same, rfl⟩
  case returnFromException => exact ⟨.modePopped same, rfl⟩
  case geometry => exact still (.pure ())
  case loadGeometry base => exact still (.pure ())
  case storeGeometry base => exact still (.pure ())
  case unknown => exact still (.pure ())

/-- A branch that is not taken stays put, linked or not. -/
theorem leavesBehind_of_untaken
    (transfers : execution.instruction.isTransfer = true)
    (untaken : execution.target? = none)
    (execute : Instruction → Action Unit) :
    execution.LeavesBehind
      ((executeWith execute execution.instruction).run execution.machine) := by
  have same :=
    execution.machine.control_withRegisters
      (execution.instruction.pc_linked _)
  rw [run_executeWith_of_untaken execute transfers untaken]
  have sameStanding :
      (execution.machine.withRegisters
          (execution.instruction.linked execution.machine.cpu.registers)).standing =
        execution.machine.standing :=
    congrArg Prod.fst same
  have noException : execution.trap? ≠ some .exception := by
    intro called
    obtain ⟨code, isTrap, -⟩ := Execution.instruction_of_trap called
    rw [isTrap] at transfers
    cases transfers
  exact ⟨sameStanding ▸ .undisturbed noException, congrArg Prod.snd same⟩

end

end Action

end PsxPlayer
