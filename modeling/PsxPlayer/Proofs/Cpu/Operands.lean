import PsxPlayer.Proofs.Cpu.Guest
import PsxPlayer.Proofs.Cpu.Unread

namespace PsxPlayer

/-!
# What the operands of an instruction tell

The operands of an instruction name the registers that it depends on and the register
that it writes.  Both lists are complete: a register that is not written keeps its
value, and machines that differ in a register that is not read come out alike.
-/

namespace Machine

/-- The machine with another value in a register. -/
def holding (machine : Machine) (register : Reg) (value : UInt32) : Machine :=
  machine.withRegisters (machine.cpu.registers.set register value)

/-- The value of a register. -/
def reg (machine : Machine) (register : Reg) : UInt32 :=
  machine.cpu.registers.get register

/-- Two machines that differ in the value of one register at most. -/
def AlikeBut (register : Reg) (first second : Machine) : Prop :=
  ∃ value, second = first.holding register value

/-- Nothing but an exception of the current instruction has happened to the processor. -/
def HasRaised (before after : Machine) : Prop :=
  ∃ cause,
    after.cpu = before.cpu.raise cause ∨
      ∃ address, after.cpu = before.cpu.raiseAddress cause address

/-- Another register does not show what a register holds. -/
theorem reg_holding_of_ne
    (machine : Machine)
    {register other : Reg}
    (differs : other ≠ register)
    (value : UInt32) :
    (machine.holding register value).reg other = machine.reg other :=
  Registers.get_set_of_ne _ differs.symm _

end Machine

namespace Action

/--
How two runs of an action compare that are meant not to read a register.  Either both
have put the same value into it, or both have left it alone; the latter, if it should
have been written, because of an exception.
-/
inductive ComesOutAlike
    (register : Reg)
    (isWritten : Bool)
    (first second : Machine) :
    EStateM.Result Fault Machine Unit → EStateM.Result Fault Machine Unit → Prop where
  | overwritten
      (after : Machine)
      (meant : isWritten = true) :
      ComesOutAlike register isWritten first second (.ok () after) (.ok () after)
  | kept
      {after otherAfter : Machine}
      (alike : after.AlikeBut register otherAfter)
      (firstKept : after.reg register = first.reg register)
      (secondKept : otherAfter.reg register = second.reg register)
      (raised : isWritten = true → first.HasRaised after ∧ second.HasRaised otherAfter) :
      ComesOutAlike register isWritten first second (.ok () after) (.ok () otherAfter)
  | failed
      {fault : Fault}
      {after otherAfter : Machine}
      (alike : after.AlikeBut register otherAfter)
      (firstKept : after.reg register = first.reg register)
      (secondKept : otherAfter.reg register = second.reg register) :
      ComesOutAlike register isWritten first second
        (.error fault after) (.error fault otherAfter)

/-- An action uses a register in no other way than it is said to. -/
structure Uses
    (register : Reg)
    (isRead isWritten : Bool)
    (action : Action Unit) :
    Prop where
  kept :
    isWritten = false →
    ∀ machine, (stateAfter action machine).reg register = machine.reg register
  unseen :
    isRead = false →
    ∀ (machine : Machine) (value : UInt32),
      ComesOutAlike register isWritten machine (machine.holding register value)
        (action.run machine) (action.run (machine.holding register value))

namespace Uses

variable {register : Reg} {isRead isWritten : Bool}

/-- Reading what a register that is not read does not show. -/
theorem read
    {α : Type}
    {action : Action α}
    {view : Machine → α}
    {next : α → Action Unit}
    (reads : ∀ machine, action.run machine = .ok (view machine) machine)
    (same :
      isRead = false →
      ∀ (machine : Machine) (value : UInt32),
        view (machine.holding register value) = view machine)
    (uses : ∀ found, Uses register isRead isWritten (next found)) :
    Uses register isRead isWritten (action >>= next) where
  kept := by
    intro unwritten machine
    rw [stateAfter, EStateM.run_bind, reads]
    exact (uses _).kept unwritten machine
  unseen := by
    intro unread machine value
    rw [EStateM.run_bind, EStateM.run_bind, reads, reads]
    simp only [same unread]
    exact (uses _).unseen unread machine value

theorem getReg
    {other : Reg}
    {next : UInt32 → Action Unit}
    (named : isRead = false → other ≠ register)
    (uses : ∀ found, Uses register isRead isWritten (next found)) :
    Uses register isRead isWritten (Action.getReg other >>= next) :=
  read (run_getReg · other)
    (fun unread machine => machine.reg_holding_of_ne (named unread)) uses

/-- A change that has to do with the register only by an exception. -/
theorem modify
    {action : Action Unit}
    {change : Machine → Machine}
    (changes : ∀ machine, action.run machine = .ok () (change machine))
    (keeps : ∀ machine, (change machine).reg register = machine.reg register)
    (commutes :
      ∀ (machine : Machine) (value : UInt32),
        change (machine.holding register value) = (change machine).holding register value)
    (raised : isWritten = true → ∀ machine : Machine, machine.HasRaised (change machine)) :
    Uses register isRead isWritten action where
  kept := by
    intro unwritten machine
    rw [stateAfter, changes]
    exact keeps machine
  unseen := by
    intro unread machine value
    rw [changes, changes]
    exact .kept ⟨value, commutes machine value⟩ (keeps machine) (keeps _)
      fun written => ⟨raised written _, raised written _⟩

theorem pure : Uses register isRead false (Pure.pure ()) :=
  modify (fun _ => rfl) (fun _ => rfl) (fun _ _ => rfl) nofun

theorem setReg (target : Reg) (result : UInt32) :
    Uses register isRead (some target == some register) (Action.setReg target result) := by
  by_cases same : target = register
  · subst same
    refine ⟨fun unwritten => by simp at unwritten, fun unread machine value => ?_⟩
    have forgotten :
        (Action.setReg target result).run (machine.holding target value) =
          (Action.setReg target result).run machine := by
      simp [Machine.holding, Machine.withRegisters]
    rw [forgotten]
    exact .overwritten _ (by simp)
  · refine modify (run_setReg · target result) ?_ ?_ (by simp [same])
    · exact fun _ => Registers.get_set_of_ne _ same _
    · intro machine value
      unfold Machine.holding
      simp only [Machine.withRegisters]
      rw [Registers.set_comm _ (Ne.symm same)]

/-- A change that leaves the general purpose registers alone. -/
theorem modifyRegisters
    {change : Registers → Registers}
    (keeps : ∀ registers : Registers, (change registers).get register = registers.get register)
    (commutes :
      ∀ (registers : Registers) (value : UInt32),
        change (registers.set register value) = (change registers).set register value) :
    Uses register isRead false (Action.modifyRegisters change) :=
  modify (run_modifyRegisters · change) (fun _ => keeps _)
    (fun machine value => congrArg machine.withRegisters (commutes _ value)) nofun

/-- An exception leaves the general purpose registers alone. -/
theorem raise (cause : ExceptionCause) :
    Uses register isRead isWritten (Action.raise cause) := by
  refine modify (run_raise · cause) (fun _ => rfl) ?_ fun _ _ => ⟨cause, .inl rfl⟩
  intro machine value
  exact congrArg (fun cpu => { machine with cpu := cpu })
    (Cpu.raise_overlaid machine.cpu cause register value machine.cpu.deferredLoad?)

theorem raiseAddress (cause : ExceptionCause) (address : UInt32) :
    Uses register isRead isWritten (Action.raiseAddress cause address) := by
  refine modify (run_raiseAddress · cause address) (fun _ => rfl) ?_
    fun _ _ => ⟨cause, .inr ⟨address, rfl⟩⟩
  intro machine value
  exact congrArg (fun cpu => { machine with cpu := cpu })
    (Cpu.raise_overlaid
      { machine.cpu with
        system := machine.cpu.system.set SystemRegisters.badAddress address }
      cause register value machine.cpu.deferredLoad?)

theorem onBus (action : BusAction Unit) :
    Uses register isRead false (Action.onBus action) where
  kept := by
    intro unwritten machine
    rw [stateAfter, run_onBus]
    cases action.run machine.bus <;> rfl
  unseen := by
    intro unread machine value
    have sameBus : (machine.holding register value).bus = machine.bus := rfl
    rw [run_onBus, run_onBus, sameBus]
    cases action.run machine.bus with
    | ok result bus => exact .kept ⟨value, rfl⟩ rfl rfl nofun
    | error fault bus => exact .failed ⟨value, rfl⟩ rfl rfl

theorem settleResult (target : Reg) (result? : Option UInt32) :
    Uses register isRead (some target == some register)
      (Action.settleResult target result?) := by
  cases result? with
  | some result => exact setReg target result
  | none => exact raise .overflow

theorem load
    (op : LoadOp)
    (target base : Reg)
    (offset : UInt32)
    (named :
      isRead = false →
      ∀ other, other ∈ (Instruction.load op target base offset).sources → other ≠ register) :
    Uses register isRead (some target == some register)
      (Action.load op target base offset) := by
  have aligned (width : Width) (extend : UInt32 → UInt32) (address : UInt32) :
      Uses register isRead (some target == some register)
        (loadAligned width extend target address) := by
    unfold loadAligned
    split
    · exact read (run_read · width address) (fun _ _ _ => rfl) fun found => setReg target _
    · exact raiseAddress .addressErrorLoad address
  have part (paste : UInt32 → UInt32 → UInt32) (address : UInt32)
      (targetNamed : isRead = false → target ≠ register) :
      Uses register isRead (some target == some register)
        (loadPart paste target address) := by
    unfold loadPart
    exact read (run_read · .word _) (fun _ _ _ => rfl) fun word =>
      getReg targetNamed fun old => setReg target _
  unfold Action.load
  cases op with
  | signedByte => exact getReg (named · base (.head _)) fun _ => aligned _ _ _
  | byte => exact getReg (named · base (.head _)) fun _ => aligned _ _ _
  | signedHalf => exact getReg (named · base (.head _)) fun _ => aligned _ _ _
  | half => exact getReg (named · base (.head _)) fun _ => aligned _ _ _
  | word => exact getReg (named · base (.head _)) fun _ => aligned _ _ _
  | left =>
      exact getReg (named · base (.head _)) fun _ =>
        part _ _ (named · target (.tail _ (.head _)))
  | right =>
      exact getReg (named · base (.head _)) fun _ =>
        part _ _ (named · target (.tail _ (.head _)))

theorem store
    (op : StoreOp)
    (source base : Reg)
    (offset : UInt32)
    (baseNamed : isRead = false → base ≠ register)
    (sourceNamed : isRead = false → source ≠ register) :
    Uses register isRead false (Action.store op source base offset) := by
  have through (width : Width) (address stored : UInt32) :
      Uses register isRead false (writeThrough width address stored) := by
    unfold writeThrough
    refine read (run_getSystem · SystemRegisters.status) (fun _ _ _ => rfl) fun status => ?_
    split
    · exact onBus _
    · exact pure
  have aligned (width : Width) (address stored : UInt32) :
      Uses register isRead false (storeAligned width address stored) := by
    unfold storeAligned
    split
    · exact through width address stored
    · exact raiseAddress .addressErrorStore address
  have part (paste : UInt32 → UInt32 → UInt32) (address stored : UInt32) :
      Uses register isRead false (storePart paste address stored) := by
    unfold storePart
    exact read (run_read · .word _) (fun _ _ _ => rfl) fun word => through _ _ _
  unfold Action.store
  refine getReg baseNamed fun found => getReg sourceNamed fun stored => ?_
  cases op with
  | byte => exact aligned _ _ _
  | half => exact aligned _ _ _
  | word => exact aligned _ _ _
  | left => exact part _ _ _
  | right => exact part _ _ _

end Uses

/-- An instruction that nests no other uses the registers that its operands name. -/
theorem uses_executeWith
    (execute : Instruction → Action Unit)
    {instruction : Instruction}
    (plain : instruction.isPlain = true)
    (register : Reg) :
    Uses register (instruction.sources.contains register)
      (instruction.destination? == some register) (executeWith execute instruction) := by
  have named (unread : instruction.sources.contains register = false)
      (other : Reg) (member : other ∈ instruction.sources) :
      other ≠ register := by
    rintro rfl
    simp [member] at unread
  have unwritten {claim : Prop} (written : false = true) : claim :=
    absurd written Bool.false_ne_true
  cases instruction <;>
    simp only [Instruction.isPlain, Instruction.isTransfer, Bool.not_true,
      Bool.false_eq_true] at plain
  case shift op target other amount =>
    exact .getReg (named · other (.head _)) fun _ => .setReg target _
  case shiftVariable op target other amount =>
    exact .getReg (named · other (.tail _ (.head _))) fun _ =>
      .getReg (named · amount (.head _)) fun _ => .setReg target _
  case alu op target first second =>
    exact .getReg (named · first (.head _)) fun _ =>
      .getReg (named · second (.tail _ (.head _))) fun _ => .settleResult target _
  case immediate op target other value =>
    exact .getReg (named · other (.head _)) fun _ => .settleResult target _
  case loadUpper target value => exact .setReg target _
  case wide op first second =>
    exact .getReg (named · first (.head _)) fun _ =>
      .getReg (named · second (.tail _ (.head _))) fun _ =>
        .modifyRegisters (fun _ => rfl) fun _ _ => Registers.set_withWide _ _ _ _ _
  case moveFromHi target =>
    exact .read (run_ofRegisters · Registers.hi) (fun _ _ _ => Registers.hi_set _ _ _)
      fun _ => .setReg target _
  case moveFromLo target =>
    exact .read (run_ofRegisters · Registers.lo) (fun _ _ _ => Registers.lo_set _ _ _)
      fun _ => .setReg target _
  case moveToHi other =>
    exact .getReg (named · other (.head _)) fun _ =>
      .modifyRegisters (fun _ => rfl) fun _ _ => Registers.set_withHi _ _ _ _
  case moveToLo other =>
    exact .getReg (named · other (.head _)) fun _ =>
      .modifyRegisters (fun _ => rfl) fun _ _ => Registers.set_withLo _ _ _ _
  case load op target base offset => exact .load op target base offset named
  case store op stored base offset =>
    exact .store op stored base offset (named · base (.head _))
      (named · stored (.tail _ (.head _)))
  case systemCall => exact .raise .syscall
  case breakpoint => exact .raise .breakpoint
  case moveFromSystem target index =>
    exact .read (run_getSystem · index) (fun _ _ _ => rfl) fun _ => .setReg target _
  case moveToSystem other index =>
    exact .getReg (named · other (.head _)) fun _ =>
      .modify (run_modifySystem · _) (fun _ => rfl) (fun _ _ => rfl) unwritten
  case returnFromException =>
    exact .modify (run_modifySystem · _) (fun _ => rfl) (fun _ _ => rfl) unwritten
  case geometry => exact .pure
  case loadGeometry base => exact .pure
  case storeGeometry base => exact .pure
  case unknown => exact .pure

end Action

namespace Hazard

/-- Whether the target reads the register. -/
def isRead : Hazard → Bool
  | .reads | .readsAndWrites => true
  | .none | .writes => false

/-- Whether the target writes the register. -/
def isWrite : Hazard → Bool
  | .writes | .readsAndWrites => true
  | .none | .reads => false

end Hazard

/-- A hazard tells whether the register is among the operands. -/
theorem Instruction.hazard_uses (instruction : Instruction) (register : Reg) :
    (instruction.hazard register).isRead = instruction.sources.contains register ∧
      (instruction.hazard register).isWrite =
        (instruction.destination? == some register) := by
  unfold hazard
  split <;>
    next reads writes => simp only [reads, writes, Hazard.isRead, Hazard.isWrite, and_self]

namespace Action

/--
The hazards are sound for every word that neither transfers control nor calls the
firmware.  A register that is not written according to them keeps its value, whether
the word is executed or fails.  Machines that differ in a register that is not read
come out alike in all but this register; and if it is written, it holds the same value
in both, unless the word has raised an exception in both and left it alone.
-/
theorem execute_obeys_hazardAt
    {word : UInt32}
    {register : Reg}
    (plain : (Instruction.ofWord word).isPlain = true) :
    ((hazardAt word register).isWrite = false →
        ∀ machine : Machine,
          (stateAfter (execute (.ofWord word)) machine).reg register =
            machine.reg register) ∧
      ((hazardAt word register).isRead = false →
        ∀ first second : Machine,
          first.AlikeBut register second →
          ComesOutAlike register (hazardAt word register).isWrite first second
            ((execute (.ofWord word)).run first) ((execute (.ofWord word)).run second)) := by
  obtain ⟨isRead, isWrite⟩ := (Instruction.ofWord word).hazard_uses register
  change (hazardAt word register).isRead = _ at isRead
  change (hazardAt word register).isWrite = _ at isWrite
  have uses := uses_executeWith (executeNested (nestingLimit - 1)) plain register
  rw [← isRead, ← isWrite] at uses
  refine ⟨uses.kept, ?_⟩
  rintro unread first second ⟨value, rfl⟩
  exact uses.unseen unread first value

/-- A machine in which adding registers 8 and 9 overflows. -/
def overflowing : Machine :=
  ((Machine.guest [] 0x80010000).holding 8 0x7FFFFFFF).holding 9 1

/--
An addition that overflows comes out alike whatever its target holds, and leaves that
there.
-/
theorem execute_overflow_obeysHazardAt :
    (Instruction.ofWord 0x01095020).isPlain = true ∧
      hazardAt 0x01095020 10 = .writes ∧
      ComesOutAlike 10 true overflowing (overflowing.holding 10 7)
        ((execute (.ofWord 0x01095020)).run overflowing)
        ((execute (.ofWord 0x01095020)).run (overflowing.holding 10 7)) ∧
      ∃ after,
        (execute (.ofWord 0x01095020)).run (overflowing.holding 10 7) = .ok () after ∧
          after.cpu.exceptionTaken = true ∧ after.reg 10 = 7 := by
  have plain : (Instruction.ofWord 0x01095020).isPlain = true := by decide
  have hazard : hazardAt 0x01095020 10 = .writes := by decide
  have alike := (@execute_obeys_hazardAt 0x01095020 10 plain).2 (by rw [hazard]; rfl)
    overflowing _ ⟨7, rfl⟩
  rw [hazard] at alike
  let second := overflowing.holding 10 7
  refine ⟨plain, hazard, alike, { second with cpu := second.cpu.raise .overflow }, ?_, rfl, ?_⟩
  · rw [show Instruction.ofWord 0x01095020 = .alu .add 10 8 9 by decide]
    rfl
  · decide

end Action

end PsxPlayer
