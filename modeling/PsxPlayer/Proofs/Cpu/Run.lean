import PsxPlayer.Cpu.Execute

namespace PsxPlayer

/-!
# Running actions

What the primitive actions give and leave behind when they are run on a machine.
-/

namespace Registers

/-- The zero register cannot be set. -/
@[simp]
theorem set_zero
    (registers : Registers)
    (value : UInt32) :
    registers.set 0 value = registers := by
  simp [set]

/-- The last value that is written counts. -/
@[simp]
theorem set_set
    (registers : Registers)
    (register : Reg)
    (first second : UInt32) :
    (registers.set register first).set register second =
      registers.set register second := by
  unfold set
  split
  · rfl
  · simp

/-- Writing back what a register holds changes nothing. -/
@[simp]
theorem set_get
    (registers : Registers)
    (register : Reg) :
    registers.set register (registers.get register) = registers := by
  unfold set get
  split
  · rfl
  · simp

/-- A write changes nothing exactly if the register had that value. -/
theorem set_eq_self_iff
    (registers : Registers)
    {register : Reg}
    (nonzero : register ≠ 0)
    (value : UInt32) :
    registers.set register value = registers ↔ value = registers.get register := by
  constructor
  · intro same
    rw [← same, get_set_self _ nonzero]
  · rintro rfl
    exact registers.set_get register

/-- Writes to different registers may be exchanged. -/
theorem set_comm
    (registers : Registers)
    {first second : Reg}
    (differ : first ≠ second)
    (left right : UInt32) :
    (registers.set first left).set second right =
      (registers.set second right).set first left := by
  unfold set
  by_cases firstZero : first = 0
  · simp [firstZero]
  · by_cases secondZero : second = 0
    · simp [firstZero, secondZero]
    · have apart : first.val ≠ second.val := fun same => differ (Fin.ext same)
      simp only [firstZero, secondZero, ↓reduceIte]
      congr 1
      exact Vector.set_comm left right apart

section

variable (registers : Registers) (register : Reg) (value hi lo : UInt32)

/-- Writing a register leaves the high half of the wide result. -/
@[simp]
theorem hi_set : (registers.set register value).hi = registers.hi := by
  unfold set
  split <;> rfl

/-- Writing a register leaves the low half of the wide result. -/
@[simp]
theorem lo_set : (registers.set register value).lo = registers.lo := by
  unfold set
  split <;> rfl

/-- Writing a register and setting the high half commute. -/
theorem set_withHi :
    { registers.set register value with hi := hi } =
      { registers with hi := hi }.set register value := by
  unfold set
  split <;> rfl

/-- Writing a register and setting the low half commute. -/
theorem set_withLo :
    { registers.set register value with lo := lo } =
      { registers with lo := lo }.set register value := by
  unfold set
  split <;> rfl

/-- Writing a register and setting the wide result commute. -/
theorem set_withWide :
    { registers.set register value with hi := hi, lo := lo } =
      { registers with hi := hi, lo := lo }.set register value := by
  unfold set
  split <;> rfl

end

/-- The program counter and a register are written independently. -/
theorem set_withPc
    (registers : Registers)
    (register : Reg)
    (value address : UInt32) :
    { registers with pc := address }.set register value =
      { registers.set register value with pc := address } := by
  unfold set
  split <;> rfl

end Registers

namespace Machine

/-- The machine with other registers. -/
def withRegisters
    (machine : Machine)
    (registers : Registers) :
    Machine :=
  { machine with cpu := { machine.cpu with registers := registers } }

/-- The machine with another bus. -/
def withBus
    (machine : Machine)
    (bus : Bus) :
    Machine :=
  { machine with bus := bus }

/-- The machine with other system registers. -/
def withSystem
    (machine : Machine)
    (system : SystemRegisters) :
    Machine :=
  { machine with cpu := { machine.cpu with system := system } }

/-- The word at the program counter. -/
def nextWord (machine : Machine) : UInt32 :=
  machine.bus.read .word machine.cpu.registers.pc

/-- The machine after the word at the program counter has been fetched. -/
def fetched (machine : Machine) : Machine :=
  (machine.withBus machine.bus.tick).withRegisters
    { machine.cpu.registers with pc := machine.cpu.registers.pc + 4 }

section

variable (machine : Machine) (registers : Registers) (bus : Bus)
  (system : SystemRegisters)

@[simp]
theorem withRegisters_self : machine.withRegisters machine.cpu.registers = machine :=
  rfl

@[simp]
theorem withRegisters_registers :
    (machine.withRegisters registers).cpu.registers = registers :=
  rfl

@[simp]
theorem withRegisters_system :
    (machine.withRegisters registers).cpu.system = machine.cpu.system :=
  rfl

@[simp]
theorem withRegisters_bus :
    (machine.withRegisters registers).bus = machine.bus :=
  rfl

@[simp]
theorem withRegisters_firmware :
    (machine.withRegisters registers).firmware = machine.firmware :=
  rfl

@[simp]
theorem withRegisters_exceptionTaken :
    (machine.withRegisters registers).cpu.exceptionTaken = machine.cpu.exceptionTaken :=
  rfl

@[simp]
theorem withSystem_registers :
    (machine.withSystem system).cpu.registers = machine.cpu.registers :=
  rfl

@[simp]
theorem withSystem_system :
    (machine.withSystem system).cpu.system = system :=
  rfl

@[simp]
theorem withBus_self : machine.withBus machine.bus = machine :=
  rfl

@[simp]
theorem withBus_cpu :
    (machine.withBus bus).cpu = machine.cpu :=
  rfl

@[simp]
theorem withBus_bus :
    (machine.withBus bus).bus = bus :=
  rfl

end

end Machine

namespace Action

variable (machine : Machine)

@[simp]
theorem run_modifyCpu (change : Cpu → Cpu) :
    (modifyCpu change).run machine =
      .ok () { machine with cpu := change machine.cpu } :=
  rfl

/-- A change of the registers leaves the rest of the machine. -/
@[simp]
theorem run_modifyRegisters (change : Registers → Registers) :
    (modifyRegisters change).run machine =
      .ok () (machine.withRegisters (change machine.cpu.registers)) :=
  rfl

/-- A change of the firmware leaves the rest of the machine. -/
@[simp]
theorem run_modifyFirmware (change : Firmware → Firmware) :
    (modifyFirmware change).run machine =
      .ok () { machine with firmware := change machine.firmware } :=
  rfl

/-- A change of the bus leaves the rest of the machine. -/
@[simp]
theorem run_modifyBus (change : Bus → Bus) :
    (modifyBus change).run machine = .ok () (machine.withBus (change machine.bus)) :=
  rfl

/-- An action on the bus leaves the rest of the machine, also when it fails. -/
theorem run_onBus {α : Type} (action : BusAction α) :
    (onBus action).run machine =
      match action.run machine.bus with
      | .ok value bus => .ok value (machine.withBus bus)
      | .error fault bus => .error fault (machine.withBus bus) := by
  rcases machine with ⟨cpu, firmware, bus, printed⟩
  simp only [onBus, EStateM.run]
  cases action bus with
  | ok value bus => rfl
  | error fault bus => rfl

/-- Looking at the processor changes nothing. -/
@[simp]
theorem run_ofCpu {α : Type} (view : Cpu → α) :
    (ofCpu view).run machine = .ok (view machine.cpu) machine :=
  rfl

@[simp]
theorem run_ofRegisters {α : Type} (view : Registers → α) :
    (ofRegisters view).run machine = .ok (view machine.cpu.registers) machine :=
  rfl

/-- Looking at the firmware changes nothing. -/
@[simp]
theorem run_ofFirmware {α : Type} (view : Firmware → α) :
    (ofFirmware view).run machine = .ok (view machine.firmware) machine :=
  rfl

/-- Looking at the bus changes nothing. -/
@[simp]
theorem run_ofBus {α : Type} (view : Bus → α) :
    (ofBus view).run machine = .ok (view machine.bus) machine :=
  rfl

/-- Reading a register changes nothing. -/
@[simp]
theorem run_getReg (register : Reg) :
    (getReg register).run machine =
      .ok (machine.cpu.registers.get register) machine :=
  rfl

/-- Writing a register leaves the rest of the machine. -/
@[simp]
theorem run_setReg (register : Reg) (value : UInt32) :
    (setReg register value).run machine =
      .ok () (machine.withRegisters (machine.cpu.registers.set register value)) :=
  rfl

@[simp]
theorem run_getPc : getPc.run machine = .ok machine.cpu.registers.pc machine :=
  rfl

/-- Setting the program counter leaves the rest of the machine. -/
@[simp]
theorem run_setPc (address : UInt32) :
    (setPc address).run machine =
      .ok () (machine.withRegisters { machine.cpu.registers with pc := address }) :=
  rfl

@[simp]
theorem run_getSystem (index : Fin 32) :
    (getSystem index).run machine = .ok (machine.cpu.system.get index) machine :=
  rfl

/-- A change of the system registers leaves the rest of the machine. -/
@[simp]
theorem run_modifySystem (change : SystemRegisters → SystemRegisters) :
    (modifySystem change).run machine =
      .ok () (machine.withSystem (change machine.cpu.system)) :=
  rfl

/-- An exception changes the processor only. -/
@[simp]
theorem run_raise (cause : ExceptionCause) :
    (raise cause).run machine =
      .ok () { machine with cpu := machine.cpu.raise cause } :=
  rfl

/-- An address exception changes the processor only. -/
@[simp]
theorem run_raiseAddress (cause : ExceptionCause) (address : UInt32) :
    (raiseAddress cause address).run machine =
      .ok () { machine with cpu := machine.cpu.raiseAddress cause address } :=
  rfl

/-- Reading memory or a device changes nothing. -/
@[simp]
theorem run_read (width : Width) (address : UInt32) :
    (read width address).run machine =
      .ok (machine.bus.read width address) machine :=
  rfl

/-- A step executes the next word with the word fetched. -/
theorem run_stepWith (execute : Instruction → Action Unit) :
    (stepWith execute).run machine =
      (execute (.ofWord machine.nextWord)).run machine.fetched :=
  rfl

end Action

end PsxPlayer
