import PsxPlayer.Proofs.Firmware.Composed

namespace PsxPlayer

/-!
# Instructions that fetch no other

An instruction that nests no other leaves the clock where its fetch has put it.  The
clock may only jump on arrival in an empty loop, if the settings allow it.  A firmware
service fetches nothing itself either: what it fetches are the instructions of the
guest functions that it calls.
-/

/-- The clock of the machine, unless it may jump to the next deadline. -/
def Machine.pace (machine : Machine) : Option UInt32 :=
  if machine.cpu.skipsIdleLoops then none else some machine.bus.clock

/-- A fetch moves the clock by one. -/
theorem Machine.pace_tick (machine : Machine) :
    (machine.withBus machine.bus.tick).pace = machine.pace.map (· + 1) := by
  unfold pace
  simp only [withBus_cpu, withBus_bus]
  by_cases skips : machine.cpu.skipsIdleLoops = true
  · simp only [skips, ↓reduceIte, Option.map_none]
  · simp only [skips, Bool.false_eq_true, ↓reduceIte, Option.map_some]
    rfl

namespace Action

/-- An action that fetches nothing. -/
abbrev IsSteady {α : Type} (action : Action α) : Prop :=
  IsFlat Machine.pace action

/-- What leaves the clock of the bus alone fetches nothing. -/
theorem isSteady_onBus
    {α : Type}
    {action : BusAction α}
    (flat : IsFlat Bus.clock action) :
    IsSteady (onBus action) := by
  intro machine
  have busFlat := flat machine.bus
  rw [run_onBus]
  cases ran : action.run machine.bus with
  | ok value bus =>
      rw [ran] at busFlat
      simp only [Machine.pace, Machine.withBus_cpu, Machine.withBus_bus, busFlat]
  | error fault bus =>
      rw [ran] at busFlat
      refine ⟨busFlat.1, ?_⟩
      simp only [Machine.pace, Machine.withBus_cpu, Machine.withBus_bus, busFlat.2]

theorem isSteady_skipIdleTime : IsSteady skipIdleTime := by
  intro machine
  rw [skipIdleTime, EStateM.run_bind, run_ofCpu]
  by_cases skips : machine.cpu.skipsIdleLoops = true
  · simp only [skips, ↓reduceIte, run_modifyBus, Machine.pace, Machine.withBus_cpu]
  · simp only [skips, Bool.false_eq_true, ↓reduceIte, EStateM.run_pure]

/-- What is composed of steady parts is steady. -/
theorem Composed.isSteady
    {α : Type}
    {part : Action Unit → Prop}
    {action : Action α}
    (composed : Composed part action)
    (steady : ∀ action, part action → IsSteady action) :
    IsSteady action := by
  induction composed with
  | pure value => exact .pure value
  | bind first second firstSteady secondSteady => exact .bind firstSteady secondSteady
  | calm changes same unheard =>
      refine .modify changes fun machine => ?_
      simp only [Machine.pace, (same machine).1, (same machine).2]
  | onBus flat madeUp deaf => exact isSteady_onBus flat
  | skipIdleTime => exact isSteady_skipIdleTime
  | part isPart => exact steady _ isPart

/-- What is composed of no part fetches nothing. -/
theorem Composed.isSteady_of_false
    {α : Type}
    {action : Action α}
    (composed : Composed (fun _ => False) action) :
    IsSteady action :=
  composed.isSteady fun _ isPart => isPart.elim

/-- An instruction that nests no other fetches nothing. -/
theorem isSteady_executeWith
    (execute : Instruction → Action Unit)
    {instruction : Instruction}
    (plain : instruction.isPlain = true) :
    IsSteady (executeWith execute instruction) :=
  (composed_executeWith execute plain).isSteady_of_false

/-- The check on arrival fetches nothing. -/
theorem isSteady_settle (idle : Bool) : IsSteady (settle idle) :=
  (composed_settle idle).isSteady_of_false

/-- The end of a transfer fetches nothing. -/
theorem isSteady_arrive (target : UInt32) (idle : Bool) : IsSteady (arrive target idle) :=
  (composed_arrive target idle).isSteady_of_false

/-- A firmware service fetches no more than the guest functions that it calls. -/
theorem isSteady_serveTrap
    {step : Action Unit}
    (steady : IsSteady step)
    (trap : Trap) :
    IsSteady (serveTrap step trap) := by
  have own : Composed (· = step) step := .part rfl
  refine (composed_serveTrap own trap).isSteady ?_
  rintro action rfl
  exact steady

end Action

end PsxPlayer
