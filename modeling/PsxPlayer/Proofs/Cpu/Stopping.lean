import Mathlib.Data.Nat.Find
import PsxPlayer.Proofs.Cpu.Idling

namespace PsxPlayer

/-!
# When a run for some cycles stops

A run for some cycles looks at the clock before each step and stops once it is far enough from
where it was at first.  The distance wraps with the clock.  So the run stops after the first step
by which the cycles have passed, unless the same step takes the clock past the place where it comes
round; then it goes on, and on some machines it never stops.
-/

open PsxPlayer.Action

namespace Action

section

variable {machine next : Machine} (stepped : step.run machine = .ok () next)

include stepped

/-- Some steps go on where the first one has ended. -/
theorem run_steps_succ (count : Nat) :
    (steps (count + 1)).run machine = (steps count).run next := by
  rw [steps, EStateM.run_bind, stepped]

/-- The loop goes on where a step has ended, if it has to take that step. -/
theorem run_runSince_succ
    {start cycles : UInt32}
    (short : machine.bus.clock - start < cycles)
    (limit : Nat) :
    (runSince start cycles (limit + 1)).run machine =
      (runSince start cycles limit).run next := by
  have goesOn : machine.bus.counters.cycle - start < cycles := short
  rw [runSince, EStateM.run_bind, run_ofBus]
  simp only [goesOn, ↓reduceIte]
  rw [EStateM.run_bind, stepped]

end

end Action

namespace Machine

/-- No step ends in a fault. -/
def Runs (machine : Machine) : Prop :=
  ∀ count, ∃ after, (steps count).run machine = .ok () after

namespace Runs

variable {machine : Machine}

/-- A machine that runs can take a step, and runs after it. -/
theorem step_run (runs : machine.Runs) :
    step.run machine = .ok () (stateAfter step machine) ∧ (stateAfter step machine).Runs := by
  cases stepped : step.run machine with
  | error fault failed =>
      obtain ⟨after, ran⟩ := runs 1
      rw [steps, EStateM.run_bind, stepped] at ran
      cases ran
  | ok value next =>
      have isNext : stateAfter step machine = next := by rw [stateAfter, stepped]
      rw [isNext]
      refine ⟨rfl, fun count => ?_⟩
      obtain ⟨after, ran⟩ := runs (count + 1)
      exact ⟨after, (run_steps_succ stepped count).symm.trans ran⟩

/-- A machine runs if it can take a step in a state that each step brings about again. -/
theorem of_invariant
    {Keeps : Machine → Prop}
    (stepsOn :
      ∀ machine, Keeps machine → ∃ next, step.run machine = .ok () next ∧ Keeps next)
    (keeps : Keeps machine) :
    machine.Runs := by
  intro count
  induction count generalizing machine with
  | zero => exact ⟨machine, rfl⟩
  | succ count inductionHypothesis =>
      obtain ⟨next, stepped, keepsNext⟩ := stepsOn machine keeps
      obtain ⟨after, ran⟩ := inductionHypothesis keepsNext
      exact ⟨after, (run_steps_succ stepped count).trans ran⟩

end Runs

/-- After `count` steps, but not before, at least `cycles` cycles have passed. -/
structure FirstReaches (machine : Machine) (cycles count : Nat) : Prop where
  reached : cycles ≤ machine.elapsed count
  earlier : ∀ fewer < count, machine.elapsed fewer < cycles

/-- The loop that began when the clock was at `start` ends after some more steps. -/
inductive StopsSince (start cycles : UInt32) : Nat → Machine → Machine → Prop where
  | here
      {machine : Machine}
      (passed : cycles ≤ machine.bus.clock - start) :
      StopsSince start cycles 0 machine machine
  | later
      {count : Nat}
      {machine next last : Machine}
      (short : machine.bus.clock - start < cycles)
      (stepped : step.run machine = .ok () next)
      (stops : StopsSince start cycles count next last) :
      StopsSince start cycles (count + 1) machine last

/-- A run for `cycles` cycles stops after `count` steps. -/
def StopsAfter (machine : Machine) (cycles : UInt32) (count : Nat) : Prop :=
  ∃ last, StopsSince machine.bus.clock cycles count machine last

namespace StopsSince

variable {start cycles : UInt32} {count : Nat} {machine last : Machine}

theorem run_steps (stops : StopsSince start cycles count machine last) :
    (steps count).run machine = .ok () last := by
  induction stops with
  | here passed => rfl
  | later short stepped stops inductionHypothesis =>
      exact (run_steps_succ stepped _).trans inductionHypothesis

theorem run_runSince
    {limit : Nat}
    (stops : StopsSince start cycles count machine last)
    (enough : count ≤ limit) :
    (runSince start cycles limit).run machine = .ok () last := by
  induction stops generalizing limit with
  | @here machine passed =>
      cases limit with
      | zero => rfl
      | succ limit =>
          have stopped : ¬machine.bus.counters.cycle - start < cycles :=
            UInt32.not_lt.mpr passed
          rw [runSince, EStateM.run_bind, run_ofBus]
          simp only [stopped, ↓reduceIte]
          rfl
  | @later count machine next last short stepped stops inductionHypothesis =>
      cases limit with
      | zero => exact absurd enough (Nat.not_succ_le_zero _)
      | succ limit =>
          exact (run_runSince_succ stepped short limit).trans
            (inductionHypothesis (Nat.le_of_succ_le_succ enough))

end StopsSince

/-- A run that stops leaves the machine that its steps leave. -/
theorem StopsAfter.run_runCycles
    {machine : Machine}
    {cycles : UInt32}
    {count : Nat}
    (stops : machine.StopsAfter cycles count)
    (within : count ≤ stepLimit) :
    (runCycles cycles).run machine = (steps count).run machine := by
  obtain ⟨last, stops⟩ := stops
  rw [stops.run_steps, runCycles, EStateM.run_bind, run_ofBus]
  exact stops.run_runSince within

/-- As long as the loop does not end, it takes step after step. -/
theorem run_runSince_of_goesOn
    {machine : Machine}
    {start cycles : UInt32}
    {limit : Nat}
    (runs : machine.Runs)
    (goesOn : ∀ count < limit, ¬∃ last, StopsSince start cycles count machine last) :
    (runSince start cycles limit).run machine = (steps limit).run machine := by
  induction limit generalizing machine with
  | zero => rfl
  | succ limit inductionHypothesis =>
      obtain ⟨stepped, runsOn⟩ := runs.step_run
      have short : machine.bus.clock - start < cycles := by
        refine UInt32.not_le.mp fun passed => ?_
        exact goesOn 0 (Nat.succ_pos limit) ⟨machine, .here passed⟩
      have later := inductionHypothesis runsOn fun count isFewer stops => by
        obtain ⟨last, stops⟩ := stops
        exact goesOn (count + 1) (Nat.succ_lt_succ isFewer) ⟨last, .later short stepped stops⟩
      rw [run_runSince_succ stepped short, run_steps_succ stepped]
      exact later

/-- The time since a start, in terms of the step that is next. -/
theorem clock_add_elapsed_succ (machine : Machine) (start : UInt32) (count : Nat) :
    machine.bus.clock - start + .ofNat (machine.elapsed (count + 1)) =
      (stateAfter step machine).bus.clock - start +
        .ofNat ((stateAfter step machine).elapsed count) := by
  rw [elapsed, machine.clock_step, UInt32.ofNat_add, ← UInt32.add_assoc]
  congr 1
  rw [UInt32.sub_eq_add_neg, UInt32.sub_eq_add_neg, UInt32.add_assoc, UInt32.add_assoc,
    UInt32.add_comm (-start)]

/-- The loop ends where the clock, seen from its start, first shows enough cycles. -/
theorem exists_stopsSince_iff
    {machine : Machine}
    (runs : machine.Runs)
    (start cycles : UInt32)
    (count : Nat) :
    (∃ last, StopsSince start cycles count machine last) ↔
      cycles ≤ machine.bus.clock - start + .ofNat (machine.elapsed count) ∧
        ∀ fewer < count,
          machine.bus.clock - start + .ofNat (machine.elapsed fewer) < cycles := by
  have now : machine.bus.clock - start + .ofNat (machine.elapsed 0) =
      machine.bus.clock - start :=
    UInt32.add_zero _
  -- The induction goes over the steps that are left, from wherever the clock is by then.
  induction count generalizing machine with
  | zero =>
      rw [now]
      constructor
      · rintro ⟨last, ⟨passed⟩⟩
        exact ⟨passed, nofun⟩
      · rintro ⟨passed, -⟩
        exact ⟨machine, .here passed⟩
  | succ count inductionHypothesis =>
      obtain ⟨stepped, runsOn⟩ := runs.step_run
      have fromNext := inductionHypothesis runsOn (UInt32.add_zero _)
      simp only [← clock_add_elapsed_succ] at fromNext
      rw [Nat.forall_lt_succ_left, now]
      constructor
      · rintro ⟨last, stops⟩
        cases stops with
        | later short steppedTo stops =>
            rw [stepped] at steppedTo
            cases steppedTo
            obtain ⟨passed, earlier⟩ := fromNext.1 ⟨last, stops⟩
            exact ⟨passed, short, earlier⟩
      · rintro ⟨passed, short, earlier⟩
        obtain ⟨last, stops⟩ := fromNext.2 ⟨passed, earlier⟩
        exact ⟨last, .later short stepped stops⟩

/-- A run looks at the cycles that have passed modulo the clock's range. -/
theorem stopsAfter_iff
    {machine : Machine}
    (runs : machine.Runs)
    (cycles : UInt32)
    (count : Nat) :
    machine.StopsAfter cycles count ↔
      cycles.toNat ≤ machine.elapsed count % 2 ^ 32 ∧
        ∀ fewer < count, machine.elapsed fewer % 2 ^ 32 < cycles.toNat := by
  rw [StopsAfter, exists_stopsSince_iff runs]
  simp only [UInt32.sub_self, UInt32.zero_add, UInt32.le_iff_toNat_le,
    UInt32.lt_iff_toNat_lt, UInt32.toNat_ofNat']

/-- The clock after some steps. -/
theorem Runs.clock_steps
    {machine : Machine}
    (runs : machine.Runs)
    (count : Nat) :
    ∃ after,
      (steps count).run machine = .ok () after ∧
        after.bus.clock = machine.bus.clock + .ofNat (machine.elapsed count) := by
  induction count generalizing machine with
  | zero => exact ⟨machine, rfl, (UInt32.add_zero _).symm⟩
  | succ count inductionHypothesis =>
      obtain ⟨stepped, runsOn⟩ := runs.step_run
      obtain ⟨after, ran, clock⟩ := inductionHypothesis runsOn
      refine ⟨after, (run_steps_succ stepped count).trans ran, ?_⟩
      rw [clock, machine.clock_step, elapsed, UInt32.ofNat_add, UInt32.add_assoc]

/-- Each step takes a cycle at least. -/
theorem le_elapsed (machine : Machine) (count : Nat) : count ≤ machine.elapsed count := by
  induction count generalizing machine with
  | zero => exact Nat.le_refl 0
  | succ count inductionHypothesis =>
      have positive := machine.stepCycles_pos
      have later := inductionHypothesis (stateAfter step machine)
      rw [elapsed]
      omega

theorem elapsed_succ
    {machine : Machine}
    (runs : machine.Runs)
    (count : Nat) :
    machine.elapsed (count + 1) =
      machine.elapsed count + (stateAfter (steps count) machine).stepCycles := by
  induction count generalizing machine with
  | zero => exact Nat.add_comm _ _
  | succ count inductionHypothesis =>
      obtain ⟨stepped, runsOn⟩ := runs.step_run
      have later := inductionHypothesis runsOn
      have same :
          stateAfter (steps (count + 1)) machine =
            stateAfter (steps count) (stateAfter step machine) := by
        rw [stateAfter, run_steps_succ stepped]
        rfl
      rw [elapsed, later, same, ← Nat.add_assoc]
      rfl

/-- However many cycles are asked for, they have passed after as many steps at most. -/
theorem exists_firstReaches (machine : Machine) (cycles : Nat) :
    ∃ count ≤ cycles, machine.FirstReaches cycles count := by
  have passes : ∃ count, cycles ≤ machine.elapsed count :=
    ⟨cycles, machine.le_elapsed cycles⟩
  refine ⟨Nat.find passes, Nat.find_min' passes (machine.le_elapsed cycles),
    Nat.find_spec passes, fun fewer isFewer => ?_⟩
  exact Nat.lt_of_not_le (Nat.find_min passes isFewer)

namespace FirstReaches

variable {machine : Machine} {cycles : UInt32} {count : Nat}

/-- Until the cycles have passed, the clock shows what has passed. -/
theorem stopsAfter_iff
    (first : machine.FirstReaches cycles.toNat count)
    (runs : machine.Runs) :
    machine.StopsAfter cycles count ↔ cycles.toNat ≤ machine.elapsed count % 2 ^ 32 := by
  rw [Machine.stopsAfter_iff runs, and_iff_left]
  intro fewer isFewer
  have short := first.earlier fewer isFewer
  rwa [Nat.mod_eq_of_lt (Nat.lt_trans short cycles.toNat_lt)]

/-- If no step is too long, the clock has not come round when the cycles have passed. -/
theorem elapsed_lt
    (first : machine.FirstReaches cycles.toNat count)
    (runs : machine.Runs)
    (brief :
      ∀ fewer < count,
        (stateAfter (steps fewer) machine).stepCycles + cycles.toNat ≤ 2 ^ 32) :
    machine.elapsed count < 2 ^ 32 := by
  cases count with
  | zero => exact Nat.two_pow_pos 32
  | succ count =>
      have short := first.earlier count (Nat.lt_succ_self count)
      have last := brief count (Nat.lt_succ_self count)
      rw [elapsed_succ runs]
      omega

end FirstReaches

/--
A run for some cycles on a machine whose steps all succeed stops where the clock, which wraps, first
shows that the cycles have passed, if it ever does, and the machine is then the one after just these
steps.  There is a first step by which the cycles have really passed.  The run stops after that one
exactly if the clock still shows them then, which it does if no step so far is too long.
-/
theorem runCycles_stopsAtFirst_iff
    {machine : Machine}
    (runs : machine.Runs)
    (cycles : UInt32) :
    (∀ count,
        machine.StopsAfter cycles count ↔
          cycles.toNat ≤ machine.elapsed count % 2 ^ 32 ∧
            ∀ fewer < count, machine.elapsed fewer % 2 ^ 32 < cycles.toNat) ∧
      (∀ count ≤ stepLimit,
        machine.StopsAfter cycles count →
        (runCycles cycles).run machine = (steps count).run machine) ∧
      ((∀ count < stepLimit, ¬machine.StopsAfter cycles count) →
        (runCycles cycles).run machine = (steps stepLimit).run machine) ∧
      ∃ first ≤ cycles.toNat,
        machine.FirstReaches cycles.toNat first ∧
          (machine.StopsAfter cycles first ↔
            cycles.toNat ≤ machine.elapsed first % 2 ^ 32) ∧
          ((∀ fewer < first,
              (stateAfter (steps fewer) machine).stepCycles + cycles.toNat ≤ 2 ^ 32) →
            machine.StopsAfter cycles first) := by
  refine ⟨stopsAfter_iff runs cycles, fun count within stops => stops.run_runCycles within,
    fun goesOn => ?_, ?_⟩
  · rw [runCycles, EStateM.run_bind, run_ofBus]
    exact run_runSince_of_goesOn runs goesOn
  · obtain ⟨first, few, reaches⟩ := machine.exists_firstReaches cycles.toNat
    have stops_iff := reaches.stopsAfter_iff runs
    refine ⟨first, few, reaches, stops_iff, fun brief => ?_⟩
    rw [stops_iff, Nat.mod_eq_of_lt (reaches.elapsed_lt runs brief)]
    exact reaches.reached

/-- The loop runs for ever. -/
theorem IsIdling.runs {machine : Machine} (idling : machine.IsIdling) : machine.Runs :=
  Runs.of_invariant
    (fun _ idling => by
      obtain ⟨bus, -, stepped, idlesOn⟩ := idling.turn
      exact ⟨_, stepped, idlesOn⟩)
    idling

theorem isIdling_guest : (guest idleWords 0x80010000).IsIdling :=
  ⟨rfl, rfl, rfl, rfl⟩

/-- Seven cycles are over in the fourth turn. -/
theorem runCycles_stopsAtFirst_iff_idling :
    (guest idleWords 0x80010000).Runs ∧
      (runCycles 7).run (guest idleWords 0x80010000) =
        (steps 4).run (guest idleWords 0x80010000) := by
  have runs := isIdling_guest.runs
  have elapsed := isIdling_guest.elapsed_awake rfl
  obtain ⟨stops_iff, returns, -⟩ := runCycles_stopsAtFirst_iff runs 7
  refine ⟨runs, returns 4 (by decide) ((stops_iff 4).2 ?_)⟩
  simp only [elapsed]
  decide

/-- Where idle time is not skipped, the clock is never one short of coming round. -/
theorem IsIdling.neverStops
    {machine : Machine}
    (idling : machine.IsIdling)
    (awake : machine.cpu.skipsIdleLoops = false)
    (count : Nat) :
    ¬machine.StopsAfter 0xFFFFFFFF count := by
  rw [stopsAfter_iff idling.runs, idling.elapsed_awake awake]
  rintro ⟨passed, -⟩
  have cycles : (0xFFFFFFFF : UInt32).toNat = 2 ^ 32 - 1 := rfl
  rw [cycles] at passed
  omega

/-- The counters after the frame pacer has been switched off. -/
def pacerOff : CounterBank :=
  (CounterBank.initial 60).writeMode 3 0

/-- Each of the first three turns ends at a deadline, the second where the clock comes round. -/
theorem IsNapping.elapsed
    {machine : Machine}
    (napping : machine.IsNapping pacerOff) :
    machine.elapsed 1 = 0x7FFFFFFF ∧
      machine.elapsed 2 = 0x100000000 ∧
      machine.elapsed 3 = 0x180000001 := by
  obtain ⟨once, takes1⟩ := napping.turn (by decide)
  obtain ⟨twice, takes2⟩ := once.turn (by decide)
  obtain ⟨-, takes3⟩ := twice.turn (by decide)
  have cycles1 : machine.stepCycles = 0x7FFFFFFF := takes1.trans (by decide +kernel)
  have cycles2 : (stateAfter step machine).stepCycles = 0x80000001 :=
    takes2.trans (by decide +kernel)
  have cycles3 :
      (stateAfter Action.step (stateAfter step machine)).stepCycles = 0x80000001 :=
    takes3.trans (by decide +kernel)
  simp only [Machine.elapsed, cycles1, cycles2, cycles3]
  decide

/--
By the second turn of the loop that is skipped, the clock has come round, and a run for 0x80000000
cycles takes a third one.
-/
theorem IsNapping.stopsLate
    {machine : Machine}
    (napping : machine.IsNapping pacerOff) :
    machine.FirstReaches 0x80000000 2 ∧
      ¬machine.StopsAfter 0x80000000 2 ∧
      machine.StopsAfter 0x80000000 3 := by
  have runs := napping.toIsIdling.runs
  have none : machine.elapsed 0 = 0 := rfl
  have cycles : (0x80000000 : UInt32).toNat = 0x80000000 := rfl
  obtain ⟨once, twice, thrice⟩ := napping.elapsed
  refine ⟨⟨by rw [twice]; decide, fun fewer isFewer => ?_⟩, ?_, ?_⟩
  · obtain rfl | rfl : fewer = 0 ∨ fewer = 1 := by omega
    · rw [none]
      decide
    · rw [once]
      decide
  · rw [stopsAfter_iff runs, twice, cycles]
    exact fun stops => absurd stops.1 (by decide)
  · rw [stopsAfter_iff runs, thrice, cycles]
    refine ⟨by decide, fun fewer isFewer => ?_⟩
    obtain rfl | rfl | rfl : fewer = 0 ∨ fewer = 1 ∨ fewer = 2 := by omega
    · rw [none]
      decide
    · rw [once]
      decide
    · rw [twice]
      decide

/-- The loop where idle time is skipped and the frame pacer is off. -/
def napping : Machine :=
  let machine := guest idleWords 0x80010000
  { machine with
    cpu := { machine.cpu with skipsIdleLoops := true }
    bus := { machine.bus with counters := pacerOff } }

/-- A run does not always stop after the first step by which its cycles have passed. -/
theorem runCycles_stopsLate_napping :
    napping.Runs ∧
      napping.FirstReaches 0x80000000 2 ∧
      ¬napping.StopsAfter 0x80000000 2 ∧
      ∃ due last,
        (steps 2).run napping = .ok () due ∧
          due.bus.clock = 0 ∧
          (runCycles 0x80000000).run napping = .ok () last ∧ last.bus.clock = 0x80000001 := by
  have naps : napping.IsNapping pacerOff := ⟨⟨rfl, rfl, rfl, rfl⟩, rfl, rfl⟩
  have runs := naps.toIsIdling.runs
  have start : napping.bus.clock = 0 := rfl
  obtain ⟨-, twice, thrice⟩ := naps.elapsed
  obtain ⟨reaches, tooEarly, stops⟩ := naps.stopsLate
  obtain ⟨due, ranTwice, clockThen⟩ := runs.clock_steps 2
  obtain ⟨last, ranThrice, clockLast⟩ := runs.clock_steps 3
  rw [start, twice] at clockThen
  rw [start, thrice] at clockLast
  refine ⟨runs, reaches, tooEarly, due, last, ranTwice, clockThen, ?_, clockLast⟩
  exact (stops.run_runCycles (by decide)).trans ranThrice

end Machine

end PsxPlayer
