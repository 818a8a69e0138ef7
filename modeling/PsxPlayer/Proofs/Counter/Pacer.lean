import Mathlib.Algebra.GroupWithZero.Nat
import PsxPlayer.Proofs.Clock
import PsxPlayer.Proofs.Counter.Deadline

namespace PsxPlayer

/-!
# A pacer that fails

The bank moves its audio position past the periods that are due before it asks its
pacer for them.  So every period is asked for once, whether or not the pacer produces
it, and what it does not produce is lost.  No interrupt is: what was due when an update
failed is raised by the next one.
-/

/-- A pacer with what it has been asked for, latest first, and whether it produced it. -/
structure Ledger (ρ : Type) where
  pacer : ρ
  requests : List (Nat × Bool)

namespace Ledger

variable {ρ : Type}

/-- The ledger with one more request, which the pacer answered. -/
def enter
    (ledger : Ledger ρ)
    (periods : Nat) :
    EStateM.Result Fault ρ Unit → EStateM.Result Fault (Ledger ρ) Unit
  | .ok _ pacer => .ok () ⟨pacer, (periods, true) :: ledger.requests⟩
  | .error fault pacer => .error fault ⟨pacer, (periods, false) :: ledger.requests⟩

instance [SamplePacer ρ] : SamplePacer (Ledger ρ) where
  synthesize periods := fun ledger =>
    ledger.enter periods ((SamplePacer.synthesize periods).run ledger.pacer)

/-- The periods that have been asked for. -/
def requested (ledger : Ledger ρ) : Nat :=
  (ledger.requests.map Prod.fst).sum

/-- The periods that the pacer has produced. -/
def produced (ledger : Ledger ρ) : Nat :=
  ((ledger.requests.filter fun request => request.2).map Prod.fst).sum

/-- The periods of the requests at which the pacer has failed. -/
def lost (ledger : Ledger ρ) : Nat :=
  ((ledger.requests.filter fun request => !request.2).map Prod.fst).sum

/-- Every period that was asked for was produced or lost. -/
theorem produced_add_lost (ledger : Ledger ρ) :
    ledger.produced + ledger.lost = ledger.requested := by
  rcases ledger with ⟨pacer, requests⟩
  induction requests with
  | nil => rfl
  | cons request rest inductionHypothesis =>
      rcases request with ⟨periods, _ | _⟩
      · simp [produced, lost, requested] at inductionHypothesis ⊢
        omega
      · simp [produced, lost, requested] at inductionHypothesis ⊢
        omega

end Ledger

/-- The state in which a program ends, with or without a fault. -/
def endState {σ α : Type} : EStateM.Result Fault σ α → σ
  | .ok _ state => state
  | .error _ state => state

namespace CounterBank

/-! ## Asking for audio -/

/-- Cycles for which audio has not been asked for. -/
def gap (bank : CounterBank) : UInt32 :=
  bank.cycle - bank.audioCycle

/-- The gap follows from the two clocks. -/
theorem gap_of_times
    {before after : CounterBank}
    (same : after.times = before.times) :
    after.gap = before.gap := by
  obtain ⟨sameCycle, sameAudio⟩ := Prod.ext_iff.mp same
  exact congrArg₂ (· - ·) sameCycle sameAudio

/-- The gap grows with the clock, and wraps as it does. -/
theorem toNat_gap_advance
    (bank : CounterBank)
    (cycles : UInt32) :
    (bank.advance cycles).gap.toNat = (bank.gap.toNat + cycles.toNat) % 2 ^ 32 := by
  have audio := bank.audioCycle.toNat_lt
  simp only [gap, advance, UInt32.toNat_sub, UInt32.toNat_add]
  omega

/-- Claiming the periods that are due leaves less than one. -/
theorem toNat_gap_claimPeriods (bank : CounterBank) :
    bank.claimPeriods.gap.toNat = bank.gap.toNat - samplePeriod * bank.periodsDue := by
  have audio := bank.audioCycle.toNat_lt
  have now := bank.cycle.toNat_lt
  have due : bank.periodsDue * samplePeriod ≤ bank.gap.toNat := Nat.div_mul_le_self _ _
  have limit := bank.gap.toNat_lt
  simp only [gap, claimPeriods, UInt32.toNat_sub, UInt32.toNat_add, UInt32.toNat_ofNat'] at *
  rw [Nat.mul_comm samplePeriod]
  omega

section

variable {ρ : Type} [SamplePacer ρ]

/-- The periods are claimed before it is known whether the pacer produces them. -/
theorem runAudio_fst
    (bank : CounterBank)
    (pacer : ρ) :
    (bank.runAudio pacer).1 = bank.claimPeriods := by
  unfold runAudio
  split
  · next none =>
      have same : bank.audioCycle + UInt32.ofNat 0 = bank.audioCycle := UInt32.add_zero _
      rw [claimPeriods, none, Nat.zero_mul, same]
  · rfl

/-- Asking for audio requests the periods that are due. -/
theorem requested_runAudio
    (bank : CounterBank)
    (ledger : Ledger ρ) :
    (endState (bank.runAudio ledger).2).requested = ledger.requested + bank.periodsDue := by
  unfold runAudio
  split
  · next none => rw [none]; rfl
  · change
      (endState
        (ledger.enter bank.periodsDue
          ((SamplePacer.synthesize bank.periodsDue).run ledger.pacer))).requested = _
    cases (SamplePacer.synthesize bank.periodsDue).run ledger.pacer with
    | ok value pacer => exact Nat.add_comm _ _
    | error fault pacer => exact Nat.add_comm _ _

/-- The bank when an update has rearmed the frame pacer and claimed its periods. -/
def framed (bank : CounterBank) : CounterBank :=
  (bank.rearm 3).claimPeriods

theorem times_framed (bank : CounterBank) : bank.framed.times = bank.claimPeriods.times :=
  (due_of_times (times_of_beyond (beyond_rearm bank 3))).2

section

variable (bank : CounterBank) (interrupts : InterruptController) {pacer : ρ}

/-- While the frame pacer is not due, an update only fires counters. -/
theorem update_of_not_due (notDue : ¬bank.frame.isDue bank.cycle = true) :
    bank.update interrupts pacer =
      ⟨(bank.fireCounters interrupts).1, (bank.fireCounters interrupts).2,
        .ok () pacer⟩ := by
  unfold update
  rw [if_neg notDue]

/-- Once it is due, an update asks for audio before it fires counters. -/
theorem update_of_due (due : bank.frame.isDue bank.cycle = true) :
    bank.update interrupts pacer =
      match ((bank.rearm 3).runAudio pacer).2 with
      | .ok () after =>
          ⟨(bank.framed.fireCounters (interrupts.request .vblank)).1,
            (bank.framed.fireCounters (interrupts.request .vblank)).2, .ok () after⟩
      | .error fault after =>
          ⟨bank.framed, interrupts.request .vblank, .error fault after⟩ := by
  have claimed := (bank.rearm 3).runAudio_fst pacer
  simp only [update, if_pos due, framed]
  generalize (bank.rearm 3).runAudio pacer = answer at claimed ⊢
  rcases answer with ⟨after, result⟩
  obtain rfl := claimed
  cases result with
  | ok value pacer => rfl
  | error fault pacer => rfl

end

/-- An update asks for the periods that are due, or for none. -/
theorem asked_update
    (bank : CounterBank)
    (interrupts : InterruptController)
    (ledger : Ledger ρ) :
    let served := bank.update interrupts ledger
    (served.bank.times = bank.times ∧ endState served.pacer = ledger) ∨
      served.bank.times = bank.claimPeriods.times ∧
        (endState served.pacer).requested = ledger.requested + bank.periodsDue := by
  by_cases due : bank.frame.isDue bank.cycle = true
  · have asked := (bank.rearm 3).requested_runAudio ledger
    rw [(due_of_times (times_of_beyond (beyond_rearm bank 3))).1] at asked
    right
    rw [bank.update_of_due interrupts due]
    generalize ((bank.rearm 3).runAudio ledger).2 = answer at asked ⊢
    cases answer with
    | ok value after =>
        exact ⟨(times_of_beyond (beyond_fireCounters _ _)).trans bank.times_framed, asked⟩
    | error fault after => exact ⟨bank.times_framed, asked⟩
  · left
    rw [bank.update_of_not_due interrupts due]
    exact ⟨times_of_beyond (beyond_fireCounters _ _), rfl⟩

end

/-! ## The account of a run -/

namespace Command

/-- Time passes, or what is due is served. -/
def IsService : Command → Prop
  | .advance _ | .runAudio | .update => True
  | _ => False

/-- Cycles by which a command advances the clock. -/
def cycles : Command → Nat
  | .advance cycles => cycles.toNat
  | _ => 0

end Command

/-- Cycles by which commands advance the clock. -/
def cyclesOf (commands : List Command) : Nat :=
  (commands.map Command.cycles).sum

namespace Course

variable {ρ : Type}

section

variable [SamplePacer ρ]

/-- Serving the counters in a course is serving them on the bank. -/
theorem obey_update (course : Course ρ) :
    let served := course.bank.update course.interrupts course.pacer
    (course.obey .update).bank = served.bank ∧
      (course.obey .update).interrupts = served.interrupts ∧
      (course.obey .update).pacer = endState served.pacer := by
  simp only [obey]
  generalize course.bank.update course.interrupts course.pacer = served
  rcases served with ⟨bank, interrupts, value | fault⟩
  · exact ⟨rfl, rfl, rfl⟩
  · exact ⟨rfl, rfl, rfl⟩

/-- Asking for audio in a course claims the periods, whether the pacer fails or not. -/
theorem obey_runAudio (course : Course ρ) :
    (course.obey .runAudio).bank = course.bank.claimPeriods ∧
      (course.obey .runAudio).interrupts = course.interrupts ∧
      (course.obey .runAudio).pacer = endState (course.bank.runAudio course.pacer).2 := by
  have claimed := course.bank.runAudio_fst course.pacer
  simp only [obey]
  generalize course.bank.runAudio course.pacer = answer at claimed ⊢
  rcases answer with ⟨bank, value | fault⟩
  · exact ⟨claimed, rfl, rfl⟩
  · exact ⟨claimed, rfl, rfl⟩

end

/-- Cycles of a total for which audio has not been asked for. -/
def backlog
    (course : Course (Ledger ρ))
    (total : Nat) :
    Nat :=
  total - samplePeriod * course.pacer.requested

/-- All cycles of a total are asked for or outstanding. -/
structure Accounts
    (total : Nat)
    (course : Course (Ledger ρ)) :
    Prop where
  asked_le : samplePeriod * course.pacer.requested ≤ total
  gap : course.bank.gap.toNat = course.backlog total % 2 ^ 32

variable {course after : Course (Ledger ρ)} {total : Nat}

/-- Before the first request everything is in the gap. -/
theorem accounts_start (unasked : course.pacer.requests = []) :
    Accounts course.bank.gap.toNat course := by
  have none : course.pacer.requested = 0 := by rw [Ledger.requested, unasked]; rfl
  refine ⟨by rw [none]; exact Nat.zero_le _, ?_⟩
  rw [backlog, none, Nat.mul_zero, Nat.sub_zero, Nat.mod_eq_of_lt course.bank.gap.toNat_lt]

namespace Accounts

/-- Once the periods that are due have been asked for, all whole periods have been. -/
theorem claim
    (accounts : Accounts total course)
    (timely : course.backlog total < 2 ^ 32)
    (sameTimes : after.bank.times = course.bank.claimPeriods.times)
    (requested : after.pacer.requested = course.pacer.requested + course.bank.periodsDue) :
    Accounts total after ∧ after.pacer.requested = total / samplePeriod := by
  obtain ⟨asked, gap⟩ := accounts
  obtain ⟨rest, rfl⟩ := Nat.exists_eq_add_of_le asked
  have positive : 0 < samplePeriod := by decide
  have outstanding :
      course.backlog (samplePeriod * course.pacer.requested + rest) = rest :=
    Nat.add_sub_cancel_left _ _
  rw [outstanding] at timely gap
  rw [Nat.mod_eq_of_lt timely] at gap
  have due : course.bank.periodsDue = rest / samplePeriod :=
    congrArg (· / samplePeriod) gap
  have claimed := course.bank.toNat_gap_claimPeriods
  rw [← gap_of_times sameTimes, gap, due] at claimed
  have few : samplePeriod * (rest / samplePeriod) ≤ rest := Nat.mul_div_le _ _
  have left :
      after.backlog (samplePeriod * course.pacer.requested + rest) =
        rest - samplePeriod * (rest / samplePeriod) := by
    rw [backlog, requested, due, Nat.mul_add, Nat.add_sub_add_left]
  refine ⟨⟨?_, ?_⟩, ?_⟩
  · rw [requested, due, Nat.mul_add]
    exact Nat.add_le_add_left few _
  · rw [claimed, left, Nat.mod_eq_of_lt (Nat.lt_of_le_of_lt (Nat.sub_le _ _) timely)]
  · rw [requested, due, Nat.mul_add_div positive]

end Accounts

variable [SamplePacer ρ]

/-- The cycles for which audio has not been asked for never fill the clock. -/
def Timely : Nat → Course (Ledger ρ) → List Command → Prop
  | total, course, [] => course.backlog total < 2 ^ 32
  | total, course, command :: rest =>
      course.backlog total < 2 ^ 32 ∧
        Timely (total + command.cycles) (course.obey command) rest

namespace Accounts

/-- A service that comes in time keeps the account. -/
theorem obey
    (accounts : Accounts total course)
    {command : Command}
    (isService : command.IsService)
    (timely : course.backlog total < 2 ^ 32) :
    Accounts (total + command.cycles) (course.obey command) := by
  cases command with
  | advance cycles =>
      refine ⟨Nat.le_add_right_of_le accounts.asked_le, ?_⟩
      have moved := course.bank.toNat_gap_advance cycles
      have asked := accounts.asked_le
      rw [accounts.gap, Nat.mod_add_mod] at moved
      refine moved.trans ?_
      change _ = (total + cycles.toNat - samplePeriod * course.pacer.requested) % 2 ^ 32
      rw [backlog, Nat.sub_add_comm asked]
  | runAudio =>
      obtain ⟨bank, -, pacer⟩ := course.obey_runAudio
      refine (accounts.claim timely (congrArg times bank) ?_).1
      rw [pacer, requested_runAudio]
  | update =>
      obtain ⟨bank, -, pacer⟩ := course.obey_update
      rcases course.bank.asked_update course.interrupts course.pacer with
        ⟨sameTimes, samePacer⟩ | ⟨sameTimes, requested⟩
      · refine ⟨?_, ?_⟩
        · rw [pacer, samePacer]
          exact accounts.asked_le
        · rw [backlog, pacer, samePacer, bank, gap_of_times sameTimes]
          exact accounts.gap
      · refine (accounts.claim timely ?_ ?_).1
        · rw [bank, sameTimes]
        · rw [pacer, requested]
  | _ => cases isService

/-- Services that come in time keep the account. -/
theorem obeyAll
    {commands : List Command}
    (accounts : Accounts total course)
    (services : ∀ command ∈ commands, command.IsService)
    (timely : Timely total course commands) :
    Accounts (total + cyclesOf commands) (course.obeyAll commands) ∧
      (course.obeyAll commands).backlog (total + cyclesOf commands) < 2 ^ 32 := by
  induction commands generalizing course total with
  | nil => exact ⟨accounts, timely⟩
  | cons command rest inductionHypothesis =>
      obtain ⟨now, later⟩ := timely
      have next := accounts.obey (services command List.mem_cons_self) now
      have restServices : ∀ command ∈ rest, command.IsService :=
        fun other member => services other (List.mem_cons_of_mem _ member)
      have result := inductionHypothesis next restServices later
      rwa [Nat.add_assoc] at result

end Accounts

end Course

end CounterBank

namespace InterruptController

/-- The lines that are raised, whether they are enabled or not. -/
def raised (controller : InterruptController) : Lines :=
  ⟨controller.status⟩

/-- A line that is requested has been raised. -/
theorem contains_raised_request
    (controller : InterruptController)
    (lines : Lines) :
    (controller.request lines).raised.contains lines = true := by
  simp only [Lines.contains, raised, request, beq_iff_eq]
  apply UInt16.toBitVec_inj.mp
  ext bit
  simp +contextual

/-- A request leaves the lines raised that were. -/
theorem contains_raised_request_of_raised
    {controller : InterruptController}
    {part : Lines}
    (isRaised : controller.raised.contains part = true)
    (lines : Lines) :
    (controller.request lines).raised.contains part = true := by
  simp only [Lines.contains, raised, request, beq_iff_eq] at isRaised ⊢
  rw [UInt16.or_comm, ← isRaised]
  apply UInt16.toBitVec_inj.mp
  ext bit
  simp +contextual

end InterruptController

namespace CounterBank

/-! ## Lines that wait for an update -/

/--
The line of a counter is raised, or the counter is due and stays so for some more
cycles.
-/
def Pends
    (index : Nat)
    (line : Lines)
    (left : Nat)
    (state : CounterBank × InterruptController) :
    Prop :=
  let counter := state.1.get index
  state.2.raised.contains line = true ∨
    counter.line = line ∧
      counter.isDue state.1.cycle = true ∧
      (counter.elapsed state.1.cycle).toNat + left < 2 ^ 32

/-- Setting one counter leaves the others. -/
theorem get_set_of_ne
    (bank : CounterBank)
    {index other : Nat}
    (counter : Counter)
    (hardware : index < 3)
    (differs : other ≠ index) :
    (bank.set other counter).get index = bank.get index := by
  match index, hardware with
  | 0, _ | 1, _ | 2, _ =>
      match other, differs with
      | 0, _ | 1, _ | 2, _ | other + 3, _ => first | rfl | contradiction

/-- Firing a counter leaves the lines raised that were. -/
theorem raised_fireIfDue
    {state : CounterBank × InterruptController}
    {line : Lines}
    (isRaised : state.2.raised.contains line = true)
    (index : Nat) :
    (fireIfDue state index).2.raised.contains line = true := by
  unfold fireIfDue
  simp only
  split
  · exact InterruptController.contains_raised_request_of_raised isRaised _
  · exact isRaised

/-- A line once raised stays so while counters fire. -/
theorem raised_foldl_fireIfDue
    {state : CounterBank × InterruptController}
    {line : Lines}
    (isRaised : state.2.raised.contains line = true)
    (indices : List Nat) :
    (indices.foldl fireIfDue state).2.raised.contains line = true := by
  induction indices generalizing state with
  | nil => exact isRaised
  | cons index rest inductionHypothesis =>
      exact inductionHypothesis (raised_fireIfDue isRaised index)

namespace Pends

variable {index : Nat} {line : Lines} {left : Nat}
variable {before after : CounterBank × InterruptController}

/-- Only the counter, the clock and the lines matter. -/
theorem of_same
    (pends : Pends index line left before)
    (sameCounter : after.1.get index = before.1.get index)
    (sameCycle : after.1.cycle = before.1.cycle)
    (kept :
      before.2.raised.contains line = true →
      after.2.raised.contains line = true) :
    Pends index line left after := by
  rcases pends with isRaised | waits
  · exact .inl (kept isRaised)
  · right
    rw [sameCounter, sameCycle]
    exact waits

/-- Time that passes does not take the counter out of being due. -/
theorem advance
    {bank : CounterBank}
    {interrupts : InterruptController}
    {cycles : UInt32}
    (pends : Pends index line (cycles.toNat + left) (bank, interrupts)) :
    Pends index line left (bank.advance cycles, interrupts) := by
  rcases pends with isRaised | ⟨sameLine, due, short⟩
  · exact .inl isRaised
  · right
    have sameCounter : (bank.advance cycles).get index = bank.get index := by
      match index with
      | 0 | 1 | 2 | index + 3 => rfl
    have passed := (bank.get index).toNat_elapsed_add bank.cycle cycles.toNat
    simp only [sameCounter] at due short ⊢
    generalize bank.get index = counter at *
    rw [UInt32.ofNat_toNat, Nat.mod_eq_of_lt (by omega)] at passed
    refine ⟨sameLine, ?_, ?_⟩
    · simp only [Counter.isDue, ge_iff_le, decide_eq_true_eq, UInt32.le_iff_toNat_le]
        at due ⊢
      change _ ≤ (counter.elapsed (bank.cycle + cycles)).toNat
      omega
    · change (counter.elapsed (bank.cycle + cycles)).toNat + left < 2 ^ 32
      omega

/-- Firing the counter raises its line. -/
theorem fireIfDue_self (pends : Pends index line left before) :
    (fireIfDue before index).2.raised.contains line = true := by
  rcases pends with isRaised | ⟨rfl, due, -⟩
  · exact raised_fireIfDue isRaised index
  · simp only [CounterBank.fireIfDue, if_pos due]
    exact InterruptController.contains_raised_request _ _

/-- Another counter that fires leaves this one pending. -/
theorem fireIfDue_of_ne
    (pends : Pends index line left before)
    (hardware : index < 3)
    {other : Nat}
    (differs : other ≠ index) :
    Pends index line left (fireIfDue before other) := by
  refine pends.of_same ?_ (cycle_of_beyond (beyond_fireIfDue _ _)) (raised_fireIfDue · other)
  unfold CounterBank.fireIfDue
  simp only
  split
  · exact get_set_of_ne _ _ hardware differs
  · rfl

/-- Firing counters one after the other raises the line once its turn has come. -/
theorem foldl_fireIfDue
    {indices : List Nat}
    (pends : Pends index line left before)
    (hardware : index < 3)
    (served : index ∈ indices) :
    (indices.foldl fireIfDue before).2.raised.contains line = true := by
  induction indices generalizing before with
  | nil => cases served
  | cons first rest inductionHypothesis =>
      rw [List.foldl_cons]
      by_cases same : first = index
      -- From its own turn on the counter may be armed anew, but its line stays raised.
      · rw [same]
        exact raised_foldl_fireIfDue pends.fireIfDue_self rest
      · exact inductionHypothesis (pends.fireIfDue_of_ne hardware same)
          (List.mem_of_ne_of_mem (Ne.symm same) served)

/-- Once its time is up a pending counter raises its line. -/
theorem fireCounters
    {bank : CounterBank}
    {interrupts : InterruptController}
    (pends : Pends index line left (bank, interrupts))
    (hardware : index < 3) :
    (bank.fireCounters interrupts).2.raised.contains line = true := by
  have served : index ∈ [0, 1, 2] := List.mem_range.mpr hardware
  have fired := pends.foldl_fireIfDue hardware served
  unfold CounterBank.fireCounters
  generalize [0, 1, 2].foldl CounterBank.fireIfDue (bank, interrupts) = state at fired ⊢
  exact fired

end Pends

/-- Claiming periods moves neither the counters nor the clock. -/
theorem get_claimPeriods
    (bank : CounterBank)
    (index : Nat) :
    bank.claimPeriods.get index = bank.get index := by
  match index with
  | 0 | 1 | 2 | index + 3 => rfl

/-- An update that asks for audio leaves the hardware counters to be fired. -/
theorem get_framed
    (bank : CounterBank)
    {index : Nat}
    (hardware : index < 3) :
    bank.framed.get index = bank.get index :=
  (get_claimPeriods _ _).trans (get_set_of_ne _ _ hardware (Nat.ne_of_gt hardware))

theorem cycle_framed (bank : CounterBank) : bank.framed.cycle = bank.cycle :=
  congrArg Prod.fst bank.times_framed

section

variable {ρ : Type} [SamplePacer ρ]

/-- An update at which the pacer fails has asked for audio and fires no counter. -/
theorem update_of_error
    {bank : CounterBank}
    {interrupts : InterruptController}
    {pacer after : ρ}
    {fault : Fault}
    (fails : (bank.update interrupts pacer).pacer = .error fault after) :
    bank.update interrupts pacer =
      ⟨bank.framed, interrupts.request .vblank, .error fault after⟩ := by
  by_cases due : bank.frame.isDue bank.cycle = true
  · rw [bank.update_of_due interrupts due] at fails ⊢
    generalize ((bank.rearm 3).runAudio pacer).2 = answer at fails ⊢
    cases answer with
    | ok value after => cases fails
    | error fault after =>
        cases fails
        rfl
  · rw [bank.update_of_not_due interrupts due] at fails
    cases fails

namespace Pends

variable {index left : Nat} {line : Lines}
variable {bank : CounterBank} {interrupts : InterruptController}

/-- An update at which the pacer does not fail fires every counter that is due. -/
theorem raised_update
    {pacer after : ρ}
    (pends : Pends index line left (bank, interrupts))
    (hardware : index < 3)
    (succeeds : (bank.update interrupts pacer).pacer = .ok () after) :
    (bank.update interrupts pacer).interrupts.raised.contains line = true := by
  by_cases due : bank.frame.isDue bank.cycle = true
  · have framed : Pends index line left (bank.framed, interrupts.request .vblank) :=
      pends.of_same (bank.get_framed hardware) bank.cycle_framed
        (InterruptController.contains_raised_request_of_raised · _)
    rw [bank.update_of_due interrupts due] at succeeds ⊢
    generalize ((bank.rearm 3).runAudio pacer).2 = answer at succeeds ⊢
    cases answer with
    | ok value after =>
        simp only
        exact framed.fireCounters hardware
    | error fault after => cases succeeds
  · rw [bank.update_of_not_due interrupts due]
    simp only
    exact pends.fireCounters hardware

/-- An update at which the pacer fails lets it wait on. -/
theorem update
    (pends : Pends index line left (bank, interrupts))
    (hardware : index < 3)
    (pacer : ρ) :
    let served := bank.update interrupts pacer
    Pends index line left (served.bank, served.interrupts) := by
  cases answered : (bank.update interrupts pacer).pacer with
  | ok value after => exact .inl (pends.raised_update hardware answered)
  | error fault after =>
      rw [update_of_error answered]
      exact pends.of_same (bank.get_framed hardware) bank.cycle_framed
        (InterruptController.contains_raised_request_of_raised · _)

variable {course : Course ρ}

/-- What waits for an update waits on through a command, or has been served. -/
theorem obey
    {command : Command}
    (pends : Pends index line (command.cycles + left) (course.bank, course.interrupts))
    (hardware : index < 3)
    (isService : command.IsService) :
    Pends index line left ((course.obey command).bank, (course.obey command).interrupts) := by
  cases command with
  | advance cycles => exact pends.advance
  | runAudio =>
      obtain ⟨bank, interrupts, -⟩ := course.obey_runAudio
      rw [bank, interrupts]
      change Pends index line (0 + left) _ at pends
      rw [Nat.zero_add] at pends
      exact pends.of_same (get_claimPeriods _ _) rfl id
  | update =>
      obtain ⟨bank, interrupts, -⟩ := course.obey_update
      rw [bank, interrupts]
      change Pends index line (0 + left) _ at pends
      rw [Nat.zero_add] at pends
      exact pends.update hardware course.pacer
  | _ => cases isService

/-- Up to its deadline a counter pends, and then its line is raised. -/
theorem obeyAll
    {commands : List Command}
    (pends : Pends index line (cyclesOf commands) (course.bank, course.interrupts))
    (hardware : index < 3)
    (services : ∀ command ∈ commands, command.IsService) :
    Pends index line 0
      ((course.obeyAll commands).bank, (course.obeyAll commands).interrupts) := by
  induction commands generalizing course with
  | nil => exact pends
  | cons command rest inductionHypothesis =>
      have restServices : ∀ command ∈ rest, command.IsService :=
        fun other member => services other (List.mem_cons_of_mem _ member)
      exact inductionHypothesis (pends.obey hardware (services command List.mem_cons_self))
        restServices

end Pends

namespace Course

/-- Whether the pacer fails if what is due is served now. -/
def UpdateFails (course : Course ρ) : Prop :=
  ∃ fault after,
    (course.bank.update course.interrupts course.pacer).pacer = .error fault after

/-- An update at which the pacer fails has raised the line of the frame pacer. -/
theorem UpdateFails.raised
    {course : Course ρ}
    (fails : course.UpdateFails) :
    (course.obey .update).interrupts.raised.contains .vblank = true := by
  obtain ⟨fault, after, failed⟩ := fails
  rw [course.obey_update.2.1, update_of_error failed]
  exact InterruptController.contains_raised_request _ _

/-- An update at which the pacer does not fail serves what waits. -/
theorem raised_of_not_updateFails
    {course : Course ρ}
    {index left : Nat}
    {line : Lines}
    (pends : Pends index line left (course.bank, course.interrupts))
    (hardware : index < 3)
    (succeeds : ¬course.UpdateFails) :
    (course.obey .update).interrupts.raised.contains line = true := by
  rw [course.obey_update.2.1]
  cases answered : (course.bank.update course.interrupts course.pacer).pacer with
  | ok value after => exact pends.raised_update hardware answered
  | error fault after => exact absurd ⟨fault, after, answered⟩ succeeds

theorem obeyAll_append
    (course : Course ρ)
    (earlier later : List Command) :
    course.obeyAll (earlier ++ later) = (course.obeyAll earlier).obeyAll later :=
  List.foldl_append

/--
A bank whose pacer fails at times asks it for every whole sample period once, so the
periods of the requests at which it failed are lost: they and those produced make up
the time that has passed.  For this the cycles for which audio has not been asked for
must fit the clock.  The lines of an update at which the pacer fails are not lost: the
frame pacer's is raised there, and that of a hardware counter which was due is raised
by the next update at which the pacer does not fail, unless the clock has come round
to where the counter was armed.
-/
theorem failingPacer_losesPeriods
    (course : Course (Ledger ρ))
    (commands : List Command)
    (unasked : course.pacer.requests = [])
    (services : ∀ command ∈ commands, command.IsService) :
    (Timely course.bank.gap.toNat course commands →
        let ledger := ((course.obeyAll commands).obey .runAudio).pacer
        ledger.produced + ledger.lost =
          (course.bank.gap.toNat + cyclesOf commands) / samplePeriod) ∧
      ∀ earlier between index,
        commands = earlier ++ .update :: between →
        (course.obeyAll earlier).UpdateFails →
        ¬(course.obeyAll commands).UpdateFails →
        let failed := (course.obeyAll earlier).bank
        let counter := failed.get index
        let lines := ((course.obeyAll commands).obey .update).interrupts.raised
        lines.contains .vblank = true ∧
          (index < 3 →
            counter.isDue failed.cycle = true →
            (counter.elapsed failed.cycle).toNat + cyclesOf between < 2 ^ 32 →
            lines.contains counter.line = true) := by
  refine ⟨?_, ?_⟩
  · intro timely
    obtain ⟨accounts, short⟩ := (accounts_start unasked).obeyAll services timely
    obtain ⟨bank, -, pacer⟩ := (course.obeyAll commands).obey_runAudio
    simp only [Ledger.produced_add_lost]
    refine (accounts.claim short (congrArg times bank) ?_).2
    rw [pacer, requested_runAudio]
  · rintro earlier between index rfl fails succeeds
    have serves : ∀ command ∈ Command.update :: between, command.IsService :=
      fun command member => services command (List.mem_append_right _ member)
    have rest : ∀ command ∈ between, command.IsService :=
      fun command member => serves command (List.mem_cons_of_mem _ member)
    rw [obeyAll_append] at succeeds ⊢
    refine ⟨?_, ?_⟩
    · have waits :
          Pends 0 .vblank (cyclesOf between)
            (((course.obeyAll earlier).obey .update).bank,
              ((course.obeyAll earlier).obey .update).interrupts) :=
        .inl fails.raised
      exact raised_of_not_updateFails (waits.obeyAll (by decide) rest) (by decide) succeeds
    · intro hardware due short
      have waits :
          Pends index ((course.obeyAll earlier).bank.get index).line
            (cyclesOf (.update :: between))
            ((course.obeyAll earlier).bank, (course.obeyAll earlier).interrupts) := by
        refine .inr ⟨rfl, due, ?_⟩
        simpa [cyclesOf, Command.cycles] using short
      exact raised_of_not_updateFails (waits.obeyAll hardware serves) hardware succeeds

end Course

end

/-- A pacer that fails a number of times. -/
structure Faltering where
  failures : Nat

instance : SamplePacer Faltering where
  synthesize _ := fun pacer =>
    match pacer.failures with
    | 0 => .ok () pacer
    | failures + 1 => .error .workerGone ⟨failures⟩

namespace Course

/-- A run with a pacer that fails once, and counter 0 about to fire after 50 cycles. -/
def faltering : Course (Ledger Faltering) :=
  (start 60 .initial ⟨⟨1⟩, []⟩).obeyAll
    [.writeTarget 0 100, .writeMode 0 Counter.irqOnTarget]

/-- After the first frame the pacer fails; the update after it raises both lines. -/
theorem failingPacer_losesPeriods_afterFrame :
    let commands : List Command := [.advance 282240, .update]
    let ledger := ((faltering.obeyAll commands).obey .runAudio).pacer
    let lines := ((faltering.obeyAll commands).obey .update).interrupts.raised
    ledger.produced + ledger.lost = 735 ∧
      lines.contains .vblank = true ∧
      lines.contains .timer0 = true := by
  have services :
      ∀ command ∈ ([.advance 282240, .update] : List Command), command.IsService := by
    simp [Command.IsService]
  have succeeds : ¬(faltering.obeyAll [.advance 282240, .update]).UpdateFails := by
    rintro ⟨fault, after, failed⟩
    cases failed
  obtain ⟨accounts, served⟩ := failingPacer_losesPeriods faltering _ rfl services
  obtain ⟨vblank, timer⟩ :=
    served [.advance 282240] [] 0 rfl ⟨.workerGone, _, rfl⟩ succeeds
  refine ⟨accounts ?_, vblank, timer (by decide) (by decide) (by decide)⟩
  simp only [Timely]
  decide

/-- The two periods at which the pacer failed are not among those it produces later. -/
theorem faltering_losesTwoPeriods :
    let commands : List Command := [.advance 768, .runAudio, .advance 384, .runAudio]
    let ledger := (faltering.obeyAll commands).pacer
    ledger.requests = [(1, true), (2, false)] ∧
      ledger.produced ≠ (faltering.bank.gap.toNat + cyclesOf commands) / samplePeriod := by
  decide

end Course

end CounterBank

end PsxPlayer
