import Mathlib.Algebra.GroupWithZero.Nat
import PsxPlayer.Sound.Rendezvous

namespace PsxPlayer

/-!
# What a move of the rendezvous can do

Whatever is tried, at most one process takes a step.  The handle never touches the
worker's state, and the worker touches it only while it serves a request.  Each step
of a process uses up some of what is left to do for the call under way.
-/

namespace Rendezvous

variable {σ : Type}

/-- Requests bear the numbers from zero on. -/
def Numbered (sent : List SentRequest) : Prop :=
  sent.map SentRequest.number = List.range sent.length

theorem Numbered.append
    {sent : List SentRequest}
    (numbered : Numbered sent)
    (request : SoundRequest) :
    Numbered (sent ++ [⟨sent.length, request⟩]) := by
  have counted : sent.map SentRequest.number = List.range sent.length := numbered
  simp [Numbered, counted, List.range_succ]

/-- No answer among the deeds lets a request pass. -/
def Refuses (deeds : List LinkDeed) : Prop :=
  ∀ message answer,
    .answered (.request message) answer ∈ deeds → answer = .error .workerGone

theorem refuses_nil : Refuses [] :=
  fun _ _ member => nomatch member

theorem refuses_answered {message : SoundRequest} :
    Refuses [.answered (.request message) (.error .workerGone)] := by
  intro other answer member
  cases List.mem_singleton.mp member
  rfl

theorem refuses_closed {answer : Except Fault Unit} :
    Refuses [.answered .close answer] := by
  intro message other member
  cases List.mem_singleton.mp member

/-- What the handle can change: it never serves, and without acknowledgment it refuses. -/
structure HandleKeeps (state next : Rendezvous σ) : Prop where
  worker : next.worker = state.worker
  served : next.served = state.served
  numbered : Numbered state.issued → Numbered next.issued
  acknowledged : state.acknowledged <+: next.acknowledged
  refuses :
    ∃ deeds,
      next.deeds = state.deeds ++ deeds ∧
        (state.acknowledgments.waiting = [] → Refuses deeds)

/-- Concluding a call in vain refuses it, or leaves it to the end of the worker. -/
theorem handleKeeps_conclude_false
    (state : Rendezvous σ)
    (call : LinkCall) :
    HandleKeeps state (state.conclude call false) := by
  cases call with
  | request message =>
      exact ⟨rfl, rfl, id, List.prefix_refl _, _, rfl, fun _ => refuses_answered⟩
  | close =>
      exact
        ⟨rfl, rfl, id, List.prefix_refl _, [], by simp [conclude], fun _ => refuses_nil⟩

theorem handleKeeps_enter
    (state : Rendezvous σ)
    (call : LinkCall) :
    HandleKeeps state (state.enter call) := by
  unfold enter
  split
  · exact ⟨rfl, rfl, id, List.prefix_refl _, [], by simp, fun _ => refuses_nil⟩
  · split
    · exact ⟨rfl, rfl, id, List.prefix_refl _, _, rfl, fun _ => refuses_answered⟩
    · exact ⟨rfl, rfl, id, List.prefix_refl _, _, rfl, fun _ => refuses_closed⟩

/-- The ways in which the handle goes on. -/
inductive HandleStep (state : Rendezvous σ) : Rendezvous σ → Prop
  | send
      {call : LinkCall}
      {requests : Channel SentRequest}
      (handle : state.handle = .sending call)
      (accepted :
        state.requests.send ⟨state.issued.length, call.message⟩ = .accepted requests) :
      HandleStep state
        { state with
          handle := .waiting call state.issued.length
          requests := requests
          issued := state.issued ++ [⟨state.issued.length, call.message⟩] }
  | refuse
      {call : LinkCall}
      (handle :
        state.handle = .sending call ∨ ∃ number, state.handle = .waiting call number) :
      HandleStep state (state.conclude call false)
  | receive
      {call : LinkCall}
      {awaited number : Nat}
      {rest : List Nat}
      (handle : state.handle = .waiting call awaited)
      (waiting : state.acknowledgments.waiting = number :: rest) :
      HandleStep state
        (conclude
          { state with
            acknowledgments := { state.acknowledgments with waiting := rest }
            acknowledged := state.acknowledged ++ [⟨number, call.message⟩] }
          call true)
  | join
      {delivered : Bool}
      (handle : state.handle = .joining delivered) :
      HandleStep state
        (state.answer .close (if delivered then .ok () else .error .workerGone))

theorem handleStep_of_advance
    {state next : Rendezvous σ}
    (advanced : state.advanceHandle? = some next) :
    HandleStep state next := by
  unfold advanceHandle? at advanced
  split at advanced
  · nomatch advanced
  · next call sending =>
      simp only at advanced
      split at advanced
      · next requests accepted =>
          cases advanced
          exact .send sending accepted
      · nomatch advanced
      · cases advanced
        exact .refuse (.inl sending)
  · next call awaited waiting =>
      cases found : state.acknowledgments.waiting with
      | nil =>
          simp only [Channel.receive?, found] at advanced
          split at advanced
          · cases advanced
            exact .refuse (.inr ⟨awaited, waiting⟩)
          · nomatch advanced
      | cons number rest =>
          simp only [Channel.receive?, found] at advanced
          cases advanced
          exact .receive waiting found
  · next delivered joining =>
      split at advanced
      · cases advanced
        exact .join joining
      · nomatch advanced

theorem HandleStep.keeps
    {state next : Rendezvous σ}
    (step : HandleStep state next) :
    HandleKeeps state next := by
  cases step with
  | send handle accepted =>
      exact
        ⟨rfl, rfl, fun numbered => numbered.append _, List.prefix_refl _, [], by simp,
          fun _ => refuses_nil⟩
  | refuse handle => exact handleKeeps_conclude_false state _
  | @receive call awaited number rest handle waiting =>
      have notEmpty
          (isEmpty : state.acknowledgments.waiting = [])
          (deeds : List LinkDeed) :
          Refuses deeds :=
        nomatch waiting.symm.trans isEmpty
      cases call with
      | request message =>
          exact ⟨rfl, rfl, id, List.prefix_append _ _, _, rfl, (notEmpty · _)⟩
      | close =>
          exact
            ⟨rfl, rfl, id, List.prefix_append _ _, [], by simp [conclude], (notEmpty · _)⟩
  | join handle =>
      exact ⟨rfl, rfl, id, List.prefix_refl _, _, rfl, fun _ => refuses_closed⟩

end Rendezvous

/-!
A call returns in every interleaving: each step of a process uses up some of what is
left to do for it.
-/

/-- More than the steps of the worker for a request. -/
def SentRequest.cost (sent : SentRequest) : Nat :=
  sent.request.frames + 5

/-- Steps of the handle, and of the worker for a request not yet sent, at most. -/
def HandleControl.rank : HandleControl → Nat
  | .idle => 0
  | .sending call => call.message.frames + 8
  | .waiting _ _ => 2
  | .joining _ => 1

/-- Steps of the worker at most before it waits for a request or has ended. -/
def WorkerControl.rank : WorkerControl → Nat
  | .receiving => 0
  | .serving _ left => left + 4
  | .acknowledging _ => 3
  | .leaving => 2
  | .deaf => 1
  | .ended => 0

namespace Rendezvous

variable {σ : Type}

/-- Steps of the two processes at most before both have to wait. -/
def rank (state : Rendezvous σ) : Nat :=
  state.handle.rank + (state.requests.waiting.map SentRequest.cost).sum +
    state.control.rank

theorem rank_conclude_lt
    {state : Rendezvous σ}
    (busy : 2 ≤ state.handle.rank)
    (call : LinkCall)
    (delivered : Bool) :
    (state.conclude call delivered).rank < state.rank := by
  have brief : (state.conclude call delivered).handle.rank ≤ 1 := by
    cases call with
    | request message => exact Nat.zero_le 1
    | close => exact Nat.le_refl 1
  have same :
      (state.conclude call delivered).requests = state.requests ∧
        (state.conclude call delivered).control = state.control := by
    cases call <;> exact ⟨rfl, rfl⟩
  unfold rank
  rw [same.1, same.2]
  omega

theorem HandleStep.rank_lt
    {state next : Rendezvous σ}
    (step : HandleStep state next) :
    next.rank < state.rank := by
  cases step with
  | @send call requests handle accepted =>
      have filled :
          requests.waiting =
            state.requests.waiting ++ [⟨state.issued.length, call.message⟩] := by
        unfold Channel.send at accepted
        split at accepted
        · nomatch accepted
        · split at accepted <;> cases accepted
          rfl
      simp only [rank, handle, filled, HandleControl.rank, SentRequest.cost,
        List.map_append, List.sum_append, List.map_cons, List.map_nil, List.sum_cons,
        List.sum_nil]
      omega
  | @refuse call handle =>
      apply rank_conclude_lt
      rcases handle with sending | ⟨number, waiting⟩
      · rw [sending]
        exact Nat.le_add_left 2 _
      · rw [waiting]
        exact Nat.le_refl _
  | @receive call awaited number rest handle waiting =>
      refine Nat.lt_of_lt_of_eq (rank_conclude_lt ?_ call true) rfl
      exact Nat.le_of_eq (congrArg HandleControl.rank handle).symm
  | join handle =>
      simp only [rank, handle, Rendezvous.answer, HandleControl.rank]
      omega

section

variable [SampleSink σ]

/-- What the worker can change: it touches nothing unless it serves a request. -/
structure WorkerKeeps (state next : Rendezvous σ) : Prop where
  worker : (∀ sent left, state.control ≠ .serving sent left) → next.worker = state.worker
  served : (∀ sent left, state.control ≠ .serving sent left) → next.served = state.served
  handle : next.handle = state.handle
  issued : next.issued = state.issued
  acknowledged : next.acknowledged = state.acknowledged
  deeds : next.deeds = state.deeds
  rank : next.rank < state.rank

theorem workerKeeps_advance
    {state next : Rendezvous σ}
    (advanced : state.advanceWorker? = some next) :
    WorkerKeeps state next := by
  unfold advanceWorker? at advanced
  split at advanced
  · next receiving =>
      cases found : state.requests.waiting with
      | nil =>
          simp only [Channel.receive?, found] at advanced
          nomatch advanced
      | cons sent rest =>
          simp only [Channel.receive?, found] at advanced
          cases advanced
          refine ⟨fun _ => rfl, fun _ => rfl, rfl, rfl, rfl, rfl, ?_⟩
          simp only [rank, found, receiving, WorkerControl.rank, SentRequest.cost,
            List.map_cons, List.sum_cons]
          omega
  · next sent left serving =>
      cases advanced
      have serves (idle : ∀ sent left, state.control ≠ .serving sent left) : False :=
        idle sent _ serving
      refine ⟨(serves · |>.elim), (serves · |>.elim), rfl, rfl, rfl, rfl, ?_⟩
      simp only [rank, serving, WorkerControl.rank]
      omega
  · next sent serving =>
      cases advanced
      have serves (idle : ∀ sent left, state.control ≠ .serving sent left) : False :=
        idle sent _ serving
      refine ⟨(serves · |>.elim), (serves · |>.elim), rfl, rfl, rfl, rfl, ?_⟩
      simp only [rank, serving, WorkerControl.rank]
      omega
  · next sent acknowledging =>
      split at advanced
      · cases advanced
        refine ⟨fun _ => rfl, fun _ => rfl, rfl, rfl, rfl, rfl, ?_⟩
        simp only [rank, acknowledging]
        split <;> simp only [WorkerControl.rank] <;> omega
      · nomatch advanced
      · cases advanced
        refine ⟨fun _ => rfl, fun _ => rfl, rfl, rfl, rfl, rfl, ?_⟩
        simp only [rank, acknowledging, WorkerControl.rank]
        omega
  · next leaving =>
      cases advanced
      refine ⟨fun _ => rfl, fun _ => rfl, rfl, rfl, rfl, rfl, ?_⟩
      simp only [rank, leaving, WorkerControl.rank, Channel.close, List.map_nil,
        List.sum_nil]
      omega
  · next deaf =>
      cases advanced
      refine ⟨fun _ => rfl, fun _ => rfl, rfl, rfl, rfl, rfl, ?_⟩
      simp only [rank, deaf, WorkerControl.rank]
      omega
  · nomatch advanced

/-- What may happen on a move. -/
inductive Happens (state : Rendezvous σ) : RendezvousMove → Rendezvous σ → Prop
  | nothing (move : RendezvousMove) : Happens state move state
  | enter
      (isIdle : state.handle = .idle)
      (call : LinkCall) :
      Happens state (.call call) (state.enter call)
  | access
      (isIdle : state.handle = .idle)
      (change : SoundProcessor → SoundProcessor) :
      Happens state (.access change)
        { state with
          worker := state.worker.modifySound change
          deeds := state.deeds ++ [.accessed change] }
  | handle
      {next : Rendezvous σ}
      (advanced : state.advanceHandle? = some next) :
      Happens state (.advance .handle) next
  | worker
      {next : Rendezvous σ}
      (advanced : state.advanceWorker? = some next) :
      Happens state (.advance .worker) next

theorem happens_step (state : Rendezvous σ) (move : RendezvousMove) :
    Happens state move (state.step move) := by
  cases move with
  | call call =>
      simp only [step]
      split
      · next isIdle => exact .enter isIdle call
      · exact .nothing _
  | access change =>
      simp only [step]
      split
      · next isIdle => exact .access isIdle change
      · exact .nothing _
  | advance process =>
      simp only [step]
      cases advanced : state.advance? process with
      | none => exact .nothing _
      | some next =>
          cases process with
          | handle => exact .handle advanced
          | worker => exact .worker advanced

/-- The worker touches the sound while it serves, and the owner between calls. -/
theorem Happens.touches
    {state next : Rendezvous σ}
    {move : RendezvousMove}
    (happens : Happens state move next)
    (touched : next.worker ≠ state.worker) :
    (move = .advance .worker ∧ ∃ sent left, state.control = .serving sent left) ∨
      ∃ change, move = .access change ∧ state.handle = .idle := by
  cases happens with
  | nothing => exact absurd rfl touched
  | enter isIdle call => exact absurd (handleKeeps_enter state call).worker touched
  | access isIdle change => exact .inr ⟨change, rfl, isIdle⟩
  | handle advanced => exact absurd (handleStep_of_advance advanced).keeps.worker touched
  | worker advanced =>
      refine .inl ⟨rfl, Classical.byContradiction fun servesNothing => ?_⟩
      exact touched
        ((workerKeeps_advance advanced).worker fun sent left serving =>
          servesNothing ⟨sent, left, serving⟩)

/-- Every request that is sent gets the next number. -/
theorem Happens.numbered
    {state next : Rendezvous σ}
    {move : RendezvousMove}
    (happens : Happens state move next)
    (numbered : Numbered state.issued) :
    Numbered next.issued := by
  cases happens with
  | nothing => exact numbered
  | enter isIdle call => exact (handleKeeps_enter state call).numbered numbered
  | access isIdle change => exact numbered
  | handle advanced => exact (handleStep_of_advance advanced).keeps.numbered numbered
  | worker advanced => exact (workerKeeps_advance advanced).issued ▸ numbered

theorem Numbered.run
    {state : Rendezvous σ}
    (numbered : Numbered state.issued)
    (moves : List RendezvousMove) :
    Numbered (state.run moves).issued := by
  induction moves generalizing state with
  | nil => exact numbered
  | cons move rest inductionHypothesis =>
      exact inductionHypothesis ((happens_step state move).numbered numbered)

/-- Steps of the processes one after the other, none of which has to wait. -/
def advanceAll? (state : Rendezvous σ) : List LinkProcess → Option (Rendezvous σ)
  | [] => some state
  | process :: rest => (state.advance? process).bind fun next => next.advanceAll? rest

/-- The processes cannot take more steps than the rank. -/
theorem length_le_rank
    {state later : Rendezvous σ}
    {schedule : List LinkProcess}
    (advanced : state.advanceAll? schedule = some later) :
    schedule.length ≤ state.rank := by
  induction schedule generalizing state with
  | nil => exact Nat.zero_le _
  | cons process rest inductionHypothesis =>
      obtain ⟨next, first, others⟩ := Option.bind_eq_some_iff.mp advanced
      have shorter : next.rank < state.rank := by
        cases process with
        | handle => exact (handleStep_of_advance first).rank_lt
        | worker => exact (workerKeeps_advance first).rank
      exact Nat.lt_of_le_of_lt (inductionHypothesis others) shorter

end

end Rendezvous

end PsxPlayer
