import PsxPlayer.Proofs.Sound.Rendezvous.Consequences

namespace PsxPlayer

/-!
# How a call ends

A call of the idle handle returns as soon as both processes have had turns enough,
however these are mixed.  While it is under way the handle sends one request and takes
one acknowledgment at most, and what it answers is what the link as one would.  So a
worker that goes on has served the request of the call exactly once, and after an
acknowledged shutdown the request is refused.
-/

namespace SoundLink

variable {σ : Type} [SampleSink σ]

/-- The link after a deed of its owner. -/
def afterDeed (link : SoundLink σ) : LinkDeed → SoundLink σ
  | .accessed change => link.modifySound change
  | .answered call _ => stateAfter (perform call) link

/-- What the owner has seen tells the link. -/
theorem Shows.eq_afterDeeds
    {first link : SoundLink σ}
    {deeds : List LinkDeed}
    (shows : Shows first deeds link) :
    link = deeds.foldl afterDeed first := by
  induction shows with
  | nothing => rfl
  | accessed shows change inductionHypothesis =>
      rw [List.foldl_append, ← inductionHypothesis]
      rfl
  | returned shows result inductionHypothesis =>
      rw [List.foldl_append, ← inductionHypothesis]
      simp only [List.foldl_cons, List.foldl_nil, afterDeed, stateAfter, EStateM.run, result]
  | failed shows result inductionHypothesis =>
      rw [List.foldl_append, ← inductionHypothesis]
      simp only [List.foldl_cons, List.foldl_nil, afterDeed, stateAfter, EStateM.run, result]

/-- A result of the link with its answer. -/
def resultOf (answer : Except Fault Unit) (link : SoundLink σ) :
    EStateM.Result Fault (SoundLink σ) Unit :=
  match answer with
  | .ok () => .ok () link
  | .error fault => .error fault link

/-- The last answer that the owner has seen is that of the link as one. -/
theorem Shows.perform_of_answered
    {first link next : SoundLink σ}
    {deeds : List LinkDeed}
    {call : LinkCall}
    {answer : Except Fault Unit}
    (before : Shows first deeds link)
    (after : Shows first (deeds ++ [.answered call answer]) next) :
    perform call link = resultOf answer next := by
  generalize same : deeds ++ [.answered call answer] = all at after
  cases after with
  | nothing => simp at same
  | accessed shows change =>
      nomatch (List.append_inj' same rfl).2
  | returned shows result =>
      obtain ⟨rfl, isLast⟩ := List.append_inj' same rfl
      cases isLast
      rw [before.eq_afterDeeds, ← shows.eq_afterDeeds]
      exact result
  | failed shows result =>
      obtain ⟨rfl, isLast⟩ := List.append_inj' same rfl
      cases isLast
      rw [before.eq_afterDeeds, ← shows.eq_afterDeeds]
      exact result

end SoundLink

namespace Rendezvous

variable {σ : Type} [SampleSink σ]

/-- The processes have turns one after the other; one that has to wait lets its turn pass. -/
def takeTurns (state : Rendezvous σ) (turns : List LinkProcess) : Rendezvous σ :=
  state.run (turns.map .advance)

theorem takeTurns_cons
    (state : Rendezvous σ)
    (process : LinkProcess)
    (turns : List LinkProcess) :
    state.takeTurns (process :: turns) = (state.step (.advance process)).takeTurns turns :=
  rfl

theorem takeTurns_append
    (state : Rendezvous σ)
    (first second : List LinkProcess) :
    state.takeTurns (first ++ second) = (state.takeTurns first).takeTurns second := by
  simp only [takeTurns, run, List.map_append, List.foldl_append]

/-- A process that has to wait changes nothing. -/
theorem step_advance_of_none
    {state : Rendezvous σ}
    {process : LinkProcess}
    (waits : state.advance? process = none) :
    state.step (.advance process) = state := by
  simp only [step, waits, Option.getD_none]

/-- A process that need not wait uses up some of what is left to do. -/
theorem rank_step_lt
    {state : Rendezvous σ}
    {process : LinkProcess}
    (moves : state.advance? process ≠ none) :
    (state.step (.advance process)).rank < state.rank := by
  obtain ⟨next, advanced⟩ := Option.ne_none_iff_exists'.mp moves
  simp only [step, advanced, Option.getD_some]
  cases process with
  | handle => exact (handleStep_of_advance advanced).rank_lt
  | worker => exact (workerKeeps_advance advanced).rank

/-- Turns leave no more to do than there was. -/
theorem rank_takeTurns_le (state : Rendezvous σ) (turns : List LinkProcess) :
    (state.takeTurns turns).rank ≤ state.rank := by
  induction turns generalizing state with
  | nil => exact Nat.le_refl _
  | cons process rest inductionHypothesis =>
      refine Nat.le_trans (inductionHypothesis (state.step (.advance process))) ?_
      by_cases waits : state.advance? process = none
      · exact Nat.le_of_eq (congrArg rank (step_advance_of_none waits))
      · exact Nat.le_of_lt (rank_step_lt waits)

/-- A turn of a process that need not wait leaves less to do. -/
theorem rank_takeTurns_lt
    {state : Rendezvous σ}
    {process : LinkProcess}
    {turns : List LinkProcess}
    (member : process ∈ turns)
    (moves : state.advance? process ≠ none) :
    (state.takeTurns turns).rank < state.rank := by
  induction turns with
  | nil => nomatch member
  | cons next rest inductionHypothesis =>
      rw [takeTurns_cons]
      by_cases waits : state.advance? next = none
      · rw [step_advance_of_none waits]
        rcases List.mem_cons.mp member with rfl | later
        · exact absurd waits moves
        · exact inductionHypothesis later
      · exact Nat.lt_of_le_of_lt (rank_takeTurns_le _ rest) (rank_step_lt waits)

/-- No process can take a step. -/
def IsBlocked (state : Rendezvous σ) : Prop :=
  ∀ process, state.advance? process = none

/-- Where nobody can take a step, turns change nothing. -/
theorem IsBlocked.takeTurns
    {state : Rendezvous σ}
    (isBlocked : state.IsBlocked)
    (turns : List LinkProcess) :
    state.takeTurns turns = state := by
  induction turns with
  | nil => rfl
  | cons process rest inductionHypothesis =>
      rw [takeTurns_cons, step_advance_of_none (isBlocked process), inductionHypothesis]

/-- Rounds in each of which both processes have a turn. -/
def IsFair (rounds : List (List LinkProcess)) : Prop :=
  ∀ round, round ∈ rounds → ∀ process, process ∈ round

/-- After fair rounds, as many as there are steps left, nobody can take one. -/
theorem isBlocked_of_fair
    {state : Rendezvous σ}
    {rounds : List (List LinkProcess)}
    (fair : IsFair rounds)
    (enough : state.rank ≤ rounds.length) :
    (state.takeTurns rounds.flatten).IsBlocked := by
  induction rounds generalizing state with
  | nil =>
      intro process
      refine Classical.byContradiction fun moves => ?_
      exact Nat.not_lt_of_le enough (Nat.zero_lt_of_lt (rank_step_lt moves))
  | cons round rest inductionHypothesis =>
      by_cases isBlocked : state.IsBlocked
      · rw [isBlocked.takeTurns]
        exact isBlocked
      · obtain ⟨process, moves⟩ := Classical.not_forall.mp isBlocked
        have less : (state.takeTurns round).rank < state.rank :=
          rank_takeTurns_lt (fair round (.head _) process) moves
        rw [List.flatten_cons, takeTurns_append]
        refine inductionHypothesis (fun next member => fair next (.tail _ member)) ?_
        exact Nat.le_of_lt_succ (Nat.lt_of_lt_of_le less enough)

/-- The request of a call has been sent and acknowledged. -/
def Delivered (before : Rendezvous σ) (call : LinkCall) (now : Rendezvous σ) : Prop :=
  now.issued = before.issued ++ [sentBehind before.issued call] ∧
    now.acknowledged = before.acknowledged ++ [sentBehind before.issued call]

/-- How far the handle has come with a call that it has begun in a state. -/
def Progress (before : Rendezvous σ) (call : LinkCall) (now : Rendezvous σ) : Prop :=
  match now.handle with
  | .sending other =>
      other = call ∧
        now.issued = before.issued ∧
        now.acknowledged = before.acknowledged ∧
        now.deeds = before.deeds
  | .waiting other _ =>
      other = call ∧
        now.issued = before.issued ++ [sentBehind before.issued call] ∧
        now.acknowledged = before.acknowledged ∧
        now.deeds = before.deeds
  | .joining delivered =>
      call = .close ∧
        (delivered = true → Delivered before call now) ∧
        now.deeds = before.deeds
  | .idle =>
      ∃ answer,
        (before.isAttached = true → answer = .ok () → Delivered before call now) ∧
          now.deeds = before.deeds ++ [.answered call answer]

omit [SampleSink σ] in
/-- A call begins with its request, or has returned at once. -/
theorem progress_enter (state : Rendezvous σ) (call : LinkCall) :
    Progress state call (state.enter call) := by
  unfold enter
  split
  · exact ⟨rfl, rfl, rfl, rfl⟩
  · next detached =>
      cases call with
      | request message => exact ⟨_, fun attached => absurd attached detached, rfl⟩
      | close => exact ⟨_, fun attached => absurd attached detached, rfl⟩

omit [SampleSink σ] in
/-- A handle that answers whether it has delivered its request has returned. -/
theorem progress_answer
    {before now : Rendezvous σ}
    {call : LinkCall}
    {delivered : Bool}
    (isDelivered : delivered = true → Delivered before call now)
    (deeds : now.deeds = before.deeds) :
    Progress before call
      (now.answer call (if delivered then .ok () else .error .workerGone)) := by
  refine ⟨_, fun _ succeeded => ?_, congrArg (· ++ _) deeds⟩
  cases delivered with
  | true => exact isDelivered rfl
  | false => nomatch succeeded

omit [SampleSink σ] in
/-- A call that is concluded has returned, or waits for the end of the worker. -/
theorem progress_conclude
    {before now : Rendezvous σ}
    {call : LinkCall}
    {delivered : Bool}
    (isDelivered : delivered = true → Delivered before call now)
    (deeds : now.deeds = before.deeds) :
    Progress before call (now.conclude call delivered) := by
  cases call with
  | request message => exact progress_answer isDelivered deeds
  | close => exact ⟨rfl, isDelivered, deeds⟩

namespace Progress

variable {first : SoundLink σ} {before now next : Rendezvous σ} {call : LinkCall}

/-- A step of the handle takes the call further. -/
theorem advanceHandle
    {link : SoundLink σ}
    (progress : Progress before call now)
    (position : Position link now)
    (advanced : now.advanceHandle? = some next) :
    Progress before call next := by
  unfold Progress at progress
  cases handleStep_of_advance advanced with
  | send handle accepted =>
      rw [handle] at progress
      obtain ⟨rfl, issued, acknowledged, deeds⟩ := progress
      refine ⟨rfl, ?_, acknowledged, deeds⟩
      simp only [issued, sentBehind]
  | refuse handle =>
      rcases handle with handle | ⟨number, handle⟩
      · rw [handle] at progress
        obtain ⟨rfl, -, -, deeds⟩ := progress
        exact progress_conclude (fun isTrue => nomatch isTrue) deeds
      · rw [handle] at progress
        obtain ⟨rfl, -, -, deeds⟩ := progress
        exact progress_conclude (fun isTrue => nomatch isTrue) deeds
  | @receive other awaited number rest handle waiting =>
      rw [handle] at progress
      obtain ⟨rfl, issued, acknowledged, deeds⟩ := progress
      -- the acknowledgment bears the number of the request that was sent last
      have member : number ∈ now.acknowledgments.waiting := waiting ▸ .head _
      obtain ⟨same, awaits, isLast, -⟩ := position.awaits_of_mem member
      cases handle.symm.trans awaits
      rw [issued, List.getLast?_concat] at isLast
      refine progress_conclude (fun _ => ⟨issued, ?_⟩) deeds
      simp only [acknowledged, Option.some.inj isLast]
  | join handle =>
      rw [handle] at progress
      obtain ⟨rfl, isDelivered, deeds⟩ := progress
      exact progress_answer isDelivered deeds

/-- A turn of a process keeps to the call. -/
theorem happens
    {link : SoundLink σ}
    {process : LinkProcess}
    (progress : Progress before call now)
    (position : Position link now)
    (happens : Happens now (.advance process) next) :
    Progress before call next := by
  cases happens with
  | nothing => exact progress
  | handle advanced => exact progress.advanceHandle position advanced
  | worker advanced =>
      obtain ⟨-, -, handle, issued, acknowledged, deeds, -⟩ := workerKeeps_advance advanced
      unfold Progress Delivered at *
      rw [handle, issued, acknowledged, deeds]
      exact progress

/-- Turns of the processes keep to the call. -/
theorem takeTurns
    (progress : Progress before call now)
    (mirrors : Mirrors first now)
    (turns : List LinkProcess) :
    Progress before call (now.takeTurns turns) := by
  induction turns generalizing now with
  | nil => exact progress
  | cons process rest inductionHypothesis =>
      have happens := happens_step now (.advance process)
      obtain ⟨link, position, -⟩ := id mirrors
      exact inductionHypothesis (progress.happens position happens) (happens.mirrors mirrors)

end Progress

/-- A call has returned whose request was sent, served once and acknowledged. -/
structure IsServed (before : Rendezvous σ) (call : LinkCall) (later : Rendezvous σ) : Prop where
  issued : later.issued = before.issued ++ [sentBehind before.issued call]
  served : later.served = before.served ++ [sentBehind before.issued call]
  acknowledged : later.acknowledged = before.acknowledged ++ [sentBehind before.issued call]
  worker : later.worker = before.worker.serve call.message
  deeds : later.deeds = before.deeds ++ [.answered call (.ok ())]

/-- The answer to a call that nobody serves: only a closed handle may be closed again. -/
def refusal (before : Rendezvous σ) : LinkCall → Except Fault Unit
  | .request _ => .error .workerGone
  | .close => if before.isAttached then .error .workerGone else .ok ()

/-- A call has returned whose request nobody has served. -/
structure IsRefused (before : Rendezvous σ) (call : LinkCall) (later : Rendezvous σ) : Prop where
  served : later.served = before.served
  acknowledged : later.acknowledged = before.acknowledged
  worker : later.worker = before.worker
  deeds : later.deeds = before.deeds ++ [.answered call (before.refusal call)]

/-- What becomes of a call of the idle handle. -/
structure Answers (state : Rendezvous σ) (call : LinkCall) : Prop where
  /-- It returns when both processes have had turns enough. -/
  returns :
    ∀ rounds,
      IsFair rounds →
      (state.step (.call call)).rank ≤ rounds.length →
      ((state.step (.call call)).takeTurns rounds.flatten).handle = .idle
  /-- It has been served then, whichever turns the processes have had. -/
  served :
    ¬ state.HasStopped →
    ∀ turns,
      ((state.step (.call call)).takeTurns turns).handle = .idle →
      IsServed state call ((state.step (.call call)).takeTurns turns)
  /-- After an acknowledged shutdown it has been refused. -/
  refused :
    state.HasStopped →
    ∀ turns,
      ((state.step (.call call)).takeTurns turns).handle = .idle →
      IsRefused state call ((state.step (.call call)).takeTurns turns)

namespace Position

variable {link : SoundLink σ} {state : Rendezvous σ}

/-- Between calls a worker that goes on has served whatever was sent. -/
theorem of_idle_of_not_hasStopped
    (position : Position link state)
    (isIdle : state.handle = .idle)
    (goes : ¬ state.HasStopped) :
    link.phase = .serving ∧
      state.isAttached = true ∧
      state.served = state.issued ∧
      state.acknowledged = state.issued := by
  cases position with
  | quiet phase goesOn quiet =>
      cases isIdle
      cases quiet
      exact ⟨phase, rfl, rfl, rfl⟩
  | @finished handle isAttached waiting control worker before issued last deeds goesOn
      shutdown =>
      exact absurd ⟨last, List.mem_append_right _ (.head _), shutdown⟩ goes
  | _ => nomatch isIdle

/-- Between calls after a shutdown the handle is attached until it is closed. -/
theorem phase_of_idle_of_hasStopped
    (position : Position link state)
    (isIdle : state.handle = .idle)
    (hasStopped : state.HasStopped) :
    link.phase = if state.isAttached then .ended else .closed := by
  cases position with
  | quiet phase goesOn quiet =>
      obtain ⟨sent, member, shutdown⟩ := hasStopped
      exact absurd shutdown (goesOn sent member)
  | finished goesOn shutdown isPrefix hasLeft closing unheard =>
      cases isIdle
      cases closing with
      | idle phase => exact phase
      | closed phase => exact phase
  | _ => nomatch isIdle

/-- Once a shutdown has been acknowledged everything served has been. -/
theorem acknowledged_of_hasStopped
    (position : Position link state)
    (hasStopped : state.HasStopped) :
    state.acknowledged = state.served := by
  obtain ⟨sent, member, shutdown⟩ := hasStopped
  cases position with
  | finished goesOn shutdown isPrefix hasLeft closing unheard => rfl
  | quiet phase goesOn quiet => rfl
  | requested phase goesOn => rfl
  | serving phase goesOn rest => rfl
  | acknowledging phase goesOn => exact absurd shutdown (goesOn sent member)
  | acknowledged phase goesOn follows => exact absurd shutdown (goesOn sent member)

end Position

namespace Mirrors

variable {first : SoundLink σ} {state : Rendezvous σ}

/-- A call returns when both processes have had turns enough. -/
theorem returns_of_fair
    (mirrors : Mirrors first state)
    {rounds : List (List LinkProcess)}
    (fair : IsFair rounds)
    (enough : state.rank ≤ rounds.length) :
    (state.takeTurns rounds.flatten).handle = .idle := by
  have isBlocked := isBlocked_of_fair fair enough
  obtain ⟨link, position, -⟩ := mirrors.run (rounds.flatten.map .advance)
  exact position.idle_of_blocked (isBlocked .handle) (isBlocked .worker)

/-- The link as one performs the call that has returned. -/
theorem perform_of_returned
    {link : SoundLink σ}
    {call : LinkCall}
    {turns : List LinkProcess}
    (mirrors : Mirrors first state)
    (shows : first.Shows state.deeds link)
    (isIdle : state.handle = .idle)
    (returned : ((state.step (.call call)).takeTurns turns).handle = .idle) :
    ∃ answer next,
      SoundLink.perform call link = SoundLink.resultOf answer next ∧
        Position next ((state.step (.call call)).takeTurns turns) ∧
        ((state.step (.call call)).takeTurns turns).deeds =
          state.deeds ++ [.answered call answer] ∧
        (state.isAttached = true →
          answer = .ok () →
          Delivered state call ((state.step (.call call)).takeTurns turns)) := by
  have called : Mirrors first (state.step (.call call)) := mirrors.run [.call call]
  have begun : Progress state call (state.step (.call call)) := by
    simp only [step, if_pos isIdle]
    exact progress_enter state call
  have progress := begun.takeTurns called turns
  unfold Progress at progress
  rw [returned] at progress
  obtain ⟨answer, isDelivered, deeds⟩ := progress
  obtain ⟨next, position, after⟩ := called.run (turns.map .advance)
  have result := shows.perform_of_answered (deeds ▸ after)
  exact ⟨answer, next, result, position, deeds, isDelivered⟩

/-- A worker that goes on serves what it is sent. -/
theorem isServed
    {call : LinkCall}
    {turns : List LinkProcess}
    (mirrors : Mirrors first state)
    (isIdle : state.handle = .idle)
    (goes : ¬ state.HasStopped)
    (returned : ((state.step (.call call)).takeTurns turns).handle = .idle) :
    IsServed state call ((state.step (.call call)).takeTurns turns) := by
  obtain ⟨link, position, shows⟩ := id mirrors
  obtain ⟨phase, isAttached, served, acknowledged⟩ :=
    position.of_idle_of_not_hasStopped isIdle goes
  obtain ⟨answer, next, result, later, deeds, isDelivered⟩ :=
    mirrors.perform_of_returned shows isIdle returned
  have worker := position.worker_of_idle isIdle
  have laterWorker := later.worker_of_idle returned
  obtain ⟨linkWorker, linkPhase⟩ := link
  cases phase
  have succeeded : answer = .ok () ∧ next.worker = linkWorker.serve call.message := by
    cases answer with
    | ok nothing => cases call <;> cases result <;> exact ⟨rfl, rfl⟩
    | error fault => cases call <;> nomatch result
  obtain ⟨rfl, nextWorker⟩ := succeeded
  obtain ⟨laterIssued, laterAcknowledged⟩ := isDelivered isAttached rfl
  obtain ⟨firstOrder, secondOrder⟩ := later.inOrder
  refine ⟨laterIssued, ?_, laterAcknowledged, ?_, deeds⟩
  · -- what is served lies between what is acknowledged and what is issued
    have same :
        ((state.step (.call call)).takeTurns turns).acknowledged =
          ((state.step (.call call)).takeTurns turns).issued := by
      rw [laterAcknowledged, laterIssued, acknowledged]
    rw [same] at firstOrder
    rw [served, ← laterIssued]
    exact secondOrder.eq_of_length (Nat.le_antisymm secondOrder.length_le firstOrder.length_le)
  · rw [laterWorker, nextWorker, worker]

/-- After an acknowledged shutdown nobody serves a request. -/
theorem isRefused
    {call : LinkCall}
    {turns : List LinkProcess}
    (mirrors : Mirrors first state)
    (isIdle : state.handle = .idle)
    (hasStopped : state.HasStopped)
    (returned : ((state.step (.call call)).takeTurns turns).handle = .idle) :
    IsRefused state call ((state.step (.call call)).takeTurns turns) := by
  obtain ⟨link, position, shows⟩ := id mirrors
  obtain ⟨answer, next, result, later, deeds, -⟩ :=
    mirrors.perform_of_returned shows isIdle returned
  have stays : StaysStopped state ((state.step (.call call)).takeTurns turns) :=
    mirrors.staysStopped_run hasStopped (.call call :: turns.map .advance)
  have phase := position.phase_of_idle_of_hasStopped isIdle hasStopped
  have worker := position.worker_of_idle isIdle
  have laterWorker := later.worker_of_idle returned
  obtain ⟨linkWorker, linkPhase⟩ := link
  have refused : answer = state.refusal call ∧ next.worker = linkWorker := by
    cases attached : state.isAttached <;> rw [attached] at phase <;> cases phase <;>
      cases call <;> cases answer <;> cases result <;> simp [refusal, attached]
  refine ⟨stays.served, ?_, ?_, ?_⟩
  · rw [later.acknowledged_of_hasStopped stays.hasStopped, stays.served,
      position.acknowledged_of_hasStopped hasStopped]
  · rw [laterWorker, refused.2, worker]
  · rw [deeds, refused.1]

/-- Every call of the idle handle is answered. -/
theorem answers
    (mirrors : Mirrors first state)
    (isIdle : state.handle = .idle)
    (call : LinkCall) :
    Answers state call where
  returns _ fair enough := (mirrors.run [.call call]).returns_of_fair fair enough
  served goes _ returned := mirrors.isServed isIdle goes returned
  refused hasStopped _ returned := mirrors.isRefused isIdle hasStopped returned

end Mirrors

end Rendezvous

end PsxPlayer
