import PsxPlayer.Proofs.Sound.Rendezvous.Position

namespace PsxPlayer

/-!
# What the positions tell

The joint position of the two processes tells how many messages are in flight and for
whom they are, how far the worker has come with what was sent, and who may touch the
worker.  Once a shutdown has been acknowledged nothing that happens undoes it.
-/

namespace Rendezvous

variable {σ : Type}

/-- A shutdown has been acknowledged. -/
def HasStopped (state : Rendezvous σ) : Prop :=
  ∃ sent, sent ∈ state.acknowledged ∧ sent.request = .shutdown

/-- Requests sent and not yet served: one in the channel or in the worker's hands. -/
def underWay (state : Rendezvous σ) : List SentRequest :=
  state.requests.waiting ++
    match state.control with
    | .serving sent _ => [sent]
    | _ => []

namespace Position

variable [SampleSink σ] {link : SoundLink σ} {state : Rendezvous σ}

/-- At most one message is in flight. -/
theorem inFlight_le_one (position : Position link state) :
    state.requests.waiting.length + state.acknowledgments.waiting.length ≤ 1 := by
  cases position with
  | finished goesOn shutdown isPrefix hasLeft closing unheard => cases unheard <;> simp
  | _ => simp

/-- An acknowledgment in flight is for the last request, and the handle waits for it. -/
theorem awaits_of_mem
    (position : Position link state)
    {number : Nat}
    (member : number ∈ state.acknowledgments.waiting) :
    ∃ call,
      state.handle = .waiting call number ∧
        state.issued.getLast? = some ⟨number, call.message⟩ ∧
        state.served = state.issued := by
  cases position with
  | @acknowledged call control done deeds phase goesOn follows =>
      obtain rfl := List.mem_singleton.mp member
      exact ⟨call, rfl, List.getLast?_concat, rfl⟩
  | _ => nomatch member

/-- A request in the worker's hands is the one that the handle waits for. -/
theorem awaits_of_serving
    (position : Position link state)
    {sent : SentRequest}
    {left : Nat}
    (serving : state.control = .serving sent left ∨ state.control = .acknowledging sent) :
    ∃ call, state.handle = .waiting call sent.number := by
  cases position with
  | @serving call left worker done deeds phase goesOn rest =>
      rcases serving with same | same <;> cases same
      exact ⟨call, rfl⟩
  | @acknowledging call done deeds phase goesOn =>
      rcases serving with same | same <;> cases same
      exact ⟨call, rfl⟩
  | quiet phase goesOn quiet => rcases serving with same | same <;> cases same
  | requested phase goesOn => rcases serving with same | same <;> cases same
  | acknowledged phase goesOn follows =>
      rcases serving with rfl | rfl <;> cases follows <;> contradiction
  | finished goesOn shutdown isPrefix hasLeft closing unheard =>
      rcases serving with rfl | rfl <;> nomatch hasLeft

/-- Requests are served in the order in which they were sent, and acknowledged in it. -/
theorem inOrder (position : Position link state) :
    state.acknowledged <+: state.served ∧ state.served <+: state.issued := by
  cases position with
  | finished goesOn shutdown isPrefix hasLeft closing unheard =>
      exact ⟨List.prefix_refl _, isPrefix⟩
  | quiet phase goesOn quiet => exact ⟨List.prefix_refl _, List.prefix_refl _⟩
  | requested phase goesOn => exact ⟨List.prefix_refl _, List.prefix_append _ _⟩
  | serving phase goesOn rest => exact ⟨List.prefix_refl _, List.prefix_append _ _⟩
  | acknowledging phase goesOn => exact ⟨List.prefix_append _ _, List.prefix_refl _⟩
  | acknowledged phase goesOn follows =>
      exact ⟨List.prefix_append _ _, List.prefix_refl _⟩

/-- After an acknowledged shutdown none comes any more and the worker has left its loop. -/
theorem of_hasStopped
    (position : Position link state)
    (hasStopped : state.HasStopped) :
    state.acknowledgments.waiting = [] ∧ state.control.hasLeft = true := by
  obtain ⟨sent, member, shutdown⟩ := hasStopped
  cases position with
  | finished goesOn shutdown isPrefix hasLeft closing unheard => exact ⟨rfl, hasLeft⟩
  | quiet phase goesOn quiet => exact absurd shutdown (goesOn sent member)
  | requested phase goesOn => exact absurd shutdown (goesOn sent member)
  | serving phase goesOn rest => exact absurd shutdown (goesOn sent member)
  | acknowledging phase goesOn => exact absurd shutdown (goesOn sent member)
  | acknowledged phase goesOn follows => exact absurd shutdown (goesOn sent member)

/-- Before an acknowledged shutdown every request has been served or is under way. -/
theorem issued_of_not_hasStopped
    (position : Position link state)
    (goes : ¬ state.HasStopped) :
    state.issued = state.served ++ state.underWay := by
  cases position with
  | @finished handle isAttached waiting control worker before issued last deeds goesOn
      shutdown =>
      exact absurd ⟨last, List.mem_append_right _ (.head _), shutdown⟩ goes
  | quiet phase goesOn quiet => exact (List.append_nil _).symm
  | requested phase goesOn => rfl
  | serving phase goesOn rest => rfl
  | acknowledging phase goesOn => exact (List.append_nil _).symm
  | @acknowledged call control done deeds phase goesOn follows =>
      cases follows with
      | receiving stays => exact (List.append_nil _).symm
      | left stops hasLeft =>
          cases control <;> cases hasLeft <;> exact (List.append_nil _).symm

/-- Between calls the worker is as the link as one has it. -/
theorem worker_of_idle
    (position : Position link state)
    (isIdle : state.handle = .idle) :
    state.worker = link.worker := by
  cases position with
  | quiet phase goesOn quiet => rfl
  | finished goesOn shutdown isPrefix hasLeft closing unheard =>
      cases isIdle
      cases closing <;> rfl
  | _ => nomatch isIdle

/-- Closing a closed link again is answered at once. -/
theorem enter_close_of_closed
    (position : Position link state)
    (closed : link.phase = .closed) :
    state.step (.call .close) =
      { state with deeds := state.deeds ++ [.answered .close (.ok ())] } := by
  cases position with
  | finished goesOn shutdown isPrefix hasLeft closing unheard =>
      cases closing with
      | closed phase => rfl
      | idle phase => nomatch phase.symm.trans closed
      | sending phase call => nomatch phase.symm.trans closed
      | waiting phase call number => nomatch phase.symm.trans closed
      | undelivered phase => nomatch phase.symm.trans closed
      | delivered phase => nomatch phase.symm.trans closed
  | quiet phase goesOn quiet => nomatch phase.symm.trans closed
  | requested phase goesOn => nomatch phase.symm.trans closed
  | serving phase goesOn rest => nomatch phase.symm.trans closed
  | acknowledging phase goesOn => nomatch phase.symm.trans closed
  | acknowledged phase goesOn follows => nomatch phase.symm.trans closed

/-- The processes have to wait only between calls. -/
theorem idle_of_blocked
    (position : Position link state)
    (handleBlocked : state.advanceHandle? = none)
    (workerBlocked : state.advanceWorker? = none) :
    state.handle = .idle := by
  cases position with
  | quiet phase goesOn quiet =>
      cases quiet with
      | idle => rfl
      | sending call => nomatch handleBlocked
  | requested phase goesOn => nomatch workerBlocked
  | @serving call left worker done deeds phase goesOn rest =>
      cases left <;> nomatch workerBlocked
  | acknowledging phase goesOn => nomatch workerBlocked
  | acknowledged phase goesOn follows => nomatch handleBlocked
  | @finished handle isAttached waiting control worker before issued last deeds goesOn
      shutdown isPrefix hasLeft closing unheard =>
      cases control <;> cases hasLeft
      · nomatch workerBlocked
      · nomatch workerBlocked
      · cases unheard
        cases closing <;> first | rfl | nomatch handleBlocked

end Position

section

variable [SampleSink σ]

/-- What moves do not change once a shutdown has been acknowledged. -/
structure StaysStopped (state next : Rendezvous σ) : Prop where
  hasStopped : next.HasStopped
  served : next.served = state.served
  refuses : ∃ deeds, next.deeds = state.deeds ++ deeds ∧ Refuses deeds

namespace StaysStopped

omit [SampleSink σ] in
theorem refl {state : Rendezvous σ} (hasStopped : state.HasStopped) :
    StaysStopped state state :=
  ⟨hasStopped, rfl, [], (List.append_nil _).symm, refuses_nil⟩

omit [SampleSink σ] in
theorem trans
    {state between next : Rendezvous σ}
    (first : StaysStopped state between)
    (second : StaysStopped between next) :
    StaysStopped state next := by
  obtain ⟨earlier, firstDeeds, firstRefuses⟩ := first.refuses
  obtain ⟨later, secondDeeds, secondRefuses⟩ := second.refuses
  refine ⟨second.hasStopped, second.served.trans first.served, earlier ++ later, ?_, ?_⟩
  · rw [secondDeeds, firstDeeds, List.append_assoc]
  · intro message answer member
    rcases List.mem_append.mp member with inEarlier | inLater
    · exact firstRefuses message answer inEarlier
    · exact secondRefuses message answer inLater

end StaysStopped

omit [SampleSink σ] in
/-- The handle cannot undo a shutdown. -/
theorem HandleKeeps.staysStopped
    {state next : Rendezvous σ}
    (keeps : HandleKeeps state next)
    (noAcknowledgment : state.acknowledgments.waiting = [])
    (hasStopped : state.HasStopped) :
    StaysStopped state next := by
  obtain ⟨sent, member, shutdown⟩ := hasStopped
  obtain ⟨deeds, same, refuses⟩ := keeps.refuses
  exact
    ⟨⟨sent, keeps.acknowledged.mem member, shutdown⟩, keeps.served, deeds, same,
      refuses noAcknowledgment⟩

namespace Mirrors

variable {first : SoundLink σ} {state : Rendezvous σ}

/-- Nothing that happens undoes a shutdown. -/
theorem staysStopped_happens
    {next : Rendezvous σ}
    {move : RendezvousMove}
    (mirrors : Mirrors first state)
    (hasStopped : state.HasStopped)
    (happens : Happens state move next) :
    StaysStopped state next := by
  obtain ⟨link, position, -⟩ := mirrors
  obtain ⟨noAcknowledgment, hasLeft⟩ := position.of_hasStopped hasStopped
  cases happens with
  | nothing => exact .refl hasStopped
  | enter isIdle call =>
      exact (handleKeeps_enter state call).staysStopped noAcknowledgment hasStopped
  | access isIdle change =>
      refine ⟨hasStopped, rfl, [.accessed change], rfl, ?_⟩
      intro message answer member
      cases List.mem_singleton.mp member
  | handle advanced =>
      have keeps := (handleStep_of_advance advanced).keeps
      exact keeps.staysStopped noAcknowledgment hasStopped
  | worker advanced =>
      have keeps := workerKeeps_advance advanced
      have outside (sent left) : state.control ≠ .serving sent left := by
        intro serving
        rw [serving] at hasLeft
        nomatch hasLeft
      obtain ⟨sent, member, shutdown⟩ := hasStopped
      exact
        ⟨⟨sent, keeps.acknowledged ▸ member, shutdown⟩, keeps.served outside, [],
          keeps.deeds.trans (List.append_nil _).symm, refuses_nil⟩

/-- No moves undo a shutdown. -/
theorem staysStopped_run
    (mirrors : Mirrors first state)
    (hasStopped : state.HasStopped)
    (moves : List RendezvousMove) :
    StaysStopped state (state.run moves) := by
  induction moves generalizing state with
  | nil => exact .refl hasStopped
  | cons move rest inductionHypothesis =>
      have happens := happens_step state move
      have next := mirrors.staysStopped_happens hasStopped happens
      exact next.trans (inductionHypothesis (happens.mirrors mirrors) next.hasStopped)

/-- After a shutdown nobody but the owner touches the worker. -/
theorem worker_of_hasStopped
    (mirrors : Mirrors first state)
    (hasStopped : state.HasStopped)
    {move : RendezvousMove}
    (noAccess : ∀ change, move ≠ .access change) :
    (state.step move).worker = state.worker := by
  obtain ⟨link, position, -⟩ := mirrors
  obtain ⟨-, hasLeft⟩ := position.of_hasStopped hasStopped
  refine Classical.byContradiction fun touched => ?_
  rcases (happens_step state move).touches touched with
    ⟨-, sent, left, serving⟩ | ⟨change, isAccess, -⟩
  · rw [serving] at hasLeft
    nomatch hasLeft
  · exact noAccess change isAccess

end Mirrors

end

end Rendezvous

end PsxPlayer
