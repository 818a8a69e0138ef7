import PsxPlayer.Proofs.Sound.Rendezvous.Answer

namespace PsxPlayer

/-!
# The rendezvous in every interleaving

From the positions follows what the two processes promise each other and the owner of
the handle, whichever of them is quicker.
-/

namespace Rendezvous

variable {σ : Type} [SampleSink σ]

/-- What the rendezvous promises in a state, given the link as one at the start. -/
structure Safe (first : SoundLink σ) (state : Rendezvous σ) : Prop where
  /-- At most one message is in flight. -/
  inFlight :
    state.requests.waiting.length + state.acknowledgments.waiting.length ≤ 1
  /-- The handle waits for the acknowledgment in flight, which is for the last request. -/
  awaited :
    ∀ number,
      number ∈ state.acknowledgments.waiting →
      ∃ call,
        state.handle = .waiting call number ∧
          state.issued.getLast? = some ⟨number, call.message⟩ ∧
          state.served = state.issued
  /-- Requests have the numbers from zero on. -/
  numbered : Numbered state.issued
  /-- Requests are served in this order and acknowledged in it. -/
  inOrder : state.acknowledged <+: state.served ∧ state.served <+: state.issued
  /-- Until a shutdown is acknowledged, requests are served or under way. -/
  accounted : ¬ state.HasStopped → state.issued = state.served ++ state.underWay
  /-- The worker is touched by itself while it serves the request that the handle waits
  for, and by the owner between calls, when the worker serves nothing. -/
  touches :
    ∀ move,
      (state.step move).worker ≠ state.worker →
      (move = .advance .worker ∧
          ∃ sent left call,
            state.control = .serving sent left ∧
              state.handle = .waiting call sent.number) ∨
        ∃ change,
          move = .access change ∧
            state.handle = .idle ∧
            ∀ sent left,
              state.control ≠ .serving sent left ∧ state.control ≠ .acknowledging sent
  /-- After an acknowledged shutdown nothing is served, every request is refused, and
  nobody but the owner touches the worker. -/
  stopped :
    state.HasStopped →
    ∀ moves,
      StaysStopped state (state.run moves) ∧
        ∀ move,
          (∀ change, move ≠ .access change) →
          ((state.run moves).step move).worker = (state.run moves).worker
  /-- Every call of the idle handle returns: until a shutdown is acknowledged its request
  has then been sent, served once and acknowledged, and afterwards it has been refused. -/
  answers : state.handle = .idle → ∀ call, Answers state call
  /-- A handle that has been closed may be closed again. -/
  closesAgain :
    ∀ answer,
      .answered .close answer ∈ state.deeds →
      state.step (.call .close) =
        { state with deeds := state.deeds ++ [.answered .close (.ok ())] }
  /-- The owner sees what the link as one shows. -/
  shown :
    ∃ link,
      first.Shows state.deeds link ∧ (state.handle = .idle → state.worker = link.worker)
  /-- The processes cannot go on forever, and where both have to wait no call is left. -/
  returns :
    (∀ schedule later,
        state.advanceAll? schedule = some later → schedule.length ≤ state.rank) ∧
      ((∀ process, state.advance? process = none) → state.handle = .idle)

/-- A state that the link as one accounts for is safe. -/
theorem Mirrors.safe
    {first : SoundLink σ}
    {state : Rendezvous σ}
    (mirrors : Mirrors first state)
    (numbered : Numbered state.issued) :
    Safe first state := by
  obtain ⟨link, position, shows⟩ := id mirrors
  refine
    { inFlight := position.inFlight_le_one
      awaited := fun _ member => position.awaits_of_mem member
      numbered := numbered
      inOrder := position.inOrder
      accounted := position.issued_of_not_hasStopped
      touches := ?touches
      stopped := ?stopped
      answers := mirrors.answers
      closesAgain := fun _ member =>
        position.enter_close_of_closed (shows.phase_of_answered_close member)
      shown := ⟨link, shows, position.worker_of_idle⟩
      returns :=
        ⟨fun _ _ => length_le_rank,
          fun blocked => position.idle_of_blocked (blocked .handle) (blocked .worker)⟩ }
  case touches =>
    intro move touched
    rcases (happens_step state move).touches touched with
      ⟨isWorker, sent, left, serving⟩ | ⟨change, isAccess, isIdle⟩
    · obtain ⟨call, waiting⟩ := position.awaits_of_serving (.inl serving)
      exact .inl ⟨isWorker, sent, left, call, serving, waiting⟩
    · have apart (sent left)
          (serving :
            state.control = .serving sent left ∨ state.control = .acknowledging sent) :
          False := by
        obtain ⟨call, waiting⟩ := position.awaits_of_serving serving
        nomatch isIdle.symm.trans waiting
      exact
        .inr ⟨change, isAccess, isIdle, fun sent left =>
          ⟨fun serving => apart sent left (.inl serving),
            fun acknowledging => apart sent left (.inr acknowledging)⟩⟩
  case stopped =>
    intro hasStopped moves
    have stays := mirrors.staysStopped_run hasStopped moves
    exact ⟨stays, fun move => (mirrors.run moves).worker_of_hasStopped stays.hasStopped⟩

/--
In every interleaving of the handle and the worker, and of the owner's calls and
accesses between them, the rendezvous is safe.
-/
theorem run_safe
    (sound : SoundProcessor)
    (sink : σ)
    (ringFrames : Nat)
    (moves : List RendezvousMove) :
    Safe (SoundLink.start sound sink ringFrames)
      ((start sound sink ringFrames).run moves) := by
  have mirrors :
      Mirrors (SoundLink.start sound sink ringFrames) (start sound sink ringFrames) :=
    ⟨_, .start sound sink ringFrames, .nothing⟩
  have numbered : Numbered (start sound sink ringFrames).issued := rfl
  exact (mirrors.run moves).safe (numbered.run moves)

/--
Four calls with the turns that bring them to their ends, and two that return at once: a
request that is served, a shutdown, a request that the worker no longer hears, the end of
the handle, and what comes after it.
-/
def callsToTheEnd : List RendezvousMove :=
  let fourTurns : List RendezvousMove :=
    [.advance .handle, .advance .worker, .advance .worker, .advance .worker]
  .call (.request (.samples 1)) :: fourTurns ++ [.advance .worker, .advance .handle] ++
    .call (.request .shutdown) :: fourTurns ++ [.advance .handle] ++
      .call (.request (.noteOn 0)) :: fourTurns ++ [.advance .handle] ++
        [.call .close, .advance .handle, .advance .handle, .call (.request (.noteOn 0)),
          .call .close]

/-- What is asked before the shutdown is served, and what is asked behind it is refused. -/
theorem run_safe_callsToTheEnd :
    let state := (start .initial Silence.mk 1).run callsToTheEnd
    Safe (SoundLink.start .initial Silence.mk 1) state ∧
      state.handle = .idle ∧
      state.HasStopped ∧
      state.issued = [⟨0, .samples 1⟩, ⟨1, .shutdown⟩, ⟨2, .noteOn 0⟩] ∧
      state.served = [⟨0, .samples 1⟩, ⟨1, .shutdown⟩] ∧
      state.acknowledged = [⟨0, .samples 1⟩, ⟨1, .shutdown⟩] ∧
      state.worker.frames = 1 ∧
      state.deeds =
        [.answered (.request (.samples 1)) (.ok ()),
          .answered (.request .shutdown) (.ok ()),
          .answered (.request (.noteOn 0)) (.error .workerGone),
          .answered .close (.error .workerGone),
          .answered (.request (.noteOn 0)) (.error .workerGone),
          .answered .close (.ok ())] := by
  have acknowledged :
      ((start .initial Silence.mk 1).run callsToTheEnd).acknowledged =
        [⟨0, .samples 1⟩, ⟨1, .shutdown⟩] := by
    decide +kernel
  have hasStopped : ((start .initial Silence.mk 1).run callsToTheEnd).HasStopped :=
    ⟨⟨1, .shutdown⟩, acknowledged ▸ .tail _ (.head _), rfl⟩
  refine ⟨run_safe .initial Silence.mk 1 callsToTheEnd, ?_, hasStopped, ?_, ?_, ?_, ?_, rfl⟩
  all_goals decide +kernel

end Rendezvous

end PsxPlayer
