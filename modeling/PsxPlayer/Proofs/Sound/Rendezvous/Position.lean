import PsxPlayer.Proofs.Sound.Rendezvous.Step

namespace PsxPlayer

/-!
# The positions of the rendezvous

The two processes are always in one of a few joint positions: between requests, with
a request in its channel, in the worker's hands or acknowledged, or past the
acknowledged shutdown.  In each of them it is known what the channels hold and how
far the worker has come with what the link, seen as one, would have done.
-/

/-- Carry out a call of the link as one. -/
def SoundLink.perform
    {σ : Type}
    [SampleSink σ] :
    LinkCall → EStateM Fault (SoundLink σ) Unit
  | .request message => SoundLink.request message
  | .close => SoundLink.close

namespace SoundLink

variable {σ : Type} [SampleSink σ]

/-- What the owner of a link sees that serves every call as one. -/
inductive Shows (first : SoundLink σ) : List LinkDeed → SoundLink σ → Prop
  | nothing : Shows first [] first
  | accessed
      {deeds : List LinkDeed}
      {link : SoundLink σ}
      (shows : Shows first deeds link)
      (change : SoundProcessor → SoundProcessor) :
      Shows first (deeds ++ [.accessed change]) (link.modifySound change)
  | returned
      {deeds : List LinkDeed}
      {link next : SoundLink σ}
      {call : LinkCall}
      (shows : Shows first deeds link)
      (result : perform call link = .ok () next) :
      Shows first (deeds ++ [.answered call (.ok ())]) next
  | failed
      {deeds : List LinkDeed}
      {link next : SoundLink σ}
      {call : LinkCall}
      {fault : Fault}
      (shows : Shows first deeds link)
      (result : perform call link = .error fault next) :
      Shows first (deeds ++ [.answered call (.error fault)]) next

/-- A link that has been closed stays closed. -/
theorem Shows.phase_of_answered_close
    {first link : SoundLink σ}
    {deeds : List LinkDeed}
    (shows : Shows first deeds link)
    {answer : Except Fault Unit}
    (member : .answered .close answer ∈ deeds) :
    link.phase = .closed := by
  have closes {call : LinkCall} {link : SoundLink σ}
      (closed : link.phase = .closed ∨ call = .close) :
      (stateAfter (perform call) link).phase = .closed := by
    obtain ⟨worker, phase⟩ := link
    rcases closed with rfl | rfl
    · cases call <;> rfl
    · cases phase <;> rfl
  induction shows with
  | nothing => nomatch member
  | accessed shows change inductionHypothesis =>
      rcases List.mem_append.mp member with earlier | isLast
      · exact inductionHypothesis earlier
      · cases List.mem_singleton.mp isLast
  | @returned deeds link next call shows result inductionHypothesis =>
      have after : stateAfter (perform call) link = next := by
        simp only [stateAfter, EStateM.run, result]
      rw [← after]
      rcases List.mem_append.mp member with earlier | isLast
      · exact closes (.inl (inductionHypothesis earlier))
      · cases List.mem_singleton.mp isLast
        exact closes (.inr rfl)
  | @failed deeds link next call fault shows result inductionHypothesis =>
      have after : stateAfter (perform call) link = next := by
        simp only [stateAfter, EStateM.run, result]
      rw [← after]
      rcases List.mem_append.mp member with earlier | isLast
      · exact closes (.inl (inductionHypothesis earlier))
      · cases List.mem_singleton.mp isLast
        exact closes (.inr rfl)

end SoundLink

namespace SoundWorker

variable {σ : Type} [SampleSink σ]

/-- A request is served by mixing its frames and completing it. -/
theorem complete_mix (worker : SoundWorker σ) (request : SoundRequest) :
    (mix request.frames worker).complete request = worker.serve request := by
  cases request <;> rfl

end SoundWorker

namespace WorkerControl

/-- Whether the worker has left its loop. -/
def hasLeft : WorkerControl → Bool
  | .leaving | .deaf | .ended => true
  | _ => false

/-- Whether the worker still has the channel of requests. -/
def listens : WorkerControl → Bool
  | .deaf | .ended => false
  | _ => true

/-- Where the worker may be once it has acknowledged a request. -/
inductive Follows : WorkerControl → SoundRequest → Prop
  | receiving
      {request : SoundRequest}
      (goesOn : request ≠ .shutdown) :
      Follows .receiving request
  | left
      {control : WorkerControl}
      {request : SoundRequest}
      (stops : request = .shutdown)
      (hasLeft : control.hasLeft = true) :
      Follows control request

theorem hasLeft_leaving : leaving.hasLeft = true :=
  rfl

theorem hasLeft_deaf : deaf.hasLeft = true :=
  rfl

theorem hasLeft_ended : ended.hasLeft = true :=
  rfl

end WorkerControl

namespace Rendezvous

variable {σ : Type} [SampleSink σ]

/-- A handle with nothing under way. -/
inductive Quiet : HandleControl → Bool → Prop
  | idle : Quiet .idle true
  | sending (call : LinkCall) : Quiet (.sending call) call.staysAttached

/-- A handle past the acknowledged shutdown, with the worker that it has left. -/
inductive Closing (link : SoundLink σ) : HandleControl → Bool → SoundWorker σ → Prop
  | idle (phase : link.phase = .ended) : Closing link .idle true link.worker
  | closed (phase : link.phase = .closed) : Closing link .idle false link.worker
  | sending
      (phase : link.phase = .ended)
      (call : LinkCall) :
      Closing link (.sending call) call.staysAttached link.worker
  | waiting
      (phase : link.phase = .ended)
      (call : LinkCall)
      (number : Nat) :
      Closing link (.waiting call number) call.staysAttached link.worker
  | undelivered (phase : link.phase = .ended) :
      Closing link (.joining false) false link.worker
  | delivered (phase : link.phase = .serving) :
      Closing link (.joining true) false (link.worker.serve .shutdown)

/-- No request is a shutdown. -/
def GoesOn (sent : List SentRequest) : Prop :=
  ∀ request, request ∈ sent → request.request ≠ .shutdown

theorem GoesOn.append
    {done : List SentRequest}
    (goesOn : GoesOn done)
    {sent : SentRequest}
    (stays : sent.request ≠ .shutdown) :
    GoesOn (done ++ [sent]) := by
  intro request member
  rcases List.mem_append.mp member with earlier | isLast
  · exact goesOn request earlier
  · obtain rfl := List.mem_singleton.mp isLast
    exact stays

/-- The request of a call behind those sent before. -/
def sentBehind (before : List SentRequest) (call : LinkCall) : SentRequest :=
  ⟨before.length, call.message⟩

/-- A request that nobody will receive, if there is one. -/
inductive Unheard : HandleControl → WorkerControl → List SentRequest → Prop
  | none (handle : HandleControl) (control : WorkerControl) : Unheard handle control []
  | one
      (call : LinkCall)
      (number : Nat)
      (sent : SentRequest) :
      Unheard (.waiting call number) .leaving [sent]

/-- The joint positions, by what the link as one is after the calls that have returned. -/
inductive Position (link : SoundLink σ) : Rendezvous σ → Prop
  /-- Nothing is under way. -/
  | quiet
      {handle : HandleControl}
      {isAttached : Bool}
      {done : List SentRequest}
      {deeds : List LinkDeed}
      (phase : link.phase = .serving)
      (goesOn : GoesOn done)
      (quiet : Quiet handle isAttached) :
      Position link
        ⟨handle, isAttached, ⟨1, [], true⟩, ⟨1, [], true⟩, .receiving, link.worker,
          done, done, done, deeds⟩
  /-- A request is in its channel. -/
  | requested
      {call : LinkCall}
      {done : List SentRequest}
      {deeds : List LinkDeed}
      (phase : link.phase = .serving)
      (goesOn : GoesOn done) :
      Position link
        ⟨.waiting call done.length, call.staysAttached, ⟨1, [sentBehind done call], true⟩,
          ⟨1, [], true⟩, .receiving, link.worker,
          done ++ [sentBehind done call], done, done, deeds⟩
  /-- The worker serves a request. -/
  | serving
      {call : LinkCall}
      {left : Nat}
      {worker : SoundWorker σ}
      {done : List SentRequest}
      {deeds : List LinkDeed}
      (phase : link.phase = .serving)
      (goesOn : GoesOn done)
      (rest :
        (SoundWorker.mix left worker).complete call.message =
          link.worker.serve call.message) :
      Position link
        ⟨.waiting call done.length, call.staysAttached, ⟨1, [], true⟩, ⟨1, [], true⟩,
          .serving (sentBehind done call) left, worker,
          done ++ [sentBehind done call], done, done, deeds⟩
  /-- The worker has served a request. -/
  | acknowledging
      {call : LinkCall}
      {done : List SentRequest}
      {deeds : List LinkDeed}
      (phase : link.phase = .serving)
      (goesOn : GoesOn done) :
      Position link
        ⟨.waiting call done.length, call.staysAttached, ⟨1, [], true⟩, ⟨1, [], true⟩,
          .acknowledging (sentBehind done call), link.worker.serve call.message,
          done ++ [sentBehind done call], done ++ [sentBehind done call], done, deeds⟩
  /-- An acknowledgment is in its channel. -/
  | acknowledged
      {call : LinkCall}
      {control : WorkerControl}
      {done : List SentRequest}
      {deeds : List LinkDeed}
      (phase : link.phase = .serving)
      (goesOn : GoesOn done)
      (follows : control.Follows call.message) :
      Position link
        ⟨.waiting call done.length, call.staysAttached, ⟨1, [], control.listens⟩,
          ⟨1, [done.length], true⟩, control, link.worker.serve call.message,
          done ++ [sentBehind done call], done ++ [sentBehind done call], done, deeds⟩
  /-- A shutdown has been acknowledged. -/
  | finished
      {handle : HandleControl}
      {isAttached : Bool}
      {waiting : List SentRequest}
      {control : WorkerControl}
      {worker : SoundWorker σ}
      {before issued : List SentRequest}
      {last : SentRequest}
      {deeds : List LinkDeed}
      (goesOn : GoesOn before)
      (shutdown : last.request = .shutdown)
      (isPrefix : before ++ [last] <+: issued)
      (hasLeft : control.hasLeft = true)
      (closing : Closing link handle isAttached worker)
      (unheard : Unheard handle control waiting) :
      Position link
        ⟨handle, isAttached, ⟨1, waiting, control.listens⟩, ⟨1, [], true⟩, control,
          worker, issued, before ++ [last], before ++ [last], deeds⟩

namespace Position

variable {link : SoundLink σ} {state next : Rendezvous σ}

/-- The first position. -/
theorem start (sound : SoundProcessor) (sink : σ) (ringFrames : Nat) :
    Position (SoundLink.start sound sink ringFrames)
      (Rendezvous.start sound sink ringFrames) :=
  .quiet rfl (fun _ member => nomatch member) .idle

/-- A step of the worker changes nothing that the owner sees. -/
theorem advanceWorker
    (position : Position link state)
    (advanced : state.advanceWorker? = some next) :
    Position link next := by
  cases position with
  | quiet phase goesOn quiet => nomatch advanced
  | @requested call done deeds phase goesOn =>
      cases advanced
      exact .serving phase goesOn (link.worker.complete_mix call.message)
  | @serving call left worker done deeds phase goesOn rest =>
      cases left with
      | zero =>
          cases advanced
          rw [show worker.complete (sentBehind done call).request = _ from rest]
          exact .acknowledging phase goesOn
      | succ left =>
          cases advanced
          exact .serving phase goesOn rest
  | @acknowledging call done deeds phase goesOn =>
      cases advanced
      by_cases stops : call.message = .shutdown
      · rw [show (sentBehind done call).request = .shutdown from stops, if_pos rfl]
        exact .acknowledged phase goesOn (.left stops WorkerControl.hasLeft_leaving)
      · rw [if_neg (show (sentBehind done call).request ≠ .shutdown from stops)]
        exact .acknowledged phase goesOn (.receiving stops)
  | @acknowledged call control done deeds phase goesOn follows =>
      cases follows with
      | receiving goesOn => nomatch advanced
      | left stops hasLeft =>
          cases control <;> cases hasLeft <;> cases advanced
          · exact .acknowledged phase goesOn (.left stops WorkerControl.hasLeft_deaf)
          · exact .acknowledged phase goesOn (.left stops WorkerControl.hasLeft_ended)
  | @finished handle isAttached waiting control worker before issued last deeds goesOn
      shutdown isPrefix hasLeft closing unheard =>
      cases control <;> cases hasLeft <;> cases advanced
      · exact .finished goesOn shutdown isPrefix WorkerControl.hasLeft_deaf closing (.none _ _)
      · cases unheard
        exact
          .finished goesOn shutdown isPrefix WorkerControl.hasLeft_ended closing (.none _ _)

/-- A call whose request nobody serves fails, as it does for the link as one. -/
theorem finished_conclude
    {first : SoundLink σ}
    {call : LinkCall}
    {control : WorkerControl}
    {before issued : List SentRequest}
    {last : SentRequest}
    {deeds : List LinkDeed}
    (handle : HandleControl)
    (phase : link.phase = .ended)
    (goesOn : GoesOn before)
    (shutdown : last.request = .shutdown)
    (isPrefix : before ++ [last] <+: issued)
    (hasLeft : control.hasLeft = true)
    (shows : first.Shows deeds link) :
    let concluded : Rendezvous σ :=
      conclude
        ⟨handle, call.staysAttached, ⟨1, [], control.listens⟩, ⟨1, [], true⟩, control,
          link.worker, issued, before ++ [last], before ++ [last], deeds⟩
        call false
    ∃ later, Position later concluded ∧ first.Shows concluded.deeds later := by
  cases call with
  | request message =>
      have failed : SoundLink.request message link = .error .workerGone link := by
        obtain ⟨worker, linkPhase⟩ := link
        cases phase
        rfl
      exact
        ⟨link, .finished goesOn shutdown isPrefix hasLeft (.idle phase) (.none _ _),
          shows.failed failed⟩
  | close =>
      exact
        ⟨link, .finished goesOn shutdown isPrefix hasLeft (.undelivered phase) (.none _ _),
          shows⟩

/-- A step of the handle shows the owner what the link as one would. -/
theorem advanceHandle
    {first : SoundLink σ}
    (position : Position link state)
    (shows : first.Shows state.deeds link)
    (advanced : state.advanceHandle? = some next) :
    ∃ later, Position later next ∧ first.Shows next.deeds later := by
  cases position with
  | @quiet handle isAttached done deeds phase goesOn quiet =>
      cases quiet with
      | idle => nomatch advanced
      | sending call =>
          cases advanced
          exact ⟨link, .requested phase goesOn, shows⟩
  | requested phase goesOn => nomatch advanced
  | serving phase goesOn rest => nomatch advanced
  | acknowledging phase goesOn => nomatch advanced
  | @acknowledged call control done deeds phase goesOn follows =>
      obtain ⟨worker, linkPhase⟩ := link
      cases phase
      cases call with
      | request message =>
          cases advanced
          refine
            ⟨⟨worker.serve message, SoundLink.phaseAfter message⟩, ?_, shows.returned rfl⟩
          cases follows with
          | receiving stays =>
              refine .quiet (if_neg stays) (goesOn.append stays) .idle
          | left stops hasLeft =>
              cases stops
              exact .finished goesOn rfl (List.prefix_refl _) hasLeft (.idle rfl) (.none _ _)
      | close =>
          cases advanced
          cases follows with
          | receiving stays => exact absurd rfl stays
          | left stops hasLeft =>
              exact
                ⟨_, .finished goesOn rfl (List.prefix_refl _) hasLeft (.delivered rfl)
                  (.none _ _), shows⟩
  | @finished handle isAttached waiting control worker before issued last deeds goesOn
      shutdown isPrefix hasLeft closing unheard =>
      cases closing with
      | idle phase => nomatch advanced
      | closed phase => nomatch advanced
      | sending phase call =>
          cases unheard
          cases control <;> cases hasLeft
          · cases advanced
            exact
              ⟨_, .finished goesOn shutdown (isPrefix.trans (List.prefix_append _ _)) rfl
                (.waiting phase call _) (.one _ _ _), shows⟩
          · cases advanced
            exact
              finished_conclude _ phase goesOn shutdown isPrefix WorkerControl.hasLeft_deaf
                shows
          · cases advanced
            exact
              finished_conclude _ phase goesOn shutdown isPrefix WorkerControl.hasLeft_ended
                shows
      | waiting phase call number =>
          cases control <;> cases hasLeft
          · nomatch advanced
          · nomatch advanced
          · cases advanced
            cases unheard
            exact
              finished_conclude _ phase goesOn shutdown isPrefix WorkerControl.hasLeft_ended
                shows
      | undelivered phase =>
          cases control <;> cases hasLeft <;> cases advanced
          cases unheard
          obtain ⟨worker, linkPhase⟩ := link
          cases phase
          exact
            ⟨⟨worker, .closed⟩, .finished goesOn shutdown isPrefix WorkerControl.hasLeft_ended
              (.closed rfl) (.none _ _), shows.failed rfl⟩
      | delivered phase =>
          cases control <;> cases hasLeft <;> cases advanced
          cases unheard
          obtain ⟨worker, linkPhase⟩ := link
          cases phase
          exact
            ⟨⟨worker.serve .shutdown, .closed⟩, .finished goesOn shutdown isPrefix
              WorkerControl.hasLeft_ended (.closed rfl) (.none _ _), shows.returned rfl⟩

/-- A call begins, or returns as the closed link does. -/
theorem enter
    {first : SoundLink σ}
    (position : Position link state)
    (shows : first.Shows state.deeds link)
    (isIdle : state.handle = .idle)
    (call : LinkCall) :
    ∃ later,
      Position later (state.enter call) ∧ first.Shows (state.enter call).deeds later := by
  cases position with
  | quiet phase goesOn quiet =>
      cases isIdle
      cases quiet
      exact ⟨link, .quiet phase goesOn (.sending call), shows⟩
  | finished goesOn shutdown isPrefix hasLeft closing unheard =>
      cases isIdle
      cases closing with
      | idle phase =>
          cases unheard
          exact
            ⟨link, .finished goesOn shutdown isPrefix hasLeft (.sending phase call)
              (.none _ _), shows⟩
      | closed phase =>
          obtain ⟨worker, linkPhase⟩ := link
          cases phase
          cases call with
          | request message =>
              exact
                ⟨⟨worker, .closed⟩, .finished goesOn shutdown isPrefix hasLeft (.closed rfl)
                  unheard, shows.failed rfl⟩
          | close =>
              exact
                ⟨⟨worker, .closed⟩, .finished goesOn shutdown isPrefix hasLeft (.closed rfl)
                  unheard, shows.returned rfl⟩
  | requested phase goesOn => nomatch isIdle
  | serving phase goesOn rest => nomatch isIdle
  | acknowledging phase goesOn => nomatch isIdle
  | acknowledged phase goesOn follows => nomatch isIdle

/-- The owner changes the sound processor of the link as one. -/
theorem access
    (position : Position link state)
    (isIdle : state.handle = .idle)
    (change : SoundProcessor → SoundProcessor) :
    Position (link.modifySound change)
        { state with
          worker := state.worker.modifySound change
          deeds := state.deeds ++ [.accessed change] } := by
  obtain ⟨worker, linkPhase⟩ := link
  cases position with
  | quiet phase goesOn quiet =>
      cases phase
      exact .quiet rfl goesOn quiet
  | finished goesOn shutdown isPrefix hasLeft closing unheard =>
      cases isIdle
      cases closing with
      | idle phase =>
          cases phase
          exact .finished goesOn shutdown isPrefix hasLeft (.idle rfl) unheard
      | closed phase =>
          cases phase
          exact .finished goesOn shutdown isPrefix hasLeft (.closed rfl) unheard
  | requested phase goesOn => nomatch isIdle
  | serving phase goesOn rest => nomatch isIdle
  | acknowledging phase goesOn => nomatch isIdle
  | acknowledged phase goesOn follows => nomatch isIdle

end Position

/-- The rendezvous is in a position that the link as one accounts for. -/
def Mirrors (first : SoundLink σ) (state : Rendezvous σ) : Prop :=
  ∃ link, Position link state ∧ first.Shows state.deeds link

/-- Whatever happens, the position stays accounted for. -/
theorem Happens.mirrors
    {first : SoundLink σ}
    {state next : Rendezvous σ}
    {move : RendezvousMove}
    (happens : Happens state move next)
    (mirrors : Mirrors first state) :
    Mirrors first next := by
  obtain ⟨link, position, shows⟩ := mirrors
  cases happens with
  | nothing => exact ⟨link, position, shows⟩
  | enter isIdle call => exact position.enter shows isIdle call
  | access isIdle change => exact ⟨_, position.access isIdle change, shows.accessed change⟩
  | handle advanced => exact position.advanceHandle shows advanced
  | worker advanced =>
      exact
        ⟨link, position.advanceWorker advanced,
          (workerKeeps_advance advanced).deeds ▸ shows⟩

/-- Moves keep the position accounted for. -/
theorem Mirrors.run
    {first : SoundLink σ}
    {state : Rendezvous σ}
    (mirrors : Mirrors first state)
    (moves : List RendezvousMove) :
    Mirrors first (state.run moves) := by
  induction moves generalizing state with
  | nil => exact mirrors
  | cons move rest inductionHypothesis =>
      exact inductionHypothesis ((happens_step state move).mirrors mirrors)

end Rendezvous

end PsxPlayer
