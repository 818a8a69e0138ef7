import PsxPlayer.Counter
import PsxPlayer.Sound.Worker

namespace PsxPlayer

/-!
# Sound link

The processor's handle of the sound worker. A request is sent and waited for, so
that the worker is idle whenever the processor looks at the sound registers.
After a shutdown every request fails and changes nothing.
-/

/-- How the handle stands to its worker. -/
inductive LinkPhase where
  /-- The worker serves requests. -/
  | serving
  /-- The worker has ended on request, but the handle has not been closed. -/
  | ended
  /-- The handle has been closed. -/
  | closed
  deriving DecidableEq, Repr

/-- The worker as its handle sees it. -/
structure SoundLink (σ : Type) where
  worker : SoundWorker σ
  phase : LinkPhase

namespace SoundLink

variable {σ : Type}

/-- Start a worker. -/
def start (sound : SoundProcessor) (sink : σ) (ringFrames : Nat) : SoundLink σ :=
  ⟨.start sound sink ringFrames, .serving⟩

/-- Whether the handle has not been closed. -/
def isRunning (link : SoundLink σ) : Bool :=
  link.phase != .closed

/-- The sound processor. -/
def sound (link : SoundLink σ) : SoundProcessor :=
  link.worker.sound

/-- Frames mixed so far. -/
def frames (link : SoundLink σ) : Nat :=
  link.worker.frames

/-- Change the sound processor between requests. -/
@[inline]
def modifySound
    (link : SoundLink σ)
    (change : SoundProcessor → SoundProcessor) :
    SoundLink σ :=
  match link with
  | ⟨worker, phase⟩ => ⟨worker.modifySound change, phase⟩

variable [SampleSink σ]

/-- The phase of a serving worker after a request. -/
def phaseAfter (request : SoundRequest) : LinkPhase :=
  if request = .shutdown then .ended else .serving

/-- Send a request and wait until it has been served. -/
def request (request : SoundRequest) : EStateM Fault (SoundLink σ) Unit := fun link =>
  match link with
  | ⟨worker, .serving⟩ => .ok () ⟨worker.serve request, phaseAfter request⟩
  | ⟨worker, phase⟩ => .error .workerGone ⟨worker, phase⟩

/--
Stop the worker; doing so again changes nothing. It fails if the worker has ended
before.
-/
def close : EStateM Fault (SoundLink σ) Unit := fun link =>
  match link with
  | ⟨worker, .serving⟩ => .ok () ⟨worker.serve .shutdown, .closed⟩
  | ⟨worker, .ended⟩ => .error .workerGone ⟨worker, .closed⟩
  | ⟨worker, .closed⟩ => .ok () ⟨worker, .closed⟩

/-- The link after it has been closed, whether that failed or not. -/
def shutdown (link : SoundLink σ) : SoundLink σ :=
  stateAfter close link

end SoundLink

/-- The worker mixes one frame for each sample period. -/
instance {σ : Type} [SampleSink σ] : SamplePacer (SoundLink σ) where
  synthesize periods :=
    if periods = 0 then
      pure ()
    else
      SoundLink.request (.samples periods)

end PsxPlayer
