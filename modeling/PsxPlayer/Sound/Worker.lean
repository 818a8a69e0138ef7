import PsxPlayer.Audio.Sink
import PsxPlayer.Sound.Processor

namespace PsxPlayer

/-!
# Sound worker

The worker owns the sound processor and a sink. It serves one request at a time:
it mixes frames into a ring, hands every full ring to the sink, and starts and
releases notes. A sink that fails does not stop it.
-/

/-- Work for the sound worker. -/
inductive SoundRequest where
  /-- Mix this many frames. -/
  | samples (count : Nat)
  /-- Start a note. -/
  | noteOn (voice : Nat)
  /-- Release a note. -/
  | noteOff (voice : Nat)
  /-- Make a voice go on at its loop address register. -/
  | overrideLoop (voice : Nat)
  /-- Hand over what is left and end. -/
  | shutdown
  deriving DecidableEq, Repr

/-- The frames that a request asks for. -/
def SoundRequest.frames : SoundRequest → Nat
  | .samples count => count
  | _ => 0

/-- The worker's state. -/
structure SoundWorker (σ : Type) where
  sound : SoundProcessor
  sink : σ
  /-- Samples that are not yet a full ring. -/
  ring : Block
  /-- Frames in a full ring. -/
  ringFrames : Nat
  /-- Frames mixed so far. -/
  frames : Nat

namespace SoundWorker

variable {σ : Type}

/-- Rings have fewer frames than this: a frame takes four of less than 2 ^ 63 bytes. -/
def ringBound : Nat := 0x2000000000000000

/-- A worker that has done nothing; a ring holds one frame at least. -/
def start (sound : SoundProcessor) (sink : σ) (ringFrames : Nat) : SoundWorker σ where
  sound := sound
  sink := sink
  ring := #[]
  ringFrames := max ringFrames 1
  frames := 0

/-- Change the sound processor. -/
@[inline]
def modifySound
    (worker : SoundWorker σ)
    (change : SoundProcessor → SoundProcessor) :
    SoundWorker σ :=
  match worker with
  | ⟨sound, sink, ring, ringFrames, frames⟩ =>
      ⟨change sound, sink, ring, ringFrames, frames⟩

/-- Change the sound processor unless the change is refused. -/
def attempt
    (worker : SoundWorker σ)
    (change : SoundProcessor → Except Fault SoundProcessor) :
    SoundWorker σ :=
  match change worker.sound with
  | .ok sound => { worker with sound := sound }
  | .error _ => worker

variable [SampleSink σ]

/-- Hand what is in the ring to the sink. -/
def flush (worker : SoundWorker σ) : SoundWorker σ :=
  match worker with
  | ⟨sound, sink, ring, ringFrames, frames⟩ =>
      if ring.isEmpty then
        ⟨sound, sink, ring, ringFrames, frames⟩
      else
        ⟨sound, stateAfter (SampleSink.write ring) sink, #[], ringFrames, frames⟩

/-- Mix one frame into the ring. -/
def mixIntoRing (worker : SoundWorker σ) : SoundWorker σ :=
  match worker with
  | ⟨sound, sink, ring, ringFrames, frames⟩ =>
      let (frame, sound) := sound.mixFrame
      ⟨sound, sink, (ring.push frame.left).push frame.right, ringFrames, frames⟩

/-- Mix one frame, and hand over the ring when it is full. -/
def mixOne (worker : SoundWorker σ) : SoundWorker σ :=
  let worker := worker.mixIntoRing
  if worker.ring.size ≥ worker.ringFrames * 2 then worker.flush else worker

/-- Mix `count` frames. -/
def mix : Nat → SoundWorker σ → SoundWorker σ
  | 0, worker => worker
  | count + 1, worker => mix count worker.mixOne

/-- Tell the sink that no more blocks follow. -/
def finish (worker : SoundWorker σ) : SoundWorker σ :=
  { worker with sink := stateAfter SampleSink.finish worker.sink }

/-- Serve one request. A request for a voice that does not exist changes nothing. -/
def serve (worker : SoundWorker σ) : SoundRequest → SoundWorker σ
  | .samples count =>
      let worker := mix count worker
      { worker with frames := worker.frames + count }
  | .noteOn voice => worker.attempt fun sound => sound.keyOn voice
  | .noteOff voice => worker.attempt fun sound => sound.keyOff voice
  | .overrideLoop voice => worker.attempt fun sound => sound.overrideLoop voice
  | .shutdown => worker.flush.finish

/-- What is left of a request once its frames have been mixed. -/
def complete (worker : SoundWorker σ) : SoundRequest → SoundWorker σ
  | .samples count => { worker with frames := worker.frames + count }
  | request => worker.serve request

end SoundWorker

end PsxPlayer
