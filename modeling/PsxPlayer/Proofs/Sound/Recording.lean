import PsxPlayer.Proofs.Sound.Worker
import PsxPlayer.Proofs.TwoRuns

namespace PsxPlayer

/-!
# What has been recorded

All samples that a worker has mixed are on its tape or still in its ring.  Neither has a
part in what the worker mixes next: workers with one sound processor mix the same,
whatever they have recorded before.
-/

/-- What a worker has put out, and what it holds back to be put out. -/
structure Recording where
  tape : Tape
  ring : Block
  ringFrames : Nat
  frames : Nat

/-- All samples of a recording, in order. -/
def Recording.samples (recording : Recording) : List Int :=
  recording.tape.samples.toList ++ recording.ring.toList

/-- A block goes behind those that have been recorded. -/
theorem Tape.samples_append (tape : Tape) (block : Block) :
    (tape.append block).samples = tape.samples ++ block := by
  have whole (blocks : Array Block) : blocks.extract 0 blocks.size = blocks :=
    Array.extract_size
  rw [samples, samples, samplesFrom, samplesFrom, whole, whole, append, Array.foldl_push]

namespace SoundWorker

/-- What the worker has recorded. -/
def recording (worker : SoundWorker Tape) : Recording :=
  ⟨worker.sink, worker.ring, worker.ringFrames, worker.frames⟩

/-- Handing over the ring moves samples from the ring to the tape. -/
theorem samples_flush (worker : SoundWorker Tape) :
    worker.flush.recording.samples = worker.recording.samples := by
  by_cases isEmpty : worker.ring = #[]
  · simp [flush, isEmpty, recording]
  · rw [flush_of_ring_ne_empty isEmpty]
    have handedOver :
        SinkCall.deliver worker.sink (.write worker.ring) = worker.sink.append worker.ring :=
      rfl
    simp [Recording.samples, recording, handedOver, Tape.samples_append]

theorem sound_flush (worker : SoundWorker Tape) : worker.flush.sound = worker.sound := by
  by_cases isEmpty : worker.ring = #[]
  · simp [flush, isEmpty]
  · rw [flush_of_ring_ne_empty isEmpty]

theorem mixOne_records (worker : SoundWorker Tape) :
    worker.mixOne.sound = worker.sound.mixFrame.2 ∧
      worker.mixOne.recording.samples =
        worker.recording.samples ++
          [worker.sound.mixFrame.1.left, worker.sound.mixFrame.1.right] := by
  have mixed :
      worker.mixIntoRing.recording.samples =
        worker.recording.samples ++
          [worker.sound.mixFrame.1.left, worker.sound.mixFrame.1.right] := by
    simp [mixIntoRing, recording, Recording.samples]
  simp only [mixOne]
  split
  · exact ⟨sound_flush _, (samples_flush _).trans mixed⟩
  · exact ⟨rfl, mixed⟩

theorem serve_records (worker : SoundWorker Tape) (request : SoundRequest) :
    (worker.serve request).sound = worker.sound.obeyAll request.commands ∧
      (worker.serve request).recording.samples =
        worker.recording.samples ++ worker.sound.heard request.commands := by
  have mixed (count : Nat) (worker : SoundWorker Tape) :
      (mix count worker).sound =
          worker.sound.obeyAll (List.replicate count .mixFrame) ∧
        (mix count worker).recording.samples =
          worker.recording.samples ++
            worker.sound.heard (List.replicate count .mixFrame) := by
    induction count generalizing worker with
    | zero => exact ⟨rfl, (List.append_nil _).symm⟩
    | succ count inductionHypothesis =>
        obtain ⟨sound, samples⟩ := worker.mixOne_records
        obtain ⟨soundAfter, samplesAfter⟩ := inductionHypothesis worker.mixOne
        rw [samples, sound, List.append_assoc] at samplesAfter
        rw [sound] at soundAfter
        exact ⟨soundAfter, samplesAfter⟩
  have attempted
      (change : SoundProcessor → Except Fault SoundProcessor) :
      (worker.attempt change).sound = worker.sound.accept (change worker.sound) ∧
        (worker.attempt change).recording.samples = worker.recording.samples ++ [] := by
    rw [List.append_nil]
    unfold attempt SoundProcessor.accept
    cases change worker.sound <;> exact ⟨rfl, rfl⟩
  cases request with
  | samples count => exact mixed count worker
  | noteOn voice => exact attempted _
  | noteOff voice => exact attempted _
  | overrideLoop voice => exact attempted _
  | shutdown =>
      exact ⟨sound_flush worker, (samples_flush worker).trans (List.append_nil _).symm⟩

end SoundWorker

namespace SoundLink

/-- All samples that the worker has mixed. -/
def recorded (link : SoundLink Tape) : List Int :=
  link.worker.recording.samples

/-- The link with another recording. -/
def withRecording (link : SoundLink Tape) (recording : Recording) : SoundLink Tape :=
  ⟨⟨link.worker.sound, recording.tape, recording.ring, recording.ringFrames,
    recording.frames⟩, link.phase⟩

/--
The first link is like the second, but had recorded `past` when the second had recorded
nothing.
-/
structure Follows (past : List Int) (first second : SoundLink Tape) : Prop where
  phase : first.phase = second.phase
  sound : first.sound = second.sound
  recorded : first.recorded = past ++ second.recorded

variable {past : List Int}

theorem follows_withRecording
    {link : SoundLink Tape}
    {recording : Recording}
    (recorded : recording.samples = past ++ link.recorded) :
    Follows past (link.withRecording recording) link :=
  ⟨rfl, rfl, recorded⟩

/-- Links that are alike differ in their recording only. -/
theorem Follows.exists_withRecording
    {first second : SoundLink Tape}
    (follows : Follows past first second) :
    ∃ recording : Recording,
      first = second.withRecording recording ∧
        recording.samples = past ++ second.recorded := by
  obtain ⟨⟨sound, tape, ring, ringFrames, frames⟩, phase⟩ := first
  obtain ⟨⟨sameSound, _, _, _, _⟩, samePhase⟩ := second
  obtain rfl : phase = samePhase := follows.phase
  obtain rfl : sound = sameSound := follows.sound
  exact ⟨⟨tape, ring, ringFrames, frames⟩, rfl, follows.recorded⟩

/-- What is mixed does not depend on what has been recorded before. -/
theorem Follows.serve
    {first second : SoundWorker Tape}
    {phase : LinkPhase}
    (follows : Follows past ⟨first, phase⟩ ⟨second, phase⟩)
    (request : SoundRequest)
    (after : LinkPhase) :
    Follows past ⟨first.serve request, after⟩ ⟨second.serve request, after⟩ := by
  have sameSound : first.sound = second.sound := follows.sound
  have recordedBefore : first.recording.samples = past ++ second.recording.samples :=
    follows.recorded
  obtain ⟨firstSound, firstSamples⟩ := first.serve_records request
  obtain ⟨secondSound, secondSamples⟩ := second.serve_records request
  rw [sameSound] at firstSound firstSamples
  rw [recordedBefore, List.append_assoc] at firstSamples
  exact
    ⟨rfl, firstSound.trans secondSound.symm,
      firstSamples.trans (congrArg (past ++ ·) secondSamples.symm)⟩

theorem respects_request (request : SoundRequest) :
    Respects (Follows past) (SoundLink.request request) := by
  rintro ⟨first, phase⟩ ⟨second, samePhase⟩ follows
  obtain rfl : phase = samePhase := follows.phase
  cases phase with
  | serving => exact .ok () (follows.serve request _)
  | ended => exact .error .workerGone follows
  | closed => exact .error .workerGone follows

theorem respects_close : Respects (Follows past) (close : EStateM Fault (SoundLink Tape) Unit) := by
  rintro ⟨first, phase⟩ ⟨second, samePhase⟩ follows
  obtain rfl : phase = samePhase := follows.phase
  cases phase with
  | serving => exact .ok () (follows.serve .shutdown .closed)
  | ended => exact .error .workerGone ⟨rfl, follows.sound, follows.recorded⟩
  | closed => exact .ok () follows

theorem respects_synthesize (periods : Nat) :
    Respects (Follows past)
      (SamplePacer.synthesize periods : EStateM Fault (SoundLink Tape) Unit) :=
  .ite (.pure ()) (respects_request _)

end SoundLink

end PsxPlayer
