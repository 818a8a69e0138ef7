import Mathlib.Algebra.GroupWithZero.Nat
import PsxPlayer.Proofs.Sound.Coherence
import PsxPlayer.Sound.Link

namespace PsxPlayer

/-!
# From requests to blocks

The worker gathers frames in its ring, and a ring may be filled by many requests or
flushed many times within one.  The sink it will have filled once it is shut down is
foreseen from its ring and from the samples still to be heard: cutting these into
blocks behind the ring gives every block yet to be written.  Serving a request
changes what the worker has done but not what is foreseen.
-/

/-- A call of a sink. -/
inductive SinkCall where
  | write (block : Block)
  | finish
  deriving DecidableEq, Repr

namespace SinkCall

variable {σ : Type} [SampleSink σ]

/-- A sink after a call, whether that failed or not. -/
def deliver (sink : σ) : SinkCall → σ
  | .write block => stateAfter (SampleSink.write block) sink
  | .finish => stateAfter SampleSink.finish sink

/-- A sink after calls one after the other. -/
def deliverAll (sink : σ) (calls : List SinkCall) : σ :=
  calls.foldl deliver sink

end SinkCall

/-- A sink that notes every call and fails each time. -/
structure RefusingSink where
  calls : List SinkCall
  deriving DecidableEq, Repr

instance : SampleSink RefusingSink where
  write block := fun sink => .error .wave ⟨sink.calls ++ [.write block]⟩
  finish := fun sink => .error .wave ⟨sink.calls ++ [.finish]⟩

namespace RefusingSink

/-- Nothing escapes a refusing sink. -/
theorem deliverAll_calls (sink : RefusingSink) (calls : List SinkCall) :
    (SinkCall.deliverAll sink calls).calls = sink.calls ++ calls := by
  induction calls generalizing sink with
  | nil => exact (List.append_nil _).symm
  | cons call rest inductionHypothesis =>
      refine (inductionHypothesis (SinkCall.deliver sink call)).trans ?_
      cases call <;> exact List.append_assoc _ _ _

end RefusingSink

namespace Block

/--
Cut samples into blocks of `size` behind a block that has been begun.  What is left
at the end makes a shorter block.
-/
def cut (size : Nat) : Block → List Int → List Block
  | begun, [] => if begun.isEmpty then [] else [begun]
  | begun, sample :: rest =>
      let next := begun.push sample
      if size ≤ next.size then next :: cut size #[] rest else cut size next rest

/-- Cutting loses nothing, repeats nothing and keeps the order. -/
theorem cut_flatMap_toList
    (size : Nat)
    (begun : Block)
    (samples : List Int) :
    (cut size begun samples).flatMap Array.toList = begun.toList ++ samples := by
  fun_induction cut size begun samples with
  | case1 begun isEmpty =>
      rw [Array.isEmpty_iff] at isEmpty
      simp [isEmpty]
  | case2 begun notEmpty => simp
  | case3 begun sample rest next isFull inductionHypothesis =>
      simp [inductionHypothesis, next]
  | case4 begun sample rest next hasRoom inductionHypothesis =>
      simp [inductionHypothesis, next]

/-- No block is empty or too long. -/
theorem size_of_mem_cut
    {size : Nat}
    {begun : Block}
    {samples : List Int}
    {block : Block}
    (hasRoom : begun.size < size)
    (member : block ∈ cut size begun samples) :
    0 < block.size ∧ block.size ≤ size := by
  fun_induction cut size begun samples with
  | case1 begun isEmpty => nomatch member
  | case2 begun notEmpty =>
      obtain rfl := List.mem_singleton.mp member
      rw [Array.isEmpty_iff_size_eq_zero] at notEmpty
      omega
  | case3 begun sample rest next isFull inductionHypothesis =>
      have grown : next.size = begun.size + 1 := Array.size_push _
      rcases List.mem_cons.mp member with rfl | later
      · omega
      · exact inductionHypothesis (by simp; omega) later
  | case4 begun sample rest next notFull inductionHypothesis =>
      exact inductionHypothesis (by omega) member

/-- Every block but the last is full. -/
theorem size_of_mem_dropLast_cut
    {size : Nat}
    {begun : Block}
    {samples : List Int}
    {block : Block}
    (hasRoom : begun.size < size)
    (member : block ∈ (cut size begun samples).dropLast) :
    block.size = size := by
  fun_induction cut size begun samples with
  | case1 begun isEmpty => nomatch member
  | case2 begun notEmpty => nomatch member
  | case3 begun sample rest next isFull inductionHypothesis =>
      have grown : next.size = begun.size + 1 := Array.size_push _
      cases following : cut size #[] rest with
      | nil => simp [following] at member
      | cons second others =>
          rw [following, List.dropLast_cons_cons, ← following] at member
          rcases List.mem_cons.mp member with rfl | later
          · omega
          · exact inductionHypothesis (by simp; omega) later
  | case4 begun sample rest next notFull inductionHypothesis =>
      exact inductionHypothesis (by omega) member

/-- A block with room for one more sample is not cut before the second. -/
theorem cut_pair
    {size : Nat}
    {begun : Block}
    (hasRoom : begun.size + 1 < size)
    (left right : Int)
    (rest : List Int) :
    let next := (begun.push left).push right
    cut size begun (left :: right :: rest) =
      if size ≤ next.size then next :: cut size #[] rest else cut size next rest := by
  have notFull : ¬ size ≤ (begun.push left).size := by
    rw [Array.size_push]
    omega
  rw [cut, if_neg notFull, cut]

end Block

namespace SoundProcessor

/-- The samples that a command brings out, left before right. -/
def output (sound : SoundProcessor) : Command → List Int
  | .mixFrame => [sound.mixFrame.1.left, sound.mixFrame.1.right]
  | _ => []

/-- The samples that commands bring out one after the other. -/
def heard (sound : SoundProcessor) : List Command → List Int
  | [] => []
  | command :: rest => sound.output command ++ heard (sound.obey command) rest

end SoundProcessor

namespace SoundRequest

open SoundProcessor (Command)

/-- What a request asks of the sound processor, frame by frame. -/
def commands : SoundRequest → List Command
  | .samples count => List.replicate count .mixFrame
  | .noteOn voice => [.keyOn voice]
  | .noteOff voice => [.keyOff voice]
  | .overrideLoop voice => [.overrideLoop voice]
  | .shutdown => []

/-- A run of frames may be asked for in parts. -/
theorem commands_samples_add (first second : Nat) :
    (samples (first + second)).commands =
      (samples first).commands ++ (samples second).commands :=
  List.replicate_append_replicate.symm

end SoundRequest

namespace SoundWorker

open SoundProcessor (Command)

variable {σ : Type} [SampleSink σ]

/-- Serve requests one after the other. -/
def serveAll (worker : SoundWorker σ) (requests : List SoundRequest) : SoundWorker σ :=
  requests.foldl serve worker

/-- The sink after commands have been carried out and the worker has been shut down. -/
def foreseen (worker : SoundWorker σ) (commands : List Command) : σ :=
  SinkCall.deliverAll worker.sink
    ((Block.cut (2 * worker.ringFrames) worker.ring (worker.sound.heard commands)).map
        .write ++
      [.finish])

omit [SampleSink σ] in
/-- Whole frames are in the ring, and it has room for one more. -/
structure HasRoom (worker : SoundWorker σ) : Prop where
  wholeFrames : worker.ring.size % 2 = 0
  room : worker.ring.size < 2 * worker.ringFrames

/-- Work that does what commands say and leaves the worker ready for more. -/
structure Performs (before after : SoundWorker σ) (commands : List Command) : Prop where
  hasRoom : after.HasRoom
  sameRing : after.ringFrames = before.ringFrames
  sound : after.sound = before.sound.obeyAll commands
  foreseen : ∀ rest, after.foreseen rest = before.foreseen (commands ++ rest)

namespace Performs

theorem refl {worker : SoundWorker σ} (hasRoom : worker.HasRoom) :
    Performs worker worker [] where
  hasRoom := hasRoom
  sameRing := rfl
  sound := rfl
  foreseen _ := rfl

theorem trans
    {before between after : SoundWorker σ}
    {first second : List Command}
    (firstDone : Performs before between first)
    (secondDone : Performs between after second) :
    Performs before after (first ++ second) where
  hasRoom := secondDone.hasRoom
  sameRing := secondDone.sameRing.trans firstDone.sameRing
  sound := by
    rw [secondDone.sound, firstDone.sound, SoundProcessor.obeyAll_append]
  foreseen rest := by
    rw [secondDone.foreseen, firstDone.foreseen, List.append_assoc]

end Performs

/-- Handing over a ring that is not empty is one call of the sink. -/
theorem flush_of_ring_ne_empty
    {worker : SoundWorker σ}
    (notEmpty : worker.ring ≠ #[]) :
    worker.flush =
      { worker with
        sink := SinkCall.deliver worker.sink (.write worker.ring)
        ring := #[] } := by
  obtain ⟨sound, sink, ring, ringFrames, frames⟩ := worker
  exact if_neg (by simpa using notEmpty)

/-- Mixing a frame puts it behind those in the ring and cuts off a full ring. -/
theorem performs_mixOne {worker : SoundWorker σ} (hasRoom : worker.HasRoom) :
    Performs worker worker.mixOne [.mixFrame] := by
  obtain ⟨wholeFrames, room⟩ := hasRoom
  let next := (worker.ring.push worker.sound.mixFrame.1.left).push
    worker.sound.mixFrame.1.right
  have mixed :
      worker.mixIntoRing =
        { worker with sound := worker.sound.mixFrame.2, ring := next } := rfl
  have grown : next.size = worker.ring.size + 2 := by simp [next]
  have heard (rest : List Command) :
      Block.cut (2 * worker.ringFrames) worker.ring
          (worker.sound.heard (.mixFrame :: rest)) =
        let later := worker.sound.mixFrame.2.heard rest
        if 2 * worker.ringFrames ≤ next.size then
          next :: Block.cut (2 * worker.ringFrames) #[] later
        else
          Block.cut (2 * worker.ringFrames) next later :=
    Block.cut_pair (by omega) _ _ _
  by_cases isFull : 2 * worker.ringFrames ≤ next.size
  · have done :
        worker.mixOne =
          { worker with
            sound := worker.sound.mixFrame.2
            sink := SinkCall.deliver worker.sink (.write next)
            ring := #[] } := by
      unfold mixOne
      rw [mixed, if_pos (by simp only; omega)]
      exact flush_of_ring_ne_empty (Array.ne_empty_of_size_pos (by simp only; omega))
    rw [done]
    refine ⟨⟨rfl, by simp only [Array.size_empty]; omega⟩, rfl, rfl, fun rest => ?_⟩
    simp only [foreseen, List.singleton_append, heard, if_pos isFull]
    rfl
  · have done :
        worker.mixOne =
          { worker with sound := worker.sound.mixFrame.2, ring := next } := by
      unfold mixOne
      rw [mixed, if_neg (by simp only; omega)]
    rw [done]
    refine ⟨⟨by simp only; omega, by simp only; omega⟩, rfl, rfl, fun rest => ?_⟩
    simp only [foreseen, List.singleton_append, heard, if_neg isFull]

/-- Mixing frames puts them behind one another. -/
theorem performs_mix
    {worker : SoundWorker σ}
    (hasRoom : worker.HasRoom)
    (count : Nat) :
    Performs worker (mix count worker) (List.replicate count .mixFrame) := by
  induction count generalizing worker with
  | zero => exact .refl hasRoom
  | succ count inductionHypothesis =>
      have first := performs_mixOne hasRoom
      exact first.trans (inductionHypothesis first.hasRoom)

/-- A change of the sound processor that may be refused leaves the ring alone. -/
theorem performs_attempt
    {worker : SoundWorker σ}
    (hasRoom : worker.HasRoom)
    (change : SoundProcessor → Except Fault SoundProcessor)
    (command : Command)
    (obeyed : worker.sound.obey command = worker.sound.accept (change worker.sound))
    (silent : worker.sound.output command = []) :
    Performs worker (worker.attempt change) [command] := by
  have done :
      worker.attempt change =
        { worker with sound := worker.sound.accept (change worker.sound) } := by
    unfold attempt SoundProcessor.accept
    cases change worker.sound <;> rfl
  rw [done, ← obeyed]
  refine ⟨⟨hasRoom.wholeFrames, hasRoom.room⟩, rfl, rfl, fun rest => ?_⟩
  simp only [foreseen, List.singleton_append, SoundProcessor.heard, silent,
    List.nil_append]

/-- Serving a request does what it asks of the sound processor. -/
theorem performs_serve
    {worker : SoundWorker σ}
    (hasRoom : worker.HasRoom)
    {request : SoundRequest}
    (goesOn : request ≠ .shutdown) :
    Performs worker (worker.serve request) request.commands := by
  cases request with
  | samples count =>
      obtain ⟨⟨wholeFrames, room⟩, sameRing, sound, foreseen⟩ :=
        performs_mix hasRoom count
      exact ⟨⟨wholeFrames, room⟩, sameRing, sound, foreseen⟩
  | noteOn voice =>
      exact performs_attempt hasRoom (·.keyOn voice) (.keyOn voice) rfl rfl
  | noteOff voice =>
      exact performs_attempt hasRoom (·.keyOff voice) (.keyOff voice) rfl rfl
  | overrideLoop voice =>
      exact performs_attempt hasRoom (·.overrideLoop voice) (.overrideLoop voice) rfl rfl
  | shutdown => exact absurd rfl goesOn

/-- Serving requests does what they ask of the sound processor, in order. -/
theorem performs_serveAll
    {worker : SoundWorker σ}
    (hasRoom : worker.HasRoom)
    {requests : List SoundRequest}
    (goesOn : ∀ request, request ∈ requests → request ≠ .shutdown) :
    Performs worker (worker.serveAll requests)
      (requests.flatMap SoundRequest.commands) := by
  induction requests generalizing worker with
  | nil => exact .refl hasRoom
  | cons request rest inductionHypothesis =>
      obtain ⟨firstGoesOn, restGoesOn⟩ := List.forall_mem_cons.mp goesOn
      have served := performs_serve hasRoom firstGoesOn
      exact served.trans (inductionHypothesis served.hasRoom restGoesOn)

/-- A shutdown brings about the sink that was foreseen, and changes no sound. -/
theorem serve_shutdown (worker : SoundWorker σ) :
    (worker.serve .shutdown).sink = worker.foreseen [] ∧
      (worker.serve .shutdown).sound = worker.sound := by
  simp only [serve, finish, foreseen, SoundProcessor.heard, Block.cut]
  by_cases isEmpty : worker.ring = #[]
  · simp [flush, isEmpty, SinkCall.deliverAll, SinkCall.deliver]
  · rw [flush_of_ring_ne_empty isEmpty, if_neg (by simpa using isEmpty)]
    exact ⟨rfl, rfl⟩

/-- Requests and a shutdown bring about the sink that was foreseen before them. -/
theorem serveAll_shutdown
    {worker : SoundWorker σ}
    (hasRoom : worker.HasRoom)
    {requests : List SoundRequest}
    (goesOn : ∀ request, request ∈ requests → request ≠ .shutdown) :
    let ended := worker.serveAll (requests ++ [.shutdown])
    let commands := requests.flatMap SoundRequest.commands
    ended.sink = worker.foreseen commands ∧
      ended.sound = worker.sound.obeyAll commands := by
  intro ended commands
  have performs := performs_serveAll hasRoom goesOn
  have last : ended = (worker.serveAll requests).serve .shutdown := List.foldl_append
  obtain ⟨sink, sound⟩ := serve_shutdown (worker.serveAll requests)
  rw [last, sink, sound, performs.foreseen, performs.sound, List.append_nil]
  exact ⟨rfl, rfl⟩

/-- Handing over the ring mixes nothing. -/
theorem flush_frames (worker : SoundWorker σ) : worker.flush.frames = worker.frames := by
  obtain ⟨sound, sink, ring, ringFrames, frames⟩ := worker
  change SoundWorker.frames (if ring.isEmpty then _ else _) = frames
  split <;> rfl

/-- Mixing frames leaves the meter to the request that asks for them. -/
theorem mix_frames (count : Nat) (worker : SoundWorker σ) :
    (mix count worker).frames = worker.frames := by
  induction count generalizing worker with
  | zero => rfl
  | succ count inductionHypothesis =>
      refine (inductionHypothesis worker.mixOne).trans ?_
      simp only [mixOne]
      split
      · exact flush_frames _
      · rfl

/-- The meter goes up by the frames that a request asks for. -/
theorem serve_frames (worker : SoundWorker σ) (request : SoundRequest) :
    (worker.serve request).frames = worker.frames + request.frames := by
  have attempted (change : SoundProcessor → Except Fault SoundProcessor) :
      (worker.attempt change).frames = worker.frames := by
    unfold attempt
    split <;> rfl
  cases request with
  | samples count => exact congrArg (· + count) (mix_frames count worker)
  | noteOn voice => exact attempted _
  | noteOff voice => exact attempted _
  | overrideLoop voice => exact attempted _
  | shutdown => exact flush_frames worker

/-- The meter goes up by the frames that requests ask for. -/
theorem serveAll_frames (worker : SoundWorker σ) (requests : List SoundRequest) :
    (worker.serveAll requests).frames =
      worker.frames + (requests.map SoundRequest.frames).sum := by
  induction requests generalizing worker with
  | nil => rfl
  | cons request rest inductionHypothesis =>
      refine (inductionHypothesis (worker.serve request)).trans ?_
      rw [serve_frames, List.map_cons, List.sum_cons, Nat.add_assoc]

end SoundWorker

namespace SoundLink

variable {σ : Type} [SampleSink σ]

/-- Send requests, each after the one before has been served. -/
def requestAll : List SoundRequest → EStateM Fault (SoundLink σ) Unit
  | [] => pure ()
  | first :: rest => do
      SoundLink.request first
      requestAll rest

/-- Requests behind others are sent to the link that these have left. -/
theorem requestAll_append
    {first second : List SoundRequest}
    {link between : SoundLink σ}
    (done : requestAll first link = .ok () between) :
    requestAll (first ++ second) link = requestAll second between := by
  induction first generalizing link with
  | nil =>
      cases done
      rfl
  | cons request rest inductionHypothesis =>
      simp only [requestAll, List.cons_append, bind, EStateM.bind] at done ⊢
      cases asked : SoundLink.request request link with
      | ok _ served =>
          rw [asked] at done
          exact inductionHypothesis done
      | error fault failed =>
          rw [asked] at done
          nomatch done

/-- As long as none of them is a shutdown, all requests are served. -/
theorem requestAll_serving
    (worker : SoundWorker σ)
    {requests : List SoundRequest}
    (goesOn : ∀ request, request ∈ requests → request ≠ .shutdown) :
    requestAll requests ⟨worker, .serving⟩ =
      .ok () ⟨worker.serveAll requests, .serving⟩ := by
  induction requests generalizing worker with
  | nil => rfl
  | cons request rest inductionHypothesis =>
      obtain ⟨firstGoesOn, restGoesOn⟩ := List.forall_mem_cons.mp goesOn
      have served :
          SoundLink.request request ⟨worker, .serving⟩ =
            .ok () ⟨worker.serve request, .serving⟩ := by
        simp only [SoundLink.request, phaseAfter, if_neg firstGoesOn]
      simp only [requestAll, bind, EStateM.bind, served]
      exact inductionHypothesis (worker.serve request) restGoesOn

/-- Requests are served up to and with the first shutdown. -/
theorem requestAll_of_isPrefix
    (worker : SoundWorker σ)
    {requests earlier : List SoundRequest}
    (goesOn : ∀ request, request ∈ requests → request ≠ .shutdown)
    (isPrefix : earlier <+: requests ++ [.shutdown]) :
    ∃ phase,
      requestAll earlier ⟨worker, .serving⟩ =
        .ok () ⟨worker.serveAll earlier, phase⟩ := by
  rcases List.prefix_concat_iff.mp isPrefix with rfl | inRequests
  · refine ⟨.ended, ?_⟩
    rw [requestAll_append (requestAll_serving worker goesOn)]
    simp only [SoundWorker.serveAll, List.foldl_append]
    rfl
  · have stillGoesOn (request : SoundRequest) (member : request ∈ earlier) :
        request ≠ .shutdown :=
      goesOn request (inRequests.mem member)
    exact ⟨.serving, requestAll_serving worker stillGoesOn⟩

/-- Closing the handle after requests has the worker serve a shutdown. -/
theorem close_requestAll
    (worker : SoundWorker σ)
    {requests : List SoundRequest}
    (goesOn : ∀ request, request ∈ requests → request ≠ .shutdown) :
    (do requestAll requests; close) ⟨worker, .serving⟩ =
      .ok () ⟨worker.serveAll (requests ++ [.shutdown]), .closed⟩ := by
  simp only [bind, EStateM.bind, requestAll_serving worker goesOn, SoundWorker.serveAll,
    List.foldl_append]
  rfl

end SoundLink

end PsxPlayer
