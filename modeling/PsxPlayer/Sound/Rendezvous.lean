import PsxPlayer.Audio.Channel
import PsxPlayer.Sound.Link

namespace PsxPlayer

/-!
# Rendezvous

The handle and the worker as two processes that take turns in any order.  Requests
go from the handle to the worker through one channel and acknowledgments back through
another; each has room for one message.  The handle waits for the acknowledgment
before it returns to its owner, and the owner looks at the sound processor only
between calls.

The state keeps a record of what has happened.  Requests are numbered for it in the
order in which they are sent, and an acknowledgment bears the number of its request.
-/

/-- A call of the handle. -/
inductive LinkCall where
  | request (request : SoundRequest)
  /-- Stop the worker and wait for its end. -/
  | close
  deriving DecidableEq, Repr

namespace LinkCall

/-- The request that a call sends. -/
def message : LinkCall → SoundRequest
  | .request message => message
  | .close => .shutdown

/-- Whether the handle keeps its worker during a call. -/
def staysAttached : LinkCall → Bool
  | .request _ => true
  | .close => false

end LinkCall

/-- A request that has been sent. -/
structure SentRequest where
  number : Nat
  request : SoundRequest
  deriving DecidableEq, Repr

/-- Where the handle stands in a call. -/
inductive HandleControl where
  /-- Between calls. -/
  | idle
  /-- About to send the request of a call. -/
  | sending (call : LinkCall)
  /-- Waiting for the acknowledgment of a request. -/
  | waiting (call : LinkCall) (number : Nat)
  /-- Waiting for the worker to end. -/
  | joining (delivered : Bool)
  deriving DecidableEq, Repr

/-- Where the worker stands in its loop. -/
inductive WorkerControl where
  /-- About to receive a request. -/
  | receiving
  /-- Serving a request; of a request for frames, `left` are still to be mixed. -/
  | serving (sent : SentRequest) (left : Nat)
  /-- About to acknowledge a request. -/
  | acknowledging (sent : SentRequest)
  /-- Out of the loop, with both channels. -/
  | leaving
  /-- Out of the loop, without the channel of requests. -/
  | deaf
  /-- Ended, without channels. -/
  | ended
  deriving DecidableEq, Repr

/-- What the owner of the handle sees happen, one after the other. -/
inductive LinkDeed where
  /-- The owner has changed the sound processor. -/
  | accessed (change : SoundProcessor → SoundProcessor)
  /-- A call has returned. -/
  | answered (call : LinkCall) (answer : Except Fault Unit)

/-- The two processes, their channels and the record. -/
structure Rendezvous (σ : Type) where
  handle : HandleControl
  /-- Whether the handle has not been closed. -/
  isAttached : Bool
  requests : Channel SentRequest
  acknowledgments : Channel Nat
  control : WorkerControl
  worker : SoundWorker σ
  /-- Requests that the channel has accepted. -/
  issued : List SentRequest
  /-- Requests that the worker has served. -/
  served : List SentRequest
  /-- Requests whose acknowledgment has been received. -/
  acknowledged : List SentRequest
  deeds : List LinkDeed

/-- One of the two processes. -/
inductive LinkProcess where
  | handle
  | worker
  deriving DecidableEq, Repr

/-- What may happen next. -/
inductive RendezvousMove where
  /-- The owner calls the handle. -/
  | call (call : LinkCall)
  /-- The owner changes the sound processor. -/
  | access (change : SoundProcessor → SoundProcessor)
  /-- A process takes its next step. -/
  | advance (process : LinkProcess)

namespace Rendezvous

variable {σ : Type}

/-- Before the first call. -/
def start (sound : SoundProcessor) (sink : σ) (ringFrames : Nat) : Rendezvous σ where
  handle := .idle
  isAttached := true
  requests := .ofCapacity _ 1
  acknowledgments := .ofCapacity _ 1
  control := .receiving
  worker := .start sound sink ringFrames
  issued := []
  served := []
  acknowledged := []
  deeds := []

/-- Return from a call. -/
def answer
    (state : Rendezvous σ)
    (call : LinkCall)
    (answer : Except Fault Unit) :
    Rendezvous σ :=
  { state with
    handle := .idle
    deeds := state.deeds ++ [.answered call answer] }

/-- Begin a call; without a worker it returns at once. -/
def enter (state : Rendezvous σ) (call : LinkCall) : Rendezvous σ :=
  if state.isAttached then
    { state with
      handle := .sending call
      isAttached := call.staysAttached }
  else
    match call with
    | .request _ => state.answer call (.error .workerGone)
    | .close => state.answer call (.ok ())

/-- Go on after the acknowledgment of a request, or when none can come any more. -/
def conclude
    (state : Rendezvous σ)
    (call : LinkCall)
    (delivered : Bool) :
    Rendezvous σ :=
  match call with
  | .request _ => state.answer call (if delivered then .ok () else .error .workerGone)
  | .close => { state with handle := .joining delivered }

/-- The next step of the handle, if it need not wait. -/
def advanceHandle? (state : Rendezvous σ) : Option (Rendezvous σ) :=
  match state.handle with
  | .idle => none
  | .sending call =>
      let sent : SentRequest := ⟨state.issued.length, call.message⟩
      match state.requests.send sent with
      | .accepted requests =>
          some
            { state with
              handle := .waiting call sent.number
              requests := requests
              issued := state.issued ++ [sent] }
      | .full => none
      | .refused => some (state.conclude call false)
  | .waiting call _ =>
      match state.acknowledgments.receive? with
      | (some number, acknowledgments) =>
          let received : SentRequest := ⟨number, call.message⟩
          let state :=
            { state with
              acknowledgments := acknowledgments
              acknowledged := state.acknowledged ++ [received] }
          some (state.conclude call true)
      | (none, _) =>
          if state.control = .ended then some (state.conclude call false) else none
  | .joining delivered =>
      if state.control = .ended then
        some (state.answer .close (if delivered then .ok () else .error .workerGone))
      else
        none

variable [SampleSink σ]

/-- The next step of the worker, if it need not wait. -/
def advanceWorker? (state : Rendezvous σ) : Option (Rendezvous σ) :=
  match state.control with
  | .receiving =>
      match state.requests.receive? with
      | (some sent, requests) =>
          some
            { state with
              requests := requests
              control := .serving sent sent.request.frames }
      | (none, _) => none
  | .serving sent (left + 1) =>
      some
        { state with
          control := .serving sent left
          worker := state.worker.mixOne }
  | .serving sent 0 =>
      some
        { state with
          control := .acknowledging sent
          worker := state.worker.complete sent.request
          served := state.served ++ [sent] }
  | .acknowledging sent =>
      match state.acknowledgments.send sent.number with
      | .accepted acknowledgments =>
          some
            { state with
              acknowledgments := acknowledgments
              control := if sent.request = .shutdown then .leaving else .receiving }
      | .full => none
      | .refused => some { state with control := .leaving }
  | .leaving =>
      some
        { state with
          requests := state.requests.close
          control := .deaf }
  | .deaf => some { state with control := .ended }
  | .ended => none

/-- The next step of a process, if it need not wait. -/
def advance? (state : Rendezvous σ) : LinkProcess → Option (Rendezvous σ)
  | .handle => state.advanceHandle?
  | .worker => state.advanceWorker?

/-- What happens on a move; one that is not possible changes nothing. -/
def step (state : Rendezvous σ) : RendezvousMove → Rendezvous σ
  | .call call =>
      if state.handle = .idle then state.enter call else state
  | .access change =>
      if state.handle = .idle then
        { state with
          worker := state.worker.modifySound change
          deeds := state.deeds ++ [.accessed change] }
      else
        state
  | .advance process => (state.advance? process).getD state

/-- What happens on moves one after the other. -/
def run (state : Rendezvous σ) (moves : List RendezvousMove) : Rendezvous σ :=
  moves.foldl step state

end Rendezvous

end PsxPlayer
