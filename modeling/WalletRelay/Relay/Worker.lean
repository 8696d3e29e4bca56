import WalletRelay.Relay.Basic

/-!
# The worker

A worker owns a relay and serves its queue, one call after another. It stops when it is cancelled or
when its queue is empty and nobody can add to it. When both a cancellation and a call are waiting,
either may be seen first.

Serving a call takes time. The worker takes the call from the queue, looks at the focus, carries the
call out and delivers its outcome; while it waits for the device or for the sink, calls may be added,
the focus may change and the worker may be cancelled. Nobody else touches the keyrings or the sink, so
what a call does to them is one event, at the end of the call.

`Worker.step?` says what each event does where it can happen, so a run of the worker is any sequence of
events that can happen one after another.
-/

namespace WalletRelay

/-- What a worker is doing. -/
inductive WorkerPhase where
  /-- It waits for a call, or for a reason to stop. -/
  | waiting
  /-- It serves a call; `focused` tells whether the relay was in focus when the call was taken. -/
  | serving (q : CallRequest) (focused : Bool)
  | stopped

/-- A worker with its queue, its relay and its sink. -/
structure Worker (σ τ : Type) where
  relay : Relay σ
  sink : τ
  /-- The calls that wait, in order. -/
  queue : List CallRequest
  /-- Whether calls can still be added. -/
  acceptsCalls : Bool
  /-- Whether the worker has been told to stop. -/
  isCancelled : Bool
  phase : WorkerPhase

/-- What can happen around a worker. -/
inductive WorkerEvent where
  /-- A call is added to the queue. -/
  | enqueue (q : CallRequest)
  /-- Everybody who could add calls is gone. -/
  | closeQueue
  /-- The focus is set. -/
  | setFocused (focused : Bool)
  /-- The worker is told to stop. -/
  | cancel
  /-- The worker takes the first call of the queue and looks at the focus. -/
  | take
  /-- The call that is being served ends: it is carried out and its outcome delivered. -/
  | finish
  /-- The worker sees that it is cancelled and stops. -/
  | stopCancelled
  /-- The worker sees that no call will come any more and stops. -/
  | stopFinished

namespace Worker

variable {σ τ : Type}

def start (relay : Relay σ) (sink : τ) : Worker σ τ where
  relay := relay
  sink := sink
  queue := []
  acceptsCalls := true
  isCancelled := false
  phase := .waiting

def isRunning (w : Worker σ τ) : Bool :=
  match w.phase with
  | .stopped => false
  | _ => true

/-- The end of a call. A call that was taken out of focus is passed over; a delivery that fails is not
repeated. -/
def complete (ds : ByKind (Device σ)) (sink : Sink τ) (w : Worker σ τ) (q : CallRequest)
    (focused : Bool) : Worker σ τ :=
  if focused then
    let (answer, relay) := w.relay.execute ds q
    let (_, s) := sink.deliver (Relay.outcomeOf q.promiseId answer) w.sink
    { w with relay, sink := s, phase := .waiting }
  else { w with phase := .waiting }

/-- The worker after an event, if the event can happen. -/
def step? (ds : ByKind (Device σ)) (sink : Sink τ) (w : Worker σ τ) :
    WorkerEvent → Option (Worker σ τ)
  | .enqueue q =>
    if w.acceptsCalls && w.isRunning then some { w with queue := w.queue ++ [q] } else none
  | .closeQueue => some { w with acceptsCalls := false }
  | .setFocused focused => some { w with relay := (w.relay.setFocused focused).2 }
  | .cancel => some { w with isCancelled := true }
  | .take =>
    match w.phase, w.queue with
    | .waiting, q :: queue => some { w with queue, phase := .serving q w.relay.gate.isFocused }
    | _, _ => none
  | .finish =>
    match w.phase with
    | .serving q focused => some (w.complete ds sink q focused)
    | _ => none
  | .stopCancelled =>
    match w.phase, w.isCancelled with
    | .waiting, true => some { w with phase := .stopped }
    | _, _ => none
  | .stopFinished =>
    match w.phase, w.queue, w.acceptsCalls with
    | .waiting, [], false => some { w with phase := .stopped }
    | _, _, _ => none

/-- The worker after a sequence of events, if they can happen one after another. -/
def run? (ds : ByKind (Device σ)) (sink : Sink τ) (w : Worker σ τ) (events : List WorkerEvent) :
    Option (Worker σ τ) :=
  events.foldlM (step? ds sink) w

/-- The events in which some calls are queued and served and the worker then stops: because it is
cancelled, or because the queue is closed. -/
def schedule (calls : List CallRequest) (cancelled : Bool) : List WorkerEvent :=
  calls.map .enqueue ++ calls.flatMap (fun _ => [.take, .finish]) ++
    if cancelled then [.cancel, .stopCancelled] else [.closeQueue, .stopFinished]

end Worker
end WalletRelay
