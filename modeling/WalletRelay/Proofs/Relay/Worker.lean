import Mathlib.Data.List.Induction
import WalletRelay.Proofs.Relay.Run
import WalletRelay.Relay.Worker

/-!
# The worker serves its queue in order

Calls come in, the focus moves and the worker is cancelled at any time, also while a call is being
served. Nothing of this shows in what the worker does: `Worker.Serves` says that the sink and the
keyrings are those of a relay that is asked for some calls one after another, each in the focus in which
it was taken from the queue, and that these calls, the one being served and the queue are together the
calls that came in.

`Serves` is kept by each step (`Serves.step`), so it holds after every run. `serves_in_order` adds what
is known of a worker that has stopped, and that a run in which the worker is cancelled is a run without
the cancellation, as far as calls are concerned.
-/

namespace WalletRelay

variable {σ τ : Type}

/-! ### What a sequence of events tells -/

namespace WorkerEvent

def enqueued (events : List WorkerEvent) : List CallRequest :=
  events.filterMap fun
    | .enqueue q => some q
    | _ => none

/-- The focus after some events: what was set last, or else what it was before. -/
def focusAfter (focused : Bool) : List WorkerEvent → Bool
  | [] => focused
  | .setFocused f :: events => focusAfter f events
  | _ :: events => focusAfter focused events

/-- The focus at each time when a call is taken from the queue. -/
def focusWhenTaken (focused : Bool) : List WorkerEvent → List Bool
  | [] => []
  | .setFocused f :: events => focusWhenTaken f events
  | .take :: events => focused :: focusWhenTaken focused events
  | _ :: events => focusWhenTaken focused events

/-- Whether an event cancels the worker, or stops it for that reason. -/
def isCancellation : WorkerEvent → Bool
  | .cancel | .stopCancelled => true
  | _ => false

theorem enqueued_append (before after : List WorkerEvent) :
    enqueued (before ++ after) = enqueued before ++ enqueued after :=
  List.filterMap_append

theorem focusAfter_append (focused : Bool) (before after : List WorkerEvent) :
    focusAfter focused (before ++ after) = focusAfter (focusAfter focused before) after := by
  induction before generalizing focused with
  | nil => rfl
  | cons event before ih => cases event <;> exact ih _

/-- The later calls are taken in the focus that the earlier events have left. -/
theorem focusWhenTaken_append (focused : Bool) (before after : List WorkerEvent) :
    focusWhenTaken focused (before ++ after) =
      focusWhenTaken focused before ++ focusWhenTaken (focusAfter focused before) after := by
  induction before generalizing focused with
  | nil => rfl
  | cons event before ih =>
    cases event with
    | take => exact congrArg (focused :: ·) (ih focused)
    | _ => exact ih _

end WorkerEvent

/-! ### One call after another -/

namespace Relay

def inTurn (calls : List (CallRequest × Bool)) : List RelayEvent :=
  calls.flatMap fun (q, focused) => [.focus focused, .call q]

theorem inTurn_append (calls later : List (CallRequest × Bool)) :
    inTurn (calls ++ later) = inTurn calls ++ inTurn later :=
  List.flatMap_append

variable {ds : ByKind (Device σ)}

/-- Carrying out a request does not look at the focus. -/
theorem execute_with_gate (ds : ByKind (Device σ)) (r : Relay σ) (gate : FocusGate) (q : CallRequest) :
    ({ r with gate } : Relay σ).execute ds q =
      ((r.execute ds q).1, { (r.execute ds q).2 with gate }) := by
  unfold execute
  split <;> rfl

/-- A call out of focus only moves the focus. -/
theorem run_inTurn_out_of_focus (r : Relay σ) (q : CallRequest) :
    r.run ds (inTurn [(q, false)]) = ([], { r with gate := ⟨false⟩ }) := rfl

/-- A call in focus is carried out. -/
theorem run_inTurn_in_focus (r : Relay σ) (q : CallRequest) :
    r.run ds (inTurn [(q, true)]) =
      ([outcomeOf q.promiseId (r.execute ds q).1], { (r.execute ds q).2 with gate := ⟨true⟩ }) := by
  have asked : r.run ds (inTurn [(q, true)]) =
      ((process ds { r with gate := ⟨true⟩ } q).1.toList ++ [],
        (process ds { r with gate := ⟨true⟩ } q).2) := rfl
  rw [asked, process_of_focused rfl, execute_with_gate]
  rfl

end Relay

namespace Worker

open WorkerEvent

/-- The call that is being served, with the focus in which it was taken. -/
def inService (w : Worker σ τ) : List (CallRequest × Bool) :=
  match w.phase with
  | .serving q focused => [(q, focused)]
  | _ => []

/-! ### Steps -/

/-- The steps of a worker: when each event can happen, and what it changes. -/
inductive Step (ds : ByKind (Device σ)) (sink : Sink τ) (w : Worker σ τ) :
    WorkerEvent → Worker σ τ → Prop
  | enqueue (q : CallRequest) :
      w.acceptsCalls = true → w.phase ≠ .stopped →
      Step ds sink w (.enqueue q) { w with queue := w.queue ++ [q] }
  | closeQueue : Step ds sink w .closeQueue { w with acceptsCalls := false }
  | setFocused (focused : Bool) :
      Step ds sink w (.setFocused focused) { w with relay := { w.relay with gate := ⟨focused⟩ } }
  | cancel : Step ds sink w .cancel { w with isCancelled := true }
  | take {q : CallRequest} {queue : List CallRequest} :
      w.phase = .waiting → w.queue = q :: queue →
      Step ds sink w .take { w with queue, phase := .serving q w.relay.gate.isFocused }
  | finish {q : CallRequest} {focused : Bool} :
      w.phase = .serving q focused →
      Step ds sink w .finish (w.complete ds sink q focused)
  | stopCancelled :
      w.phase = .waiting → w.isCancelled = true →
      Step ds sink w .stopCancelled { w with phase := .stopped }
  | stopFinished :
      w.phase = .waiting → w.queue = [] → w.acceptsCalls = false →
      Step ds sink w .stopFinished { w with phase := .stopped }

variable {ds : ByKind (Device σ)} {sink : Sink τ}

/-- A worker is running until it has stopped. -/
theorem isRunning_iff (w : Worker σ τ) : w.isRunning = true ↔ w.phase ≠ .stopped := by
  unfold isRunning
  cases w.phase <;> simp

/-- The step function takes the steps of the relation and no others. -/
theorem step?_eq_some_iff {w w' : Worker σ τ} {event : WorkerEvent} :
    w.step? ds sink event = some w' ↔ w.Step ds sink event w' := by
  constructor
  · intro h
    -- The guards of an event are what its rule asks for.
    cases event with
    | enqueue q =>
      obtain ⟨⟨accepts, running⟩, rfl⟩ : (w.acceptsCalls = true ∧ w.isRunning = true) ∧ _ := by
        simpa [step?] using h
      exact .enqueue q accepts (w.isRunning_iff.1 running)
    | closeQueue => cases h; exact .closeQueue
    | setFocused focused => cases h; exact .setFocused focused
    | cancel => cases h; exact .cancel
    | take =>
      simp only [step?] at h
      split at h
      · next waiting queued => cases h; exact .take waiting queued
      · cases h
    | finish =>
      simp only [step?] at h
      split at h
      · next serving => cases h; exact .finish serving
      · cases h
    | stopCancelled =>
      simp only [step?] at h
      split at h
      · next waiting cancelled => cases h; exact .stopCancelled waiting cancelled
      · cases h
    | stopFinished =>
      simp only [step?] at h
      split at h
      · next waiting queued closed => cases h; exact .stopFinished waiting queued closed
      · cases h
  · intro h
    cases h with
    | enqueue q accepts running => simp [step?, accepts, w.isRunning_iff.2 running]
    | closeQueue | setFocused | cancel => rfl
    | take waiting queued => simp [step?, waiting, queued]
    | finish serving => simp [step?, serving]
    | stopCancelled waiting cancelled => simp [step?, waiting, cancelled]
    | stopFinished waiting queued closed => simp [step?, waiting, queued, closed]

/-- The last event of a run is a step from where the others lead. -/
theorem run?_append_singleton {w w' : Worker σ τ} {events : List WorkerEvent} {event : WorkerEvent} :
    w.run? ds sink (events ++ [event]) = some w' ↔
      ∃ w₁, w.run? ds sink events = some w₁ ∧ w₁.Step ds sink event w' := by
  simp only [run?, List.foldlM_append, List.foldlM_cons, List.foldlM_nil, bind_pure,
    ← step?_eq_some_iff]
  exact Option.bind_eq_some_iff

theorem inService_of_waiting {w : Worker σ τ} (waiting : w.phase = .waiting) : w.inService = [] := by
  simp [inService, waiting]

theorem inService_complete (w : Worker σ τ) (q : CallRequest) (focused : Bool) :
    (w.complete ds sink q focused).inService = [] := by
  cases focused <;> rfl

theorem queue_complete (w : Worker σ τ) (q : CallRequest) (focused : Bool) :
    (w.complete ds sink q focused).queue = w.queue := by
  cases focused <;> rfl

/-! ### The calls that were served -/

/-- After some events, the worker has served `calls`, each with the focus in which it was taken. -/
structure Serves (ds : ByKind (Device σ)) (sink : Sink τ) (relay : Relay σ) (s : τ)
    (events : List WorkerEvent) (w : Worker σ τ) (calls : List (CallRequest × Bool)) : Prop where
  /-- No call is lost, repeated or moved. -/
  queued : enqueued events = calls.map Prod.fst ++ w.inService.map Prod.fst ++ w.queue
  /-- Each call has the focus that was current when it was taken. -/
  taken : focusWhenTaken relay.gate.isFocused events =
    calls.map Prod.snd ++ w.inService.map Prod.snd
  /-- The sink was given the outcomes of these calls and nothing else. -/
  delivered : w.sink = sink.deliverAll s (relay.run ds (Relay.inTurn calls)).1
  /-- Keyrings and devices are those after these calls. -/
  reached : w.relay = { (relay.run ds (Relay.inTurn calls)).2 with
    gate := ⟨focusAfter relay.gate.isFocused events⟩ }

namespace Serves

variable {relay : Relay σ} {s : τ} {events : List WorkerEvent} {w w' : Worker σ τ}
  {calls : List (CallRequest × Bool)}

/-- The focus is the one that was set last. -/
theorem isFocused (h : Serves ds sink relay s events w calls) :
    w.relay.gate.isFocused = focusAfter relay.gate.isFocused events := by
  rw [h.reached]

/-- The call that ends adds its outcome, if it has one, to what was delivered, and its changes to the
relay. The relay differs from the one after `calls` in the focus only, which the call does not see. -/
theorem complete_reaches (h : Serves ds sink relay s events w calls) (q : CallRequest)
    (focused : Bool) :
    (w.complete ds sink q focused).sink =
        sink.deliverAll s (relay.run ds (Relay.inTurn (calls ++ [(q, focused)]))).1 ∧
      (w.complete ds sink q focused).relay =
        { (relay.run ds (Relay.inTurn (calls ++ [(q, focused)]))).2 with
          gate := ⟨focusAfter relay.gate.isFocused events⟩ } := by
  rw [Relay.inTurn_append, Relay.run_append]
  -- Out of focus, the call is dropped, and nothing is added to what was delivered.
  cases focused with
  | false =>
    rw [Relay.run_inTurn_out_of_focus, List.append_nil]
    exact ⟨h.delivered, h.reached⟩
  | true =>
    have executed := Relay.execute_with_gate ds (relay.run ds (Relay.inTurn calls)).2
      ⟨focusAfter relay.gate.isFocused events⟩ q
    rw [← h.reached] at executed
    rw [Relay.run_inTurn_in_focus, Sink.deliverAll_append, ← h.delivered]
    simp only [Worker.complete, if_pos, executed]
    exact ⟨rfl, trivial⟩

/-- The end of a call: the call that was being served joins the calls that were served. -/
theorem complete {q : CallRequest} {focused : Bool} (h : Serves ds sink relay s events w calls)
    (serving : w.phase = .serving q focused) :
    Serves ds sink relay s (events ++ [.finish]) (w.complete ds sink q focused)
      (calls ++ [(q, focused)]) := by
  have inService : w.inService = [(q, focused)] := by simp [Worker.inService, serving]
  -- The call moves from being served to having been served, so the order stays.
  have queued := h.queued
  have taken := h.taken
  rw [inService] at queued taken
  obtain ⟨delivered, reached⟩ := h.complete_reaches q focused
  refine ⟨?_, ?_, delivered, ?_⟩
  · rw [enqueued_append, queued, inService_complete, queue_complete]
    simp [enqueued]
  · rw [focusWhenTaken_append, taken, inService_complete]
    simp [focusWhenTaken]
  · rw [focusAfter_append]
    exact reached

/-- An event that neither takes nor ends a call and adds none leaves the calls as they are. -/
theorem aside {event : WorkerEvent} (h : Serves ds sink relay s events w calls)
    (enqueues : enqueued [event] = []) (takes : ∀ focused, focusWhenTaken focused [event] = [])
    (inService : w'.inService = w.inService) (queue : w'.queue = w.queue)
    (delivered : w'.sink = w.sink)
    (reached : w'.relay = { w.relay with gate := ⟨focusAfter w.relay.gate.isFocused [event]⟩ }) :
    Serves ds sink relay s (events ++ [event]) w' calls where
  queued := by rw [enqueued_append, enqueues, List.append_nil, inService, queue, h.queued]
  taken := by rw [focusWhenTaken_append, takes, List.append_nil, inService, h.taken]
  delivered := by rw [delivered, h.delivered]
  reached := by rw [reached, focusAfter_append, ← h.isFocused, h.reached]

/-- Every step keeps what the worker has done, and `finish` adds the call that it ends. -/
theorem step {event : WorkerEvent} (h : Serves ds sink relay s events w calls)
    (stepped : w.Step ds sink event w') :
    ∃ calls', Serves ds sink relay s (events ++ [event]) w' calls' := by
  cases stepped with
  | enqueue q =>
    refine ⟨calls, ?_, ?_, h.delivered, ?_⟩
    · rw [enqueued_append, h.queued, List.append_assoc]; rfl
    · rw [focusWhenTaken_append, h.taken]; exact List.append_nil _
    · rw [focusAfter_append]; exact h.reached
  | closeQueue | setFocused | cancel => exact ⟨calls, h.aside rfl (fun _ => rfl) rfl rfl rfl rfl⟩
  | stopCancelled waiting | stopFinished waiting =>
    -- The worker was waiting, so it stops between two calls.
    exact ⟨calls, h.aside rfl (fun _ => rfl) (inService_of_waiting waiting).symm rfl rfl rfl⟩
  | @take q queue waiting front =>
    have queued := h.queued
    have taken := h.taken
    rw [inService_of_waiting waiting] at queued taken
    refine ⟨calls, ?_, ?_, h.delivered, ?_⟩
    · rw [enqueued_append, queued, front]
      simp [enqueued, inService]
    · rw [focusWhenTaken_append, taken, ← h.isFocused]
      simp [focusWhenTaken, inService]
    · rw [focusAfter_append]; exact h.reached
  | finish serving => exact ⟨_, h.complete serving⟩

end Serves

theorem serves_start (ds : ByKind (Device σ)) (sink : Sink τ) (relay : Relay σ) (s : τ) :
    Serves ds sink relay s [] (start relay s) [] :=
  ⟨rfl, rfl, rfl, rfl⟩

/-- After every run, the worker has served some calls in turn. -/
theorem exists_serves_of_run? {relay : Relay σ} {s : τ} {events : List WorkerEvent} {w : Worker σ τ}
    (ran : (start relay s).run? ds sink events = some w) :
    ∃ calls, Serves ds sink relay s events w calls := by
  -- From the last event backwards, so that the worker before it is reached by a shorter run.
  induction events using List.reverseRecOn generalizing w with
  | nil =>
    cases ran
    exact ⟨[], serves_start ds sink relay s⟩
  | append_singleton events event ih =>
    obtain ⟨w₁, ran, stepped⟩ := run?_append_singleton.1 ran
    obtain ⟨calls, served⟩ := ih ran
    exact served.step stepped

/-! ### The end of the queue -/

/-- A worker that has stopped takes no more calls, so its queue stays empty. -/
theorem Step.stays_finished {w w' : Worker σ τ} {event : WorkerEvent} (h : w.Step ds sink event w')
    (stopped : w.phase = .stopped) (queue : w.queue = []) : w'.phase = .stopped ∧ w'.queue = [] := by
  cases h with
  | enqueue _ _ running => exact absurd stopped running
  | closeQueue | setFocused | cancel => exact ⟨stopped, queue⟩
  | take waiting | stopCancelled waiting | stopFinished waiting | finish waiting =>
    rw [stopped] at waiting
    cases waiting

/-- A worker that has stopped at the end of its queue has nothing left. -/
theorem finished_of_run? {w w' : Worker σ τ} {events : List WorkerEvent}
    (ran : w.run? ds sink events = some w') (mem : .stopFinished ∈ events) :
    w'.phase = .stopped ∧ w'.queue = [] := by
  induction events using List.reverseRecOn generalizing w' with
  | nil => cases mem
  | append_singleton events event ih =>
    obtain ⟨w₁, ran, stepped⟩ := run?_append_singleton.1 ran
    rw [List.mem_append, List.mem_singleton] at mem
    -- Either the worker had stopped before, or the last event stops it.
    cases mem with
    | inl before =>
      obtain ⟨stopped, queue⟩ := ih ran before
      exact stepped.stays_finished stopped queue
    | inr last =>
      subst last
      cases stepped with
      | stopFinished _ queue => exact ⟨rfl, queue⟩

/-! ### Without the cancellation -/

/-- What `w₀` does is what `w` does, except that `w` may have been cancelled. -/
structure Uncancelled (w w₀ : Worker σ τ) : Prop where
  relay : w₀.relay = w.relay
  sink : w₀.sink = w.sink
  queue : w₀.queue = w.queue
  acceptsCalls : w₀.acceptsCalls = w.acceptsCalls
  phase : w₀.phase = w.phase ∨ w.phase = .stopped ∧ w₀.phase = .waiting

namespace Uncancelled

variable {w w' w₀ : Worker σ τ} {event : WorkerEvent}

/-- As long as one of the workers runs, they are in the same phase. -/
theorem phase_eq (h : Uncancelled w w₀) (running : w.phase ≠ .stopped) : w₀.phase = w.phase :=
  h.phase.resolve_right fun stopped => running stopped.1

theorem waiting (h : Uncancelled w w₀) (waiting : w.phase = .waiting) : w₀.phase = .waiting := by
  rw [h.phase_eq (by simp [waiting]), waiting]

theorem inService (h : Uncancelled w w₀) : w₀.inService = w.inService := by
  unfold Worker.inService
  obtain same | ⟨stopped, waiting⟩ := h.phase
  · rw [same]
  · rw [stopped, waiting]

/-- A cancellation happens between calls: the other worker waits. -/
theorem cancellation (h : Uncancelled w w₀) (stepped : w.Step ds sink event w')
    (cancels : event.isCancellation = true) : Uncancelled w' w₀ := by
  cases stepped with
  | cancel => exact ⟨h.relay, h.sink, h.queue, h.acceptsCalls, h.phase⟩
  | stopCancelled waiting =>
    exact ⟨h.relay, h.sink, h.queue, h.acceptsCalls, .inr ⟨rfl, h.waiting waiting⟩⟩
  | _ => cases cancels

/-- Any other event happens to both workers. -/
theorem step (h : Uncancelled w w₀) (stepped : w.Step ds sink event w')
    (keeps : event.isCancellation = false) :
    ∃ w₀', w₀.Step ds sink event w₀' ∧ Uncancelled w' w₀' := by
  cases stepped with
  | enqueue q accepts running =>
    have running₀ : w₀.phase ≠ .stopped := by rwa [h.phase_eq running]
    refine ⟨_, .enqueue q (h.acceptsCalls.trans accepts) running₀, ?_⟩
    exact ⟨h.relay, h.sink, congrArg (· ++ [q]) h.queue, h.acceptsCalls, h.phase⟩
  | closeQueue => exact ⟨_, .closeQueue, h.relay, h.sink, h.queue, rfl, h.phase⟩
  | setFocused focused =>
    have relay := congrArg (fun r : Relay σ => { r with gate := ⟨focused⟩ }) h.relay
    exact ⟨_, .setFocused focused, relay, h.sink, h.queue, h.acceptsCalls, h.phase⟩
  | take waiting front =>
    refine ⟨_, .take (h.waiting waiting) (h.queue.trans front), h.relay, h.sink, rfl,
      h.acceptsCalls, .inl ?_⟩
    rw [h.relay]
  | @finish q focused serving =>
    have serving₀ := (h.phase_eq (by simp [serving])).trans serving
    refine ⟨_, .finish serving₀, ?_⟩
    unfold complete
    cases focused with
    | false => exact ⟨h.relay, h.sink, h.queue, h.acceptsCalls, .inl rfl⟩
    | true =>
      simp only [if_pos, h.relay, h.sink]
      exact ⟨rfl, rfl, h.queue, h.acceptsCalls, .inl rfl⟩
  | stopFinished waiting empty closed =>
    have closed₀ := h.acceptsCalls.trans closed
    refine ⟨_, .stopFinished (h.waiting waiting) (h.queue.trans empty) closed₀, ?_⟩
    exact ⟨h.relay, h.sink, h.queue, h.acceptsCalls, .inl rfl⟩
  | cancel | stopCancelled => cases keeps

/-- A run with cancellations is a run without them, for the other worker. -/
theorem run? {events : List WorkerEvent} (h : Uncancelled w w₀)
    (ran : w.run? ds sink events = some w') :
    ∃ w₀', w₀.run? ds sink (events.filter (! ·.isCancellation)) = some w₀' ∧
      Uncancelled w' w₀' := by
  induction events using List.reverseRecOn generalizing w' with
  | nil =>
    cases ran
    exact ⟨w₀, rfl, h⟩
  | append_singleton events event ih =>
    obtain ⟨w₁, ran, stepped⟩ := run?_append_singleton.1 ran
    obtain ⟨w₂, ran₀, between⟩ := ih ran
    rw [List.filter_append]
    cases kind : event.isCancellation with
    | true =>
      refine ⟨w₂, ?_, between.cancellation stepped kind⟩
      simpa [kind] using ran₀
    | false =>
      obtain ⟨w₀', stepped₀, after⟩ := between.step stepped kind
      refine ⟨w₀', ?_, after⟩
      simpa [kind] using run?_append_singleton.2 ⟨w₂, ran₀, stepped₀⟩

end Uncancelled

/-! ### Every run -/

/-- Whatever happens around it, a worker serves calls in the order in which they came in, each in the
focus in which it was taken, and does nothing else to keyrings, devices and sink.

When it has stopped, no call is left half done; when it has stopped because the queue was closed, none
is left at all. A cancellation changes nothing but that calls stay in the queue. -/
theorem serves_in_order {ds : ByKind (Device σ)} {sink : Sink τ} {relay : Relay σ} {s : τ}
    {events : List WorkerEvent} {w : Worker σ τ}
    (ran : (start relay s).run? ds sink events = some w) :
    ∃ calls, Serves ds sink relay s events w calls ∧
      (w.phase = .stopped → calls.map Prod.snd = focusWhenTaken relay.gate.isFocused events) ∧
      (.stopFinished ∈ events → calls.map Prod.fst = enqueued events) ∧
      ∃ w₀, (start relay s).run? ds sink (events.filter (! ·.isCancellation)) = some w₀ ∧
        w₀.relay = w.relay ∧ w₀.sink = w.sink ∧ w₀.queue = w.queue ∧ w₀.inService = w.inService := by
  obtain ⟨calls, served⟩ := exists_serves_of_run? ran
  have idle (stopped : w.phase = .stopped) : w.inService = [] := by simp [inService, stopped]
  refine ⟨calls, served, ?_, ?_, ?_⟩
  · intro stopped
    rw [served.taken, idle stopped, List.map_nil, List.append_nil]
  · intro mem
    obtain ⟨stopped, queue⟩ := finished_of_run? ran mem
    rw [served.queued, idle stopped, queue, List.map_nil, List.append_nil, List.append_nil]
  -- At the start, neither worker was cancelled.
  · have same : Uncancelled (start relay s) (start relay s) := ⟨rfl, rfl, rfl, rfl, .inl rfl⟩
    obtain ⟨w₀, ran₀, alike⟩ := same.run? ran
    exact ⟨w₀, ran₀, alike.relay, alike.sink, alike.queue, alike.inService⟩

/-- The focus goes and the worker is cancelled while it serves a call. It ends the call, takes another
one, out of focus now, and stops before the third. -/
def eventfulRun : List WorkerEvent :=
  [.enqueue (Relay.askAccounts "a"), .take, .setFocused false, .enqueue (Relay.askAccounts "b"),
    .cancel, .finish, .take, .enqueue (Relay.askAccounts "c"), .finish, .stopCancelled]

/-- The call during which the focus goes is delivered, the next one is not, and the last one stays in the
queue. -/
theorem serves_in_order_eventfulRun :
    ∃ w calls,
      (start (.new (.const ()) {}) OutcomeChannel.empty).run? (.const .unavailable)
        OutcomeChannel.sink eventfulRun = some w ∧
      Serves (.const .unavailable) OutcomeChannel.sink (.new (.const ()) {}) .empty eventfulRun w calls ∧
      calls.map Prod.snd = [true, false] ∧
      w.sink.waiting.map (·.promiseId) = ["a"] ∧ w.queue.map (·.promiseId) = ["c"] := by
  have reached : ∃ w,
      (start (.new (.const ()) {}) OutcomeChannel.empty).run? (.const .unavailable)
        OutcomeChannel.sink eventfulRun = some w ∧
      w.phase = .stopped ∧
      w.sink.waiting.map (·.promiseId) = ["a"] ∧ w.queue.map (·.promiseId) = ["c"] :=
    ⟨_, rfl, rfl, rfl, rfl⟩
  obtain ⟨w, ran, stopped, delivered, left⟩ := reached
  obtain ⟨calls, served, finished, -⟩ := serves_in_order ran
  exact ⟨w, calls, ran, served, finished stopped, delivered, left⟩

end Worker
end WalletRelay
