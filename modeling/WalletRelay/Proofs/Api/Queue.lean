import Mathlib.Data.List.Forall2
import Mathlib.Data.List.Induction
import WalletRelay.Api.Service

/-!
# The queue of the service

Calls come into the queue at one end, by requests, and the worker takes them out at the other. In between
the service answers all kinds of requests. `ApiService.Answers` lists what a request can do: it puts its
call into the queue, it sets the focus, or it changes nothing.

So what the worker receives is what was accepted, in the same order, as long as it receives at all
(`queue_after`), and the queue holds no more than it has room for (`length_queue_after`). Whether the
worker receives is what submissions and the readiness go by (`isReceiving_after`), and the focus that is
shown is the one that was set last (`gate_after`). `queue_discipline` says all of this for every run of a
new service.
-/

namespace WalletRelay

open Http

/-- What happens at a service: a request comes in, the worker takes a call, or the worker goes away. The
first text names the submission if the request is one. -/
inductive ApiEvent where
  | request (requestId : String) (q : Request)
  | receive
  | stopReceiving

/-- A request with its response; there is none if the request was given up. -/
structure Exchange where
  request : Request
  response : Option Response

def Exchange.status? (e : Exchange) : Option Nat :=
  e.response.map (·.status)

namespace ApiService

/-! ### Runs -/

def react (s : ApiService) : ApiEvent → ApiService
  | .request requestId q => (s.answer requestId q).2
  | .receive => s.receive.2
  | .stopReceiving => s.stopReceiving

def after (s : ApiService) (events : List ApiEvent) : ApiService :=
  events.foldl react s

def exchange (s : ApiService) : ApiEvent → List Exchange
  | .request requestId q => [⟨q, (s.answer requestId q).1⟩]
  | _ => []

/-- The call that the worker receives by an event. -/
def taken (s : ApiService) : ApiEvent → List CallRequest
  | .receive => s.receive.1.toList
  | _ => []

def exchanges (s : ApiService) : List ApiEvent → List Exchange
  | [] => []
  | event :: events => s.exchange event ++ exchanges (s.react event) events

def received (s : ApiService) : List ApiEvent → List CallRequest
  | [] => []
  | event :: events => s.taken event ++ received (s.react event) events

/-- The requests of a run that were answered as accepted. -/
def accepted (s : ApiService) (events : List ApiEvent) : List Request :=
  ((s.exchanges events).filter fun e => e.status? = some 202).map (·.request)

/-- The requests of a run that have set the focus. -/
def updates (s : ApiService) (events : List ApiEvent) : List Request :=
  ((s.exchanges events).filter fun e =>
    e.request.method = "PUT" ∧ e.request.path = "/v1/focus" ∧ e.status? = some 200).map (·.request)

end ApiService

/-! ### What a request asks for -/

def Resource.path : Resource → String
  | .call => "/v1/keyring/call"
  | .keyrings => "/v1/keyrings"
  | .focus => "/v1/focus"
  | .liveness => "/health/live"
  | .readiness => "/health/ready"

/-- Each resource has exactly one path. -/
theorem Resource.ofPath?_eq_some_iff {path : String} {r : Resource} :
    ofPath? path = some r ↔ path = r.path := by
  constructor
  · intro h
    unfold ofPath? at h
    split at h <;> cases h <;> rfl
  · rintro rfl
    cases r <;> rfl

namespace ApiAction

def resource : ApiAction → Resource
  | .submitCall => .call
  | .listKeyrings => .keyrings
  | .showFocus | .setFocus => .focus
  | .showLiveness => .liveness
  | .showReadiness => .readiness

/-- The methods that ask for an action. -/
def methods : ApiAction → List String
  | .submitCall => ["POST"]
  | .setFocus => ["PUT"]
  | _ => ["GET", "HEAD"]

end ApiAction

theorem Resource.action?_eq_some_iff {r : Resource} {method : String} {action : ApiAction} :
    r.action? method = some action ↔ r = action.resource ∧ method ∈ action.methods := by
  cases r <;> cases action <;> simp [action?, ApiAction.resource, ApiAction.methods] <;> grind

namespace Http.Request

variable {q : Request} {action : ApiAction}

/-- The action that a request asks for, if there is one. -/
def action? (q : Request) : Option ApiAction :=
  (Resource.ofPath? q.path).bind (·.action? q.method)

/-- A request asks for an action by the path of its resource together with one of its methods. -/
theorem action?_eq_some_iff :
    q.action? = some action ↔ q.path = action.resource.path ∧ q.method ∈ action.methods := by
  simp only [action?, Option.bind_eq_some_iff, Resource.ofPath?_eq_some_iff,
    Resource.action?_eq_some_iff]
  constructor
  · rintro ⟨r, path, rfl, method⟩
    exact ⟨path, method⟩
  · rintro ⟨path, method⟩
    exact ⟨_, path, rfl, method⟩

/-- A request submits a call. -/
structure Submits (q : Request) (call : CallRequest) : Prop where
  method : q.method = "POST"
  path : q.path = "/v1/keyring/call"
  body : ApiService.readBody CallRequest.ofText q = .ok call
  named : Text.isBlankText call.promiseId = false

/-- A request sets the focus. -/
structure Refocuses (q : Request) (focused : Bool) : Prop where
  method : q.method = "PUT"
  path : q.path = "/v1/focus"
  body : ApiService.readBody ApiService.FocusUpdate.ofText q = .ok ⟨focused⟩

theorem Submits.action? {call : CallRequest} (h : q.Submits call) : q.action? = some .submitCall :=
  action?_eq_some_iff.2 ⟨h.path, by simp [h.method, ApiAction.methods]⟩

theorem Refocuses.action? {focused : Bool} (h : q.Refocuses focused) : q.action? = some .setFocus :=
  action?_eq_some_iff.2 ⟨h.path, by simp [h.method, ApiAction.methods]⟩

end Http.Request

namespace ApiService

variable {s : ApiService} {requestId : String} {q : Request}

/-! ### Answers -/

/-- A body that is read is the value of its text, and is refused with a status of its own otherwise. -/
theorem readBody_cases {α : Type} (ofText : String → Except Json.Problem α) (q : Request) :
    (∃ a, readBody ofText q = .ok a ∧ ofText q.body = .ok a) ∨
    ∃ status, readBody ofText q = .error status ∧ status ∈ [400, 413, 415, 422] := by
  unfold readBody
  split
  · split
    · exact .inr ⟨413, rfl, by simp⟩
    · split
      · next a read => exact .inl ⟨a, rfl, read⟩
      · exact .inr ⟨422, rfl, by simp⟩
      · exact .inr ⟨400, rfl, by simp⟩
  · exact .inr ⟨415, rfl, by simp⟩

/-- A body that is accepted is one that the reader of its text accepts. -/
theorem ofText_of_readBody {α : Type} {ofText : String → Except Json.Problem α} {a : α}
    (h : readBody ofText q = .ok a) : ofText q.body = .ok a := by
  obtain ⟨b, read, found⟩ | ⟨status, refused, -⟩ := readBody_cases ofText q
  · rw [read] at h
    cases h
    exact found
  · rw [refused] at h
    cases h

/-- The body of the response to a call that was accepted. -/
def acceptance (requestId : String) (call : CallRequest) : Json :=
  .object [("promiseId", .string call.promiseId), ("requestId", .string requestId)]

/-- The ways in which a service answers a request, with the response and the service that is left. -/
inductive Answers (s : ApiService) (requestId : String) (q : Request) :
    Option Response → ApiService → Prop
  | accepted {call : CallRequest} :
      q.Submits call →
      s.isReceiving = true →
      s.queue.length < s.capacity →
      Answers s requestId q (some ⟨202, some (acceptance requestId call)⟩)
        { s with queue := s.queue ++ [call] }
  | blocked {call : CallRequest} :
      q.Submits call →
      s.isReceiving = true →
      s.capacity ≤ s.queue.length →
      Answers s requestId q none s
  | stopped {call : CallRequest} {body : Option Json} :
      q.Submits call →
      s.isReceiving = false →
      Answers s requestId q (some ⟨503, body⟩) s
  | refocused {focused : Bool} {body : Option Json} :
      q.Refocuses focused →
      Answers s requestId q (some ⟨200, body⟩) { s with gate := ⟨focused⟩ }
  /-- All other requests change nothing. -/
  | other {response : Response} :
      (∀ call, ¬ q.Submits call) →
      (q.action? = some .setFocus → response.status ≠ 200) →
      response.status ≠ 202 →
      Answers s requestId q (some response) s

/-- A request that asks for nothing. -/
theorem answer_of_action?_eq_none (s : ApiService) (requestId : String) (h : q.action? = none) :
    ∃ status ∈ [200, 404, 405], s.answer requestId q = (some ⟨status, none⟩, s) := by
  unfold answer
  split
  · exact ⟨200, by simp, rfl⟩
  · split
    · exact ⟨404, by simp, rfl⟩
    · next resource at_path =>
      have none : resource.action? q.method = none := by
        rwa [Http.Request.action?, at_path] at h
      rw [none]
      exact ⟨405, by simp, rfl⟩

/-- A request with an action is answered as the action is performed; only the body is missing for `HEAD`. -/
theorem answer_of_action? {action : ApiAction} (s : ApiService) (requestId : String)
    (h : q.action? = some action) :
    s.answer requestId q =
      (if q.method = "HEAD" then
          (s.perform requestId q action).1.map fun r => { r with body := none }
        else (s.perform requestId q action).1,
        (s.perform requestId q action).2) := by
  obtain ⟨path, method⟩ := Http.Request.action?_eq_some_iff.1 h
  -- `OPTIONS` is answered before the path is looked at, but it asks for no action.
  have notOptions : q.method ≠ "OPTIONS" := by
    intro options
    rw [options] at method
    cases action <;> simp [ApiAction.methods] at method
  have there : Resource.ofPath? q.path = some action.resource := Resource.ofPath?_eq_some_iff.2 path
  have known : action.resource.action? q.method = some action :=
    Resource.action?_eq_some_iff.2 ⟨rfl, method⟩
  rw [answer, if_neg notOptions, there]
  simp only [known]

/-- A submission whose body can be read is answered in one of the ways of `Answers`. -/
theorem answers_of_submit {call : CallRequest} (s : ApiService) (requestId : String)
    (post : q.method = "POST") (path : q.path = "/v1/keyring/call")
    (body : readBody CallRequest.ofText q = .ok call) :
    s.Answers requestId q (s.submit requestId call).1 (s.submit requestId call).2 := by
  -- The promise id is looked at first, then the worker, then the room; the first to fail answers.
  unfold submit
  split
  · next blank =>
    refine .other ?_ ?_ (by simp)
    · intro call' submits
      obtain rfl : call = call' := Except.ok.inj (body.symm.trans submits.body)
      rw [submits.named] at blank
      cases blank
    · intro asked
      have method := (Http.Request.action?_eq_some_iff.1 asked).2
      simp [post, ApiAction.methods] at method
  · next named =>
    have submits : q.Submits call := ⟨post, path, body, by simpa using named⟩
    split
    · next stopped => exact .stopped submits (by simpa using stopped)
    · next running =>
      have receiving : s.isReceiving = true := by simpa using running
      split
      · next full => exact .blocked submits receiving full
      · next room => exact .accepted submits receiving (Nat.lt_of_not_le room)

/-- A request that shows something leaves the service as it is. -/
theorem answers_of_shows {action : ApiAction} (s : ApiService) (requestId : String)
    (asked : q.action? = some action) (notSubmit : action ≠ .submitCall) (notSet : action ≠ .setFocus) :
    s.Answers requestId q (s.answer requestId q).1 (s.answer requestId q).2 := by
  obtain ⟨response, performed, notAccepted⟩ :
      ∃ response, s.perform requestId q action = (some response, s) ∧ response.status ≠ 202 := by
    cases action with
    | submitCall => exact absurd rfl notSubmit
    | setFocus => exact absurd rfl notSet
    | listKeyrings | showFocus | showLiveness => exact ⟨_, rfl, by simp⟩
    | showReadiness =>
      refine ⟨_, rfl, ?_⟩
      unfold readiness
      cases s.isReceiving <;> simp
  have other (call : CallRequest) : ¬ q.Submits call := by
    intro submits
    exact notSubmit (Option.some.inj (asked.symm.trans submits.action?))
  rw [answer_of_action? s requestId asked, performed]
  -- The response to a `HEAD` request has the same status.
  split
  · exact .other other (by simp [asked, notSet]) notAccepted
  · exact .other other (by simp [asked, notSet]) notAccepted

/-- A request is answered in one of these ways. -/
theorem answers (s : ApiService) (requestId : String) (q : Request) :
    s.Answers requestId q (s.answer requestId q).1 (s.answer requestId q).2 := by
  -- A request that does not ask for it does not submit a call.
  have notSubmits (ne : q.action? ≠ some .submitCall) (call : CallRequest) : ¬ q.Submits call :=
    fun submits => ne submits.action?
  cases asked : q.action? with
  | none =>
    obtain ⟨status, known, answered⟩ := answer_of_action?_eq_none s requestId asked
    rw [answered]
    refine .other (notSubmits (by simp [asked])) (by simp [asked]) ?_
    rintro rfl
    simp at known
  | some action =>
    obtain ⟨path, method⟩ := Http.Request.action?_eq_some_iff.1 asked
    cases action with
    | listKeyrings | showFocus | showLiveness | showReadiness =>
      exact answers_of_shows s requestId asked nofun nofun
    | submitCall =>
      have post : q.method = "POST" := by simpa [ApiAction.methods] using method
      rw [answer_of_action? s requestId asked, if_neg (by simp [post])]
      -- Only a body that is a call makes the request a submission.
      obtain ⟨call, body, -⟩ | ⟨status, refused, known⟩ := readBody_cases CallRequest.ofText q
      · simp only [perform, body]
        exact answers_of_submit s requestId post path body
      · simp only [perform, refused]
        refine .other ?_ (by simp [asked]) ?_
        · intro call submits
          rw [submits.body] at refused
          cases refused
        · rintro rfl
          simp at known
    | setFocus =>
      have put : q.method = "PUT" := by simpa [ApiAction.methods] using method
      rw [answer_of_action? s requestId asked, if_neg (by simp [put])]
      obtain ⟨update, body, -⟩ | ⟨status, refused, known⟩ := readBody_cases FocusUpdate.ofText q
      · simp only [perform, body]
        exact .refocused ⟨put, path, body⟩
      · simp only [perform, refused]
        refine .other (notSubmits (by simp [asked])) ?_ ?_
        · rintro - rfl
          simp at known
        · rintro rfl
          simp at known

namespace Answers

variable {s' : ApiService} {response : Option Response}

theorem capacity (h : s.Answers requestId q response s') : s'.capacity = s.capacity := by
  cases h <;> rfl

theorem isReceiving (h : s.Answers requestId q response s') : s'.isReceiving = s.isReceiving := by
  cases h <;> rfl

/-- Only a request that is accepted puts something into the queue, and this is its call. -/
theorem queue (h : s.Answers requestId q response s') :
    (∃ call, q.Submits call ∧ response = some ⟨202, some (acceptance requestId call)⟩ ∧
      s.isReceiving = true ∧ s.queue.length < s.capacity ∧ s'.queue = s.queue ++ [call]) ∨
    (response.map (·.status) ≠ some 202 ∧ s'.queue = s.queue) := by
  cases h with
  | accepted submits receiving room => exact .inl ⟨_, submits, rfl, receiving, room, rfl⟩
  | blocked | stopped | refocused => exact .inr ⟨by simp, rfl⟩
  | other _ _ notAccepted => exact .inr ⟨by simpa using notAccepted, rfl⟩

/-- Only a request that is there to set the focus does so. -/
theorem gate (h : s.Answers requestId q response s') :
    (∃ focused, q.Refocuses focused ∧ response.map (·.status) = some 200 ∧ s'.gate = ⟨focused⟩) ∨
    ((q.action? = some .setFocus → response.map (·.status) ≠ some 200) ∧ s'.gate = s.gate) := by
  cases h with
  | refocused sets => exact .inl ⟨_, sets, rfl, rfl⟩
  | accepted | blocked | stopped => exact .inr ⟨by simp, rfl⟩
  | other _ notSet => exact .inr ⟨by simpa using notSet, rfl⟩

end Answers

/-! ### What an event does -/

/-- No event makes the queue longer than the capacity. -/
theorem length_queue_react (s : ApiService) (event : ApiEvent) (fits : s.queue.length ≤ s.capacity) :
    (s.react event).queue.length ≤ (s.react event).capacity := by
  cases event with
  | request requestId q =>
    have answered := s.answers requestId q
    rw [react, answered.capacity]
    -- Only an accepted submission makes the queue longer, and it is accepted if there is room.
    obtain ⟨call, -, -, -, room, queue⟩ | ⟨-, queue⟩ := answered.queue
    · rw [queue, List.length_append, List.length_singleton]
      exact room
    · rw [queue]
      exact fits
  | receive =>
    rw [react, receive]
    split
    · exact fits
    · next waiting =>
      rw [waiting, List.length_cons] at fits
      exact Nat.le_of_succ_le fits
  | stopReceiving => exact Nat.zero_le _

/-- The worker takes calls until it goes away. -/
theorem isReceiving_react (s : ApiService) (event : ApiEvent) :
    (s.react event).isReceiving = true ↔ s.isReceiving = true ∧ event ≠ .stopReceiving := by
  cases event with
  | request requestId q => simp [react, (s.answers requestId q).isReceiving]
  | receive =>
    rw [react, receive]
    split <;> simp
  | stopReceiving => simp [react, stopReceiving]

theorem capacity_react (s : ApiService) (event : ApiEvent) :
    (s.react event).capacity = s.capacity := by
  cases event with
  | request requestId q => exact (s.answers requestId q).capacity
  | receive =>
    rw [react, receive]
    split <;> rfl
  | stopReceiving => rfl

/-! ### What a run does -/

theorem after_cons (s : ApiService) (event : ApiEvent) (events : List ApiEvent) :
    s.after (event :: events) = (s.react event).after events := rfl

theorem after_append (s : ApiService) (before later : List ApiEvent) :
    s.after (before ++ later) = (s.after before).after later :=
  List.foldl_append

/-- The exchanges of two runs, the second of which begins where the first one ends. -/
theorem exchanges_append (s : ApiService) (before later : List ApiEvent) :
    s.exchanges (before ++ later) = s.exchanges before ++ (s.after before).exchanges later := by
  induction before generalizing s with
  | nil => rfl
  | cons event before ih =>
    rw [List.cons_append, exchanges, ih, exchanges, List.append_assoc, after_cons]

theorem received_append (s : ApiService) (before later : List ApiEvent) :
    s.received (before ++ later) = s.received before ++ (s.after before).received later := by
  induction before generalizing s with
  | nil => rfl
  | cons event before ih =>
    rw [List.cons_append, received, ih, received, List.append_assoc, after_cons]

theorem accepted_append (s : ApiService) (before later : List ApiEvent) :
    s.accepted (before ++ later) = s.accepted before ++ (s.after before).accepted later := by
  simp only [accepted, exchanges_append, List.filter_append, List.map_append]

theorem accepted_cons (s : ApiService) (event : ApiEvent) (events : List ApiEvent) :
    s.accepted (event :: events) = s.accepted [event] ++ (s.react event).accepted events :=
  s.accepted_append [event] events

/-- An event puts the call of an accepted request into the queue, at its end, and the worker takes its
calls from the front. -/
theorem queue_event (s : ApiService) {event : ApiEvent} (running : .stopReceiving ≠ event) :
    ∃ calls, List.Forall₂ Request.Submits (s.accepted [event]) calls ∧
      s.queue ++ calls = s.taken event ++ (s.react event).queue := by
  cases event with
  | request requestId q =>
    -- A submission is counted as accepted exactly if it has been put into the queue.
    obtain ⟨call, submits, response, -, -, queue⟩ | ⟨notAccepted, queue⟩ :=
      (s.answers requestId q).queue
    · have counted : s.accepted [.request requestId q] = [q] := by
        simp [accepted, exchanges, exchange, Exchange.status?, response]
      rw [counted]
      exact ⟨[call], .cons submits .nil, queue.symm⟩
    · have uncounted : s.accepted [.request requestId q] = [] := by
        simpa [accepted, exchanges, exchange, Exchange.status?] using notAccepted
      rw [uncounted]
      exact ⟨[], .nil, (List.append_nil _).trans queue.symm⟩
  | receive =>
    refine ⟨[], .nil, ?_⟩
    rw [List.append_nil, taken, react, receive]
    split
    · next empty => rw [empty]; rfl
    · next waiting => exact waiting
  | stopReceiving => exact absurd rfl running

/-- While the worker does not go away, the calls of the accepted requests are, in the same order, those
that it receives and those that still wait, apart from what was in the queue before. -/
theorem queue_after {events : List ApiEvent} (s : ApiService) (running : .stopReceiving ∉ events) :
    ∃ calls, List.Forall₂ Request.Submits (s.accepted events) calls ∧
      s.queue ++ calls = s.received events ++ (s.after events).queue := by
  -- What holds for one event adds up: the queue in the middle of a run belongs to both parts.
  induction events generalizing s with
  | nil => exact ⟨[], .nil, List.append_nil _⟩
  | cons event events ih =>
    obtain ⟨ne, running⟩ := not_or.1 (mt List.mem_cons.2 running)
    obtain ⟨calls, submitted, here⟩ := s.queue_event ne
    obtain ⟨laterCalls, laterSubmitted, later⟩ := ih (s.react event) running
    refine ⟨calls ++ laterCalls, ?_, ?_⟩
    · rw [accepted_cons]
      exact List.rel_append submitted laterSubmitted
    · calc s.queue ++ (calls ++ laterCalls)
        _ = s.taken event ++ ((s.react event).queue ++ laterCalls) := by
            rw [← List.append_assoc, here, List.append_assoc]
        _ = s.received (event :: events) ++ (s.after (event :: events)).queue := by
            rw [later, received, after_cons, List.append_assoc]

/-- The queue is never longer than the capacity. -/
theorem length_queue_after (s : ApiService) (events : List ApiEvent)
    (fits : s.queue.length ≤ s.capacity) : (s.after events).queue.length ≤ s.capacity := by
  induction events generalizing s with
  | nil => exact fits
  | cons event events ih =>
    rw [after_cons, ← s.capacity_react event]
    exact ih _ (s.length_queue_react event fits)

/-- The worker takes calls in the end exactly if it never went away. -/
theorem isReceiving_after (s : ApiService) (events : List ApiEvent) :
    (s.after events).isReceiving = true ↔ s.isReceiving = true ∧ .stopReceiving ∉ events := by
  induction events generalizing s with
  | nil => simp [after]
  | cons event events ih =>
    rw [after_cons, ih, isReceiving_react, List.mem_cons, not_or, and_assoc, ne_comm]

/-- Without a worker nothing is accepted any more, and nothing received. -/
theorem quiet_of_stopped (s : ApiService) (events : List ApiEvent) (stopped : s.isReceiving = false)
    (empty : s.queue = []) :
    s.accepted events = [] ∧ s.received events = [] ∧ (s.after events).queue = [] := by
  induction events generalizing s with
  | nil => exact ⟨rfl, rfl, empty⟩
  | cons event events ih =>
    have still : (s.react event).isReceiving = false := by
      rw [Bool.eq_false_iff, ne_eq, isReceiving_react]
      simp [stopped]
    have here : s.accepted [event] = [] ∧ s.taken event = [] ∧ (s.react event).queue = [] := by
      cases event with
      | request requestId q =>
        -- What is accepted is accepted for a worker, and there is none.
        obtain ⟨_, -, -, receiving, -, -⟩ | ⟨notAccepted, queue⟩ := (s.answers requestId q).queue
        · rw [stopped] at receiving
          cases receiving
        · refine ⟨?_, rfl, queue.trans empty⟩
          simpa [accepted, exchanges, exchange, Exchange.status?] using notAccepted
      | receive => simp [accepted, exchanges, exchange, taken, react, receive, empty]
      | stopReceiving => exact ⟨rfl, rfl, rfl⟩
    obtain ⟨accepted, received, queue⟩ := ih _ still here.2.2
    refine ⟨?_, ?_, queue⟩
    · rw [accepted_cons, here.1, accepted]
      rfl
    · rw [ApiService.received, here.2.1, received]
      rfl

/-- A run is cut off where the worker goes away. -/
theorem cut_off (s : ApiService) (before later : List ApiEvent) :
    s.accepted (before ++ .stopReceiving :: later) = s.accepted before ∧
    s.received (before ++ .stopReceiving :: later) = s.received before ∧
    (s.after (before ++ .stopReceiving :: later)).queue = [] := by
  obtain ⟨accepted, received, queue⟩ :=
    (s.after before).stopReceiving.quiet_of_stopped later rfl rfl
  refine ⟨?_, ?_, ?_⟩
  · rw [accepted_append, accepted_cons, react, accepted]
    exact List.append_nil _
  · rw [received_append, ApiService.received, react, received]
    exact List.append_nil _
  · rw [after_append, after_cons]
    exact queue

theorem updates_append (s : ApiService) (before later : List ApiEvent) :
    s.updates (before ++ later) = s.updates before ++ (s.after before).updates later := by
  simp only [updates, exchanges_append, List.filter_append, List.map_append]

/-- An event sets the focus, to the value in the body of a request, or leaves it as it is. -/
theorem updates_event (s : ApiService) (event : ApiEvent) :
    (∃ focused, (s.updates [event]).map (FocusUpdate.ofText ·.body) = [.ok ⟨focused⟩] ∧
      (s.react event).gate = ⟨focused⟩) ∨
    (s.updates [event] = [] ∧ (s.react event).gate = s.gate) := by
  cases event with
  | request requestId q =>
    obtain ⟨focused, sets, status, gate⟩ | ⟨notSet, gate⟩ := (s.answers requestId q).gate
    · refine .inl ⟨focused, ?_, gate⟩
      have counted : s.updates [.request requestId q] = [q] := by
        simp only [updates, exchanges, exchange, Exchange.status?, List.append_nil]
        rw [List.filter_cons_of_pos (by simp only [sets.method, sets.path, status]; rfl)]
        rfl
      rw [counted, List.map_singleton, ofText_of_readBody sets.body]
    · refine .inr ⟨?_, gate⟩
      -- A request that is there to set the focus and has not done so was refused.
      have uncounted : ¬ (q.method = "PUT" ∧ q.path = "/v1/focus" ∧
          (s.answer requestId q).1.map (·.status) = some 200) := by
        rintro ⟨put, path, status⟩
        refine notSet (Http.Request.action?_eq_some_iff.2 ⟨path, ?_⟩) status
        simp [put, ApiAction.methods]
      simp only [updates, exchanges, exchange, Exchange.status?, List.append_nil]
      rw [List.filter_cons_of_neg (by simpa using uncounted)]
      rfl
  | receive =>
    refine .inr ⟨rfl, ?_⟩
    rw [react, receive]
    split <;> rfl
  | stopReceiving => exact .inr ⟨rfl, rfl⟩

/-- The focus is the one that was set last. -/
theorem gate_after (s : ApiService) (events : List ApiEvent) :
    ∃ values : List Bool,
      (s.updates events).map (FocusUpdate.ofText ·.body) = values.map (fun focused => .ok ⟨focused⟩) ∧
      (s.after events).gate.isFocused = values.getLast?.getD s.gate.isFocused := by
  induction events using List.reverseRecOn with
  | nil => exact ⟨[], rfl, rfl⟩
  | append_singleton before event ih =>
    -- The last event has the last word, if it has any.
    obtain ⟨values, read, shown⟩ := ih
    rw [updates_append, after_append, List.map_append, read]
    obtain ⟨focused, set, gate⟩ | ⟨none, gate⟩ := (s.after before).updates_event event
    · refine ⟨values ++ [focused], by rw [set, List.map_append]; rfl, ?_⟩
      rw [List.getLast?_concat]
      exact congrArg FocusGate.isFocused gate
    · refine ⟨values, by rw [none, List.map_nil, List.append_nil], ?_⟩
      rw [← shown]
      exact congrArg FocusGate.isFocused gate

/-! ### Submissions and readiness -/

/-- A submission is refused as unavailable exactly if the worker is gone: a full queue makes it wait instead.
-/
theorem submission_status_iff {call : CallRequest} (submits : q.Submits call) :
    (s.answer requestId q).1.map (·.status) = some 503 ↔ s.isReceiving = false := by
  have answered := s.answers requestId q
  generalize (s.answer requestId q).1 = response, (s.answer requestId q).2 = s' at answered ⊢
  cases answered with
  | accepted _ receiving => simp [receiving]
  | blocked _ receiving => simp [receiving]
  | stopped _ stopped => simp [stopped]
  | refocused sets =>
    have same := submits.action?.symm.trans sets.action?
    cases same
  | other other => exact absurd submits (other call)

/-- The request to tell the readiness. -/
theorem readiness_status_iff (method : q.method = "GET" ∨ q.method = "HEAD")
    (path : q.path = "/health/ready") :
    (s.answer requestId q).1.map (·.status) = some 503 ↔ s.isReceiving = false := by
  have asked : q.action? = some .showReadiness :=
    Http.Request.action?_eq_some_iff.2 ⟨path, by simpa [ApiAction.methods] using method⟩
  have status : (s.answer requestId q).1.map (·.status) = some s.readiness.status := by
    rw [answer_of_action? s requestId asked]
    split <;> rfl
  rw [status, readiness]
  cases s.isReceiving <;> simp

theorem answer_of_get {action : ApiAction} (s : ApiService) (requestId : String)
    (asked : q.action? = some action) (get : q.method = "GET") :
    s.answer requestId q = s.perform requestId q action := by
  rw [answer_of_action? s requestId asked, if_neg (by simp [get])]

/-- The focus resource shows the gate as it is. -/
theorem answer_focus (s : ApiService) (requestId : String) (get : q.method = "GET")
    (path : q.path = "/v1/focus") :
    (s.answer requestId q).1 = some ⟨200, some (.object [("focused", .bool s.gate.isFocused)])⟩ := by
  have asked : q.action? = some .showFocus :=
    Http.Request.action?_eq_some_iff.2 ⟨path, by simp [get, ApiAction.methods]⟩
  rw [answer_of_get s requestId asked get]
  rfl

/-- The readiness tells of the focus, whether the service is ready or not. -/
theorem answer_readiness (s : ApiService) (requestId : String) (get : q.method = "GET")
    (path : q.path = "/health/ready") :
    ∃ response body checks, (s.answer requestId q).1 = some response ∧ response.body = some body ∧
      body.field? "checks" = some checks ∧
      checks.field? "focused" = some (.bool s.gate.isFocused) := by
  have asked : q.action? = some .showReadiness :=
    Http.Request.action?_eq_some_iff.2 ⟨path, by simp [get, ApiAction.methods]⟩
  rw [answer_of_get s requestId asked get]
  exact ⟨_, _, _, rfl, rfl, rfl, rfl⟩

/-! ### Runs of a new service -/

/-- What the worker has received and what still waits are the calls of the accepted requests, in the same
order; once it has gone away, nothing is accepted and nothing received. The queue never holds more than it
has room for. A request either is accepted, which tells its promise id and puts its call into the queue, or
leaves queue and worker as they were. A submission is refused, and the readiness is bad, if and only if the
worker has gone away, and the focus that is shown is the one that was set last. -/
theorem queue_discipline {capacity : Nat} (room : 1 ≤ capacity) (gate : FocusGate)
    (events : List ApiEvent) {first s : ApiService} (new : first = start capacity gate)
    (reached : s = first.after events) :
    (.stopReceiving ∉ events →
      List.Forall₂ Request.Submits (first.accepted events) (first.received events ++ s.queue)) ∧
    (∀ before later, events = before ++ .stopReceiving :: later →
      first.accepted events = first.accepted before ∧
      first.received events = first.received before ∧ s.queue = []) ∧
    s.queue.length ≤ capacity ∧
    (∀ requestId q response s', s.answer requestId q = (response, s') →
      (∃ call, q.Submits call ∧ response = some ⟨202, some (acceptance requestId call)⟩ ∧
        s'.queue = s.queue ++ [call] ∧ s'.isReceiving = s.isReceiving) ∨
      (response.map (·.status) ≠ some 202 ∧ s'.queue = s.queue ∧
        s'.isReceiving = s.isReceiving)) ∧
    (∀ requestId q call, q.Submits call →
      ((s.answer requestId q).1.map (·.status) = some 503 ↔ .stopReceiving ∈ events)) ∧
    (∀ requestId q, q.method = "GET" ∨ q.method = "HEAD" → q.path = "/health/ready" →
      ((s.answer requestId q).1.map (·.status) = some 503 ↔ .stopReceiving ∈ events)) ∧
    ∃ values : List Bool,
      (first.updates events).map (FocusUpdate.ofText ·.body) =
        values.map (fun focused => .ok ⟨focused⟩) ∧
      ∀ requestId q, q.method = "GET" →
        (q.path = "/v1/focus" → (s.answer requestId q).1 =
          some ⟨200, some (.object [("focused", .bool (values.getLast?.getD gate.isFocused))])⟩) ∧
        (q.path = "/health/ready" → ∃ response body checks,
          (s.answer requestId q).1 = some response ∧ response.body = some body ∧
          body.field? "checks" = some checks ∧
          checks.field? "focused" = some (.bool (values.getLast?.getD gate.isFocused))) := by
  subst new reached
  -- For the refusals it does not matter when the worker went away, only that it did.
  have gone : ((start capacity gate).after events).isReceiving = false ↔ .stopReceiving ∈ events := by
    rw [Bool.eq_false_iff, ne_eq, isReceiving_after]
    simp [start]
  refine ⟨?_, ?_, ?_, ?_, ?_, ?_, ?_⟩
  · intro running
    obtain ⟨calls, submitted, same⟩ := (start capacity gate).queue_after running
    rwa [← same]
  · rintro before later rfl
    exact cut_off _ before later
  · have size : (start capacity gate).capacity = capacity := Nat.max_eq_right room
    have bounded := (start capacity gate).length_queue_after events (Nat.zero_le _)
    rwa [size] at bounded
  · intro requestId q response s' answer
    have answered := ((start capacity gate).after events).answers requestId q
    rw [answer] at answered
    obtain ⟨call, submits, accepted, -, -, queue⟩ | ⟨notAccepted, queue⟩ := answered.queue
    · exact .inl ⟨call, submits, accepted, queue, answered.isReceiving⟩
    · exact .inr ⟨notAccepted, queue, answered.isReceiving⟩
  · intro requestId q call submits
    rw [submission_status_iff submits, gone]
  · intro requestId q method path
    rw [readiness_status_iff method path, gone]
  · obtain ⟨values, read, shown⟩ := (start capacity gate).gate_after events
    refine ⟨values, read, ?_⟩
    rw [start] at shown
    intro requestId q get
    rw [← shown]
    exact ⟨answer_focus _ requestId get, answer_readiness _ requestId get⟩

/-- A submission of a call, with its fields in their declared order. -/
def submitFirst : Request where
  method := "POST"
  target := "/v1/keyring/call"
  contentType := some "application/json"
  body := "[\"ledger\",\"getAccounts\",[],null,\"p1\"]"

/-- A run in which a submission waits for room and is given up. -/
def oneRoomRun : List ApiEvent :=
  [.request "a" submitFirst, .request "b" submitFirst, .receive, .request "c" submitFirst]

/-- With room for one call the second submission is given up, and the third is accepted after the worker has taken
the first one. -/
theorem queue_discipline_oneRoom :
    ((start 1 {}).received oneRoomRun).map (·.promiseId) = ["p1"] ∧
      ((start 1 {}).accepted oneRoomRun).length = 2 ∧
      List.Forall₂ Request.Submits ((start 1 {}).accepted oneRoomRun)
        ((start 1 {}).received oneRoomRun ++ ((start 1 {}).after oneRoomRun).queue) ∧
      ((start 1 {}).after oneRoomRun).queue.length ≤ 1 := by
  have running : .stopReceiving ∉ oneRoomRun := by simp [oneRoomRun]
  obtain ⟨inOrder, -, bounded, -⟩ := queue_discipline (Nat.le_refl 1) {} oneRoomRun rfl rfl
  exact ⟨by decide +kernel, by decide +kernel, inOrder running, bounded⟩

end ApiService
end WalletRelay
