import WalletRelay.Proofs.Relay.Refusal

/-!
# Runs of a relay

A relay is told where the focus is and is asked for calls, in any order. `Relay.run` collects the
outcomes; `handleAll_eq` says that a sink is given these outcomes and nothing else, in this order,
whether it takes them or not.

`Relay.Answers` says what the outcome of a request looks like, and `run_answers` that every request
made in focus has exactly one such outcome, while a request made out of focus leaves no trace.
-/

namespace WalletRelay

variable {σ τ : Type}

/-- What a relay is told and asked. All copies of a gate share one state, so it does not matter through
which of them the focus is set. -/
inductive RelayEvent where
  /-- The focus is set. -/
  | focus (focused : Bool)
  /-- A request is made. -/
  | call (q : CallRequest)

namespace RelayEvent

/-- The focus after some events: what was set last, or else what it was before. -/
def focusAfter (focused : Bool) : List RelayEvent → Bool
  | [] => focused
  | .focus f :: events => focusAfter f events
  | .call _ :: events => focusAfter focused events

/-- The requests that are made in focus. -/
def requestsInFocus (focused : Bool) : List RelayEvent → List CallRequest
  | [] => []
  | .focus f :: events => requestsInFocus f events
  | .call q :: events =>
    if focused then q :: requestsInFocus focused events else requestsInFocus focused events

end RelayEvent

/-- The sink after some deliveries, whatever comes of each of them. -/
def Sink.deliverAll (sink : Sink τ) (s : τ) (outcomes : List CallOutcome) : τ :=
  outcomes.foldl (fun s outcome => (sink.deliver outcome s).2) s

theorem Sink.deliverAll_append (sink : Sink τ) (s : τ) (outcomes later : List CallOutcome) :
    sink.deliverAll s (outcomes ++ later) = sink.deliverAll (sink.deliverAll s outcomes) later :=
  List.foldl_append

namespace Relay

/-- The outcome of an event, if it has one, and the relay after it. -/
def react (ds : ByKind (Device σ)) (r : Relay σ) : RelayEvent → Option CallOutcome × Relay σ
  | .focus focused => (none, (r.setFocused focused).2)
  | .call q => r.process ds q

/-- The outcomes of some events, and the relay after them. -/
def run (ds : ByKind (Device σ)) (r : Relay σ) : List RelayEvent → List CallOutcome × Relay σ
  | [] => ([], r)
  | event :: events =>
    let (outcome, r) := r.react ds event
    let (outcomes, r) := run ds r events
    (outcome.toList ++ outcomes, r)

def handleAll (ds : ByKind (Device σ)) (sink : Sink τ) (r : Relay σ) (s : τ) :
    List RelayEvent → Relay σ × τ
  | [] => (r, s)
  | .focus focused :: events => handleAll ds sink (r.setFocused focused).2 s events
  | .call q :: events =>
    let (r, s) := r.handle ds sink s q
    handleAll ds sink r s events

/-- An event of a run: the outcome, if it has one, and the relay after it. -/
structure Moment (σ : Type) where
  event : RelayEvent
  outcome : Option CallOutcome
  after : Relay σ

/-- What happens in a run, event by event. -/
def history (ds : ByKind (Device σ)) (r : Relay σ) : List RelayEvent → List (Moment σ)
  | [] => []
  | event :: events =>
    let (outcome, after) := r.react ds event
    ⟨event, outcome, after⟩ :: history ds after events

variable {ds : ByKind (Device σ)}

/-! ### One event after another -/

theorem run_cons (r : Relay σ) (event : RelayEvent) (events : List RelayEvent) :
    r.run ds (event :: events) =
      ((r.react ds event).1.toList ++ ((r.react ds event).2.run ds events).1,
        ((r.react ds event).2.run ds events).2) := rfl

/-- A run can be cut anywhere. -/
theorem run_append (r : Relay σ) (before after : List RelayEvent) :
    r.run ds (before ++ after) =
      ((r.run ds before).1 ++ ((r.run ds before).2.run ds after).1,
        ((r.run ds before).2.run ds after).2) := by
  induction before generalizing r with
  | nil => rfl
  | cons event before ih => rw [List.cons_append, run_cons, ih, run_cons, List.append_assoc]

theorem history_cons (r : Relay σ) (event : RelayEvent) (events : List RelayEvent) :
    r.history ds (event :: events) =
      ⟨event, (r.react ds event).1, (r.react ds event).2⟩ ::
        (r.react ds event).2.history ds events := rfl

/-- A request that is handled gives its outcome to the sink, if it has one. -/
theorem handle_eq (sink : Sink τ) (r : Relay σ) (s : τ) (q : CallRequest) :
    r.handle ds sink s q =
      ((r.process ds q).2, sink.deliverAll s (r.process ds q).1.toList) := by
  unfold handle
  split
  · next h => rw [h]; rfl
  · next h => rw [h]; rfl

/-- A sink is given the outcomes of the run and nothing else. -/
theorem handleAll_eq (sink : Sink τ) (r : Relay σ) (s : τ) (events : List RelayEvent) :
    r.handleAll ds sink s events = ((r.run ds events).2, sink.deliverAll s (r.run ds events).1) := by
  induction events generalizing r s with
  | nil => rfl
  | cons event events ih =>
    cases event with
    | focus focused => exact ih _ _
    | call q =>
      -- The sink does not tell the relay whether it took the outcome.
      have handled : r.handleAll ds sink s (.call q :: events) =
          handleAll ds sink (r.process ds q).2 (sink.deliverAll s (r.process ds q).1.toList) events := by
        rw [handleAll, handle_eq]
      rw [handled, ih, run_cons, Sink.deliverAll_append, react]

/-! ### The focus -/

/-- Carrying out a request does not touch the focus. -/
theorem gate_execute (r : Relay σ) (q : CallRequest) : (r.execute ds q).2.gate = r.gate := by
  unfold execute
  split <;> rfl

/-- Out of focus, nothing happens. -/
theorem process_of_not_focused {r : Relay σ} (h : r.gate.isFocused = false) (q : CallRequest) :
    r.process ds q = (none, r) := by
  simp [process, h]

/-- In focus, a request is carried out and answered. -/
theorem process_of_focused {r : Relay σ} (h : r.gate.isFocused = true) (q : CallRequest) :
    r.process ds q =
      (some (outcomeOf q.promiseId (r.execute ds q).1), (r.execute ds q).2) := by
  simp [process, h]

/-- A request does not move the focus. -/
theorem gate_process (r : Relay σ) (q : CallRequest) : (r.process ds q).2.gate = r.gate := by
  cases h : r.gate.isFocused with
  | false => rw [process_of_not_focused h]
  | true => rw [process_of_focused h, gate_execute]

/-- Requests do not move the focus, so only what was set last counts. -/
theorem isFocused_run (ds : ByKind (Device σ)) (r : Relay σ) (events : List RelayEvent) :
    (r.run ds events).2.gate.isFocused = RelayEvent.focusAfter r.gate.isFocused events := by
  induction events generalizing r with
  | nil => rfl
  | cons event events ih =>
    rw [run_cons, ih]
    cases event with
    | focus focused => rfl
    | call q => rw [react, gate_process, RelayEvent.focusAfter]

/-! ### Outcomes -/

/-- The outcome `o` of a request that leaves the relay `r'`: the request is resolved exactly if all its
steps succeed, with the state of its keyring and the response; otherwise it is refused, with the text of
the error that stopped it, which is not blank. -/
structure Answers (ds : ByKind (Device σ)) (r : Relay σ) (q : CallRequest) (o : CallOutcome)
    (r' : Relay σ) : Prop where
  promiseId : o.promiseId = q.promiseId
  isResolved_iff : o.isResolved ↔ ∃ kind method call start final response,
    r.Resolves ds q kind method call start final response
  resolved : ∀ {kind method call start final response},
    r.Resolves ds q kind method call start final response →
      r'.keyrings.get kind = some final.state ∧
      o.data = .object [("newState", final.state.toJson), ("response", response)]
  refused : ¬ o.isResolved → ∃ e, r.Refuses ds q e r' ∧
    o.data = .string e.innermost.message ∧ e.failure.message = e.innermost.message ∧
    Text.isBlankText e.failure.message = false

/-- The outcome of a request that is carried out is its answer. -/
theorem answers_of_execute (r : Relay σ) (q : CallRequest) :
    r.Answers ds q (outcomeOf q.promiseId (r.execute ds q).1) (r.execute ds q).2 := by
  cases done : r.execute ds q with
  | mk answer r' =>
    cases answer with
    | ok result =>
      obtain ⟨s, response⟩ := result
      refine ⟨rfl, ⟨fun _ => ?_, fun _ => rfl⟩, fun steps => ?_, fun not => absurd rfl not⟩
      · obtain ⟨kind, method, call, start, final, steps, -, -⟩ := execute_eq_ok_iff_resolves.1 done
        exact ⟨kind, method, call, start, final, response, steps⟩
      · -- Carrying out a request is a function, so these steps are the ones that were taken.
        have same := execute_eq_ok_iff_resolves.2 ⟨_, _, _, _, _, steps, rfl, rfl⟩
        rw [done] at same
        cases same
        exact ⟨by simp [setKeyring], rfl⟩
    | error e =>
      -- A request that has failed cannot have taken the steps that succeed.
      have unresolved {kind method call start final response}
          (steps : r.Resolves ds q kind method call start final response) : False := by
        have same := execute_eq_ok_iff_resolves.2 ⟨_, _, _, _, _, steps, rfl, rfl⟩
        rw [done] at same
        cases same
      refine ⟨rfl, ⟨nofun, ?_⟩, fun steps => (unresolved steps).elim, fun _ => ?_⟩
      · rintro ⟨_, _, _, _, _, _, steps⟩
        exact (unresolved steps).elim
      · refine ⟨e, execute_eq_error_iff_refuses.1 done, ?_, e.message_innermost.symm,
          e.message_not_blank⟩
        exact congrArg Json.string e.reason_failure

/-- There is one outcome for each request in focus, in the same order. -/
theorem map_promiseId_run (r : Relay σ) (events : List RelayEvent) :
    (r.run ds events).1.map (·.promiseId) =
      (RelayEvent.requestsInFocus r.gate.isFocused events).map (·.promiseId) := by
  induction events generalizing r with
  | nil => rfl
  | cons event events ih =>
    rw [run_cons, List.map_append, ih]
    cases event with
    | focus focused => rfl
    | call q =>
      rw [react, gate_process, RelayEvent.requestsInFocus]
      -- A request in focus adds one outcome with its own id, and any other none.
      cases h : r.gate.isFocused with
      | false => rw [process_of_not_focused h]; rfl
      | true =>
        rw [process_of_focused h, if_pos rfl, List.map_cons]
        exact congrArg (· :: _) (answers_of_execute r q).promiseId

/-- A relay gives one outcome for each request that is made in focus, in the order of the requests, and
hands it to the sink. A request that is made out of focus changes neither keyrings nor devices. -/
theorem run_answers (ds : ByKind (Device σ)) (sink : Sink τ) (r : Relay σ) (s : τ)
    (events : List RelayEvent) :
    r.handleAll ds sink s events = ((r.run ds events).2, sink.deliverAll s (r.run ds events).1) ∧
    (r.run ds events).1.map (·.promiseId) =
      (RelayEvent.requestsInFocus r.gate.isFocused events).map (·.promiseId) ∧
    ∀ before q after, events = before ++ .call q :: after →
      ∃ r₁ outcome r₂, r₁ = (r.run ds before).2 ∧ r₁.process ds q = (outcome, r₂) ∧
        (r.run ds events).1 = (r.run ds before).1 ++ (outcome.toList ++ (r₂.run ds after).1) ∧
        (RelayEvent.focusAfter r.gate.isFocused before = false → outcome = none ∧ r₂ = r₁) ∧
        (RelayEvent.focusAfter r.gate.isFocused before = true →
          ∃ o, outcome = some o ∧ r₁.Answers ds q o r₂) := by
  refine ⟨handleAll_eq sink r s events, map_promiseId_run r events, ?_⟩
  rintro before q after rfl
  -- The relay at the request is the one after the events before it.
  refine ⟨(r.run ds before).2, ((r.run ds before).2.process ds q).1,
    ((r.run ds before).2.process ds q).2, rfl, rfl, ?_, ?_, ?_⟩
  · rw [run_append, run_cons, react]
  · intro unfocused
    rw [← isFocused_run ds] at unfocused
    rw [process_of_not_focused unfocused]
    exact ⟨rfl, rfl⟩
  · intro focused
    rw [← isFocused_run ds] at focused
    rw [process_of_focused focused]
    exact ⟨_, rfl, answers_of_execute _ q⟩

def askAccounts (promiseId : String) : CallRequest where
  type := "trezor"
  method := "getAccounts"
  args := []
  prevState := .null
  promiseId := promiseId

example :
    ((new (.const ()) {}).run (.const .unavailable) [.call (askAccounts "a"), .focus false,
      .call (askAccounts "b"), .focus true, .call (askAccounts "c")]).1.map (·.promiseId) =
        ["a", "c"] := by
  rfl

end Relay
end WalletRelay
