import WalletRelay.Proofs.Keyring.Codec
import WalletRelay.Proofs.Relay.Independence

/-!
# A keyring is its serialized state

Between two calls a keyring keeps nothing that its serialized state does not have. So a caller may hand
the present state back with a request, or not, as it likes: `Relay.rehydrate` puts the present state into
some of the requests of a run that bring none, and `history_rehydrate` says that every event has the same
outcome as before and leaves the same relay.

This includes what the devices are asked. `Relay.recorded` is the relay whose devices note their
requests. It goes through the same states as the relay itself (`Relay.Records`), so the same states are
put into its requests, and the notes are the same after every event.
-/

namespace WalletRelay

variable {σ : Type}

namespace Relay

/-- The serialized state of the keyring that a request names, that of a new one if there is none yet. -/
def presentState (r : Relay σ) (q : CallRequest) : Json :=
  match KeyringKind.ofText? q.type with
  | none => .null
  | some kind => (r.keyring kind).state.toJson

/-- An event, with the present state put into a request that brings none. -/
def withState (r : Relay σ) : RelayEvent → RelayEvent
  | .focus focused => .focus focused
  | .call q => .call (if q.prevState.isNull then { q with prevState := r.presentState q } else q)

/-- The events of a run, with the present state put into the marked ones. -/
def rehydrate (ds : ByKind (Device σ)) (r : Relay σ) : List (Bool × RelayEvent) → List RelayEvent
  | [] => []
  | (marked, event) :: events =>
    (if marked then r.withState event else event) :: rehydrate ds (r.react ds event).2 events

/-- The outcome at a moment, and the relay. -/
def Moment.seen (m : Moment σ) : Option CallOutcome × Relay σ :=
  (m.outcome, m.after)

/-! ### One request -/

/-- A keyring that takes over its own state is as before. -/
theorem adopt_toJson (k : Keyring σ) : k.adopt k.state.toJson = (.ok (), k) := by
  have given : k.state.toJson ≠ .null := nofun
  rw [Keyring.adopt_of_ne_null given, Keyring.restore, KeyringState.ofJson_toJson]

/-- A call that is given the present state is one that is given none. -/
theorem perform_toJson (d : Device σ) (k : Keyring σ) (method : Method) (args : List Json) :
    k.perform d method args k.state.toJson = k.perform d method args .null := by
  have kept : k.adopt .null = (.ok (), k) := rfl
  rw [Keyring.perform, Keyring.perform, adopt_toJson, kept]

variable (ds : ByKind (Device σ))

/-- So is a request that is given the present state of its keyring. -/
theorem execute_presentState (r : Relay σ) (q : CallRequest) (absent : q.prevState = .null) :
    r.execute ds { q with prevState := r.presentState q } = r.execute ds q := by
  unfold execute
  cases found : Method.resolve q.type q.method with
  | error e => rfl
  | ok target =>
    obtain ⟨kind, method⟩ := target
    -- The keyring whose state was put in is the one that takes it over.
    have named : r.presentState q = (r.keyring kind).state.toJson := by
      rw [presentState, (Method.resolve_eq_ok_iff.1 found).1]
    simp only [named, absent, perform_toJson]

/-- A relay does not tell whether it was given its present state. -/
theorem react_withState (r : Relay σ) (event : RelayEvent) :
    r.react ds (r.withState event) = r.react ds event := by
  cases event with
  | focus focused => rfl
  | call q =>
    rw [withState]
    split
    · next isNull =>
      -- Only a request that brings no state along is given one.
      have absent : q.prevState = .null := by
        cases h : q.prevState with
        | null => rfl
        | _ => simp [h, Json.isNull] at isNull
      simp only [react, process, execute_presentState ds r q absent]
    · rfl

/-! ### Runs -/

/-- Nothing that is seen of a run tells which of its requests were given the present state. -/
theorem map_seen_history_rehydrate (r : Relay σ) (events : List (Bool × RelayEvent)) :
    (r.history ds (r.rehydrate ds events)).map (·.seen) =
      (r.history ds (events.map (·.2))).map (·.seen) := by
  induction events generalizing r with
  | nil => rfl
  | cons event events ih =>
    obtain ⟨marked, event⟩ := event
    -- Whatever stands in place of the event, the relay reacts to it in the same way.
    have same : r.react ds (if marked then r.withState event else event) = r.react ds event := by
      split
      · exact react_withState ds r event
      · rfl
    rw [rehydrate, history_cons, List.map_cons, same, ih]
    rfl

/-! ### Requests to the devices -/

def recordingDevices : ByKind (Device (σ × List Device.Request)) :=
  .ofFn fun kind => (ds.get kind).recording

/-- The relay at devices that note what they are asked, with nothing noted yet. -/
def recorded (r : Relay σ) : Relay (σ × List Device.Request) where
  devices := .ofFn fun kind => (r.devices.get kind, [])
  keyrings := r.keyrings
  gate := r.gate

/-- The two relays are in the same states, apart from the notes. -/
abbrev Records (r : Relay (σ × List Device.Request)) (s : Relay σ) : Prop :=
  ∀ kind, r.CorrespondsAt (fun noted u => noted.1 = u) kind s

/-- The relay that notes requests begins in the same states. -/
theorem recorded_records (r : Relay σ) : r.recorded.Records r := by
  intro kind
  refine ⟨rfl, ?_⟩
  unfold keyring recorded
  simp only [ByKind.get_ofFn]
  split <;> exact ⟨rfl, rfl, rfl⟩

variable {ds}

/-- It stays in the same states, whatever happens. -/
theorem Records.react {r : Relay (σ × List Device.Request)} {s : Relay σ} (h : r.Records s)
    (event : RelayEvent) : (r.react (recordingDevices ds) event).2.Records (s.react ds event).2 := by
  intro kind
  refine react_correspondsAt ?_ (h kind) event
  rw [recordingDevices, ByKind.get_ofFn]
  exact Device.recording_simulates _

/-- In the same states, the same states are put into requests. -/
theorem Records.withState {r : Relay (σ × List Device.Request)} {s : Relay σ} (h : r.Records s)
    (event : RelayEvent) : r.withState event = s.withState event := by
  cases event with
  | focus focused => rfl
  | call q =>
    -- The present state is looked up in a keyring, and the notes are no part of it.
    have present : r.presentState q = s.presentState q := by
      unfold presentState
      split
      · rfl
      · next kind _ => rw [(h kind).keyring.state]
    rw [Relay.withState, Relay.withState, present]

/-- Noting the requests to the devices does not change what is put into a run. -/
theorem Records.rehydrate {r : Relay (σ × List Device.Request)} {s : Relay σ} (h : r.Records s)
    (events : List (Bool × RelayEvent)) :
    r.rehydrate (recordingDevices ds) events = s.rehydrate ds events := by
  induction events generalizing r s with
  | nil => rfl
  | cons event events ih =>
    obtain ⟨marked, event⟩ := event
    rw [Relay.rehydrate, Relay.rehydrate, h.withState, ih (h.react event)]

/-- A run in which some of the requests that bring no state are given the present one has the same
outcomes as the run without, event by event, and leaves the relay in the same states. Devices that note
what they are asked note the same. -/
theorem history_rehydrate (ds : ByKind (Device σ)) (r : Relay σ) (events : List (Bool × RelayEvent)) :
    (r.history ds (r.rehydrate ds events)).map (·.seen) =
      (r.history ds (events.map (·.2))).map (·.seen) ∧
    (r.recorded.history (recordingDevices ds) (r.rehydrate ds events)).map (·.seen) =
      (r.recorded.history (recordingDevices ds) (events.map (·.2))).map (·.seen) := by
  refine ⟨map_seen_history_rehydrate ds r events, ?_⟩
  -- The run is the one of the relay without notes, so it has to be turned into the one with them.
  rw [← (recorded_records r).rehydrate events]
  exact map_seen_history_rehydrate (recordingDevices ds) r.recorded events

end Relay
end WalletRelay
