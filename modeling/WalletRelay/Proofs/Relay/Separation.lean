import WalletRelay.Proofs.Relay.Run

/-!
# Keyrings of different kinds

A request names one kind of keyring at most. Its outcome depends on what the relay holds for this kind,
and it changes nothing else: `Relay.AgreesAt` says that two relays hold the same for a kind, and
`process_agreesAt` and `process_agreesAt_self` are the two halves of the argument.

So a run can be cut down to the requests that name a kind without a difference for this kind
(`history_of_kind`), and requests that name different kinds can change places (`process_comm`).
-/

namespace WalletRelay

variable {σ : Type} (ds : ByKind (Device σ))

/-- Whether an event matters to a kind of keyring: setting the focus does, and so do the requests that
name the kind by its tag or its name. -/
def RelayEvent.concerns (kind : KeyringKind) : RelayEvent → Bool
  | .focus _ => true
  | .call q => KeyringKind.ofText? q.type = some kind

namespace Relay

/-- Two relays hold the same keyring of a kind, if any, with its device in the same state, and are both
in focus or both out of it. -/
structure AgreesAt (kind : KeyringKind) (r s : Relay σ) : Prop where
  gate : r.gate = s.gate
  state : r.keyrings.get kind = s.keyrings.get kind
  device : r.devices.get kind = s.devices.get kind

namespace AgreesAt

variable {kind : KeyringKind} {r s t : Relay σ}

theorem refl (kind : KeyringKind) (r : Relay σ) : r.AgreesAt kind r :=
  ⟨rfl, rfl, rfl⟩

theorem symm (h : r.AgreesAt kind s) : s.AgreesAt kind r :=
  ⟨h.gate.symm, h.state.symm, h.device.symm⟩

theorem trans (h : r.AgreesAt kind s) (h' : s.AgreesAt kind t) : r.AgreesAt kind t :=
  ⟨h.gate.trans h'.gate, h.state.trans h'.state, h.device.trans h'.device⟩

/-- Relays that agree for a kind take the same keyring out. -/
theorem keyring (h : r.AgreesAt kind s) : r.keyring kind = s.keyring kind := by
  simp only [Relay.keyring, h.state, h.device]

/-- Relays that agree for every kind are the same. -/
theorem ext (h : ∀ kind, r.AgreesAt kind s) : r = s := by
  have devices : r.devices = s.devices := ByKind.ext_get fun kind => (h kind).device
  have keyrings : r.keyrings = s.keyrings := ByKind.ext_get fun kind => (h kind).state
  have gate : r.gate = s.gate := (h .ledger).gate
  cases r
  cases s
  simp_all

end AgreesAt

/-! ### Taking a keyring and putting it back -/

variable {kind other : KeyringKind}

/-- A keyring that is taken out is of the kind that it was asked for. -/
theorem kind_keyring (r : Relay σ) (kind : KeyringKind) : (r.keyring kind).kind = kind := by
  unfold keyring
  split <;> rfl

/-- A keyring that is put back is the one that is taken out next. -/
theorem keyring_setKeyring (r : Relay σ) (kind : KeyringKind) (k : Keyring σ) :
    (r.setKeyring kind k).keyring kind = { k with kind } := by
  simp [keyring, setKeyring]

/-- Relays with the same focus agree where the same keyring is put back. -/
theorem setKeyring_agreesAt {r s : Relay σ} (gate : r.gate = s.gate) (k : Keyring σ) :
    (r.setKeyring kind k).AgreesAt kind (s.setKeyring kind k) :=
  ⟨gate, by simp [setKeyring], by simp [setKeyring]⟩

/-- Putting a keyring back touches no other kind. -/
theorem setKeyring_agreesAt_of_ne (ne : kind ≠ other) (r : Relay σ) (k : Keyring σ) :
    (r.setKeyring other k).AgreesAt kind r :=
  ⟨rfl, ByKind.get_set_of_ne _ ne _, ByKind.get_set_of_ne _ ne _⟩

/-! ### One request -/

/-- The outcome of a request depends on what there is of the kind that it names. If it names none, it
depends on nothing. -/
theorem execute_fst_congr {r s : Relay σ} {q : CallRequest}
    (h : ∀ kind, KeyringKind.ofText? q.type = some kind → r.keyring kind = s.keyring kind) :
    (r.execute ds q).1 = (s.execute ds q).1 := by
  unfold execute
  cases found : Method.resolve q.type q.method with
  | error e => rfl
  | ok target =>
    obtain ⟨kind, method⟩ := target
    simp only [h kind (Method.resolve_eq_ok_iff.1 found).1]

/-- Relays that agree for the kind that a request names still do afterwards. -/
theorem execute_agreesAt {r s : Relay σ} (h : r.AgreesAt kind s) {q : CallRequest}
    (named : KeyringKind.ofText? q.type = some kind) :
    (r.execute ds q).2.AgreesAt kind (s.execute ds q).2 := by
  -- Both relays look for the same keyring and the same method.
  obtain unknown | ⟨method, -, found⟩ := Method.resolve_of_named named q.method
  · simp only [execute, unknown]
    exact h
  · simp only [execute, found, h.keyring]
    exact setKeyring_agreesAt h.gate _

/-- A request leaves the keyrings alone that it does not name. -/
theorem execute_agreesAt_self (r : Relay σ) {q : CallRequest}
    (unnamed : KeyringKind.ofText? q.type ≠ some kind) : (r.execute ds q).2.AgreesAt kind r := by
  unfold execute
  cases found : Method.resolve q.type q.method with
  | error e => exact .refl kind r
  | ok target =>
    obtain ⟨kind', method⟩ := target
    -- The keyring that is put back is the one that the request names.
    have ne : kind ≠ kind' := by
      rintro rfl
      exact unnamed (Method.resolve_eq_ok_iff.1 found).1
    exact setKeyring_agreesAt_of_ne ne r _

/-- The outcome of a request depends on the focus and on what there is of the kind that it names. -/
theorem process_fst_congr {r s : Relay σ} (gate : r.gate = s.gate) {q : CallRequest}
    (h : ∀ kind, KeyringKind.ofText? q.type = some kind → r.keyring kind = s.keyring kind) :
    (r.process ds q).1 = (s.process ds q).1 := by
  cases focused : s.gate.isFocused with
  | false => rw [process_of_not_focused focused, process_of_not_focused (by rw [gate, focused])]
  | true =>
    rw [process_of_focused focused, process_of_focused (by rw [gate, focused]),
      execute_fst_congr ds h]

/-- Relays that agree for the kind that a request names still do, in focus or not. -/
theorem process_agreesAt {r s : Relay σ} (h : r.AgreesAt kind s) {q : CallRequest}
    (named : KeyringKind.ofText? q.type = some kind) :
    (r.process ds q).2.AgreesAt kind (s.process ds q).2 := by
  cases focused : s.gate.isFocused with
  | false =>
    rw [process_of_not_focused focused, process_of_not_focused (by rw [h.gate, focused])]
    exact h
  | true =>
    rw [process_of_focused focused, process_of_focused (by rw [h.gate, focused])]
    exact execute_agreesAt ds h named

/-- In focus or not, a request leaves the keyrings alone that it does not name. -/
theorem process_agreesAt_self (r : Relay σ) {q : CallRequest}
    (unnamed : KeyringKind.ofText? q.type ≠ some kind) : (r.process ds q).2.AgreesAt kind r := by
  cases focused : r.gate.isFocused with
  | false =>
    rw [process_of_not_focused focused]
    exact .refl kind r
  | true =>
    rw [process_of_focused focused]
    exact execute_agreesAt_self ds r unnamed

/-! ### Two requests -/

/-- The outcome of a request is not changed by a request that names another kind. -/
theorem process_fst_after (r : Relay σ) {q q' : CallRequest}
    (apart : KeyringKind.ofText? q.type ≠ KeyringKind.ofText? q'.type) :
    ((r.process ds q).2.process ds q').1 = (r.process ds q').1 := by
  refine process_fst_congr ds (gate_process r q) ?_
  intro kind named
  have unnamed : KeyringKind.ofText? q.type ≠ some kind := by rwa [← named]
  exact (process_agreesAt_self ds r unnamed).keyring

/-- Requests that name different kinds lead to the same relay in either order. -/
theorem process_comm (r : Relay σ) {q q' : CallRequest}
    (apart : KeyringKind.ofText? q.type ≠ KeyringKind.ofText? q'.type) :
    ((r.process ds q).2.process ds q').2 = ((r.process ds q').2.process ds q).2 := by
  apply AgreesAt.ext
  intro kind
  by_cases named : KeyringKind.ofText? q.type = some kind
  · -- The second request on the left and the first on the right are not for this kind.
    have unnamed : KeyringKind.ofText? q'.type ≠ some kind := by
      rw [← named]
      exact apart.symm
    have left := process_agreesAt_self ds (r.process ds q).2 unnamed
    have right := process_agreesAt ds (process_agreesAt_self ds r unnamed) named
    exact left.trans right.symm
  · have left := process_agreesAt_self ds r named
    have right := process_agreesAt_self ds (r.process ds q').2 named
    by_cases named' : KeyringKind.ofText? q'.type = some kind
    · exact (process_agreesAt ds left named').trans right.symm
    -- Neither of the requests is for this kind.
    · have left' := process_agreesAt_self ds (r.process ds q).2 named'
      have right' := process_agreesAt_self ds r named'
      exact (left'.trans left).trans (right.trans right').symm

/-! ### Runs -/

/-- An event that matters to a kind has the same effect on relays that agree for it. -/
theorem react_agreesAt {r s : Relay σ} (h : r.AgreesAt kind s) {event : RelayEvent}
    (concerned : event.concerns kind = true) :
    (r.react ds event).1 = (s.react ds event).1 ∧
      (r.react ds event).2.AgreesAt kind (s.react ds event).2 := by
  cases event with
  | focus focused => exact ⟨rfl, rfl, h.state, h.device⟩
  | call q =>
    have named : KeyringKind.ofText? q.type = some kind := by simpa [RelayEvent.concerns] using concerned
    -- The outcome depends on the kind that the request names, and it is this one.
    refine ⟨process_fst_congr ds h.gate ?_, process_agreesAt ds h named⟩
    intro kind' named'
    obtain rfl : kind = kind' := Option.some.inj (named.symm.trans named')
    exact h.keyring

/-- An event that does not matter to a kind leaves it alone. -/
theorem react_agreesAt_self (r : Relay σ) {event : RelayEvent}
    (unconcerned : event.concerns kind = false) : (r.react ds event).2.AgreesAt kind r := by
  cases event with
  | focus focused => cases unconcerned
  | call q => exact process_agreesAt_self ds r (by simpa [RelayEvent.concerns] using unconcerned)

/-- What there is of a kind at a moment, with what led to it. -/
def Moment.at (kind : KeyringKind) (m : Moment σ) :
    RelayEvent × Option CallOutcome × Option KeyringState × σ :=
  (m.event, m.outcome, m.after.keyrings.get kind, m.after.devices.get kind)

/-- What is seen of a kind in a run is what is seen of it in the events that matter to it. -/
theorem history_filter {r s : Relay σ} (h : r.AgreesAt kind s) (events : List RelayEvent) :
    ((r.history ds events).filter (·.event.concerns kind)).map (·.at kind) =
      (s.history ds (events.filter (·.concerns kind))).map (·.at kind) := by
  induction events generalizing r s with
  | nil => rfl
  | cons event events ih =>
    cases concerned : event.concerns kind with
    | true =>
      have same := react_agreesAt ds h concerned
      have here : Moment.at kind ⟨event, (r.react ds event).1, (r.react ds event).2⟩ =
          Moment.at kind ⟨event, (s.react ds event).1, (s.react ds event).2⟩ := by
        simp only [Moment.at, same.1, same.2.state, same.2.device]
      simp only [history_cons, List.filter_cons, concerned, ↓reduceIte, List.map_cons, here]
      rw [ih same.2]
    | false =>
      -- Only the longer run has this event, and it does not show in what there is of the kind.
      simp only [history_cons, List.filter_cons, concerned, Bool.false_eq_true, ↓reduceIte]
      exact ih ((react_agreesAt_self ds r concerned).trans h)

/-- Leaving out what does not matter to a kind leaves the kind as it is. -/
theorem run_filter {r s : Relay σ} (h : r.AgreesAt kind s) (events : List RelayEvent) :
    (r.run ds events).2.AgreesAt kind (s.run ds (events.filter (·.concerns kind))).2 := by
  induction events generalizing r s with
  | nil => exact h
  | cons event events ih =>
    rw [run_cons]
    cases concerned : event.concerns kind with
    | true =>
      rw [List.filter_cons_of_pos concerned, run_cons]
      exact ih (react_agreesAt ds h concerned).2
    | false =>
      rw [List.filter_cons_of_neg (by simp [concerned])]
      exact ih ((react_agreesAt_self ds r concerned).trans h)

/-- Without the requests that do not name a kind, the other events of a run have the same outcomes and
leave the keyring of the kind in the same states, if there is one at all; and so does the whole run.
Requests that name different kinds have the same outcomes and lead to the same relay in either order. -/
theorem history_of_kind (r : Relay σ) (events : List RelayEvent)
    (kind : KeyringKind) :
    ((r.history ds events).filter (·.event.concerns kind)).map (·.at kind) =
      (r.history ds (events.filter (·.concerns kind))).map (·.at kind) ∧
    (r.run ds events).2.keyrings.get kind =
      (r.run ds (events.filter (·.concerns kind))).2.keyrings.get kind ∧
    ∀ q q', KeyringKind.ofText? q.type ≠ KeyringKind.ofText? q'.type →
      ((r.process ds q).2.process ds q').1 = (r.process ds q').1 ∧
      ((r.process ds q').2.process ds q).1 = (r.process ds q).1 ∧
      ((r.process ds q).2.process ds q').2 = ((r.process ds q').2.process ds q).2 := by
  refine ⟨history_filter ds (.refl kind r) events, (run_filter ds (.refl kind r) events).state, ?_⟩
  intro q q' apart
  exact ⟨process_fst_after ds r apart, process_fst_after ds r apart.symm, process_comm ds r apart⟩

end Relay
end WalletRelay
