import WalletRelay.Proofs.Keyring.Changes
import WalletRelay.Proofs.Relay.Separation

/-!
# Invariants of the keyrings of a relay

A property of keyring states that the requests of a run do not break holds after the run if it held
before (`run_keeps`). The property may be another one for each kind. What a request has to keep is said
once, in `CallRequest.Keeps`: the state that comes with it has the property, and so have the states to
which its call can lead.
-/

namespace WalletRelay

variable {σ : Type} {ds : ByKind (Device σ)} {P : KeyringKind → KeyringState → Prop}

/-- A request breaks a property of keyring states neither by the state that comes with it nor by a
step of its call. -/
structure CallRequest.Keeps (ds : ByKind (Device σ)) (P : KeyringKind → KeyringState → Prop)
    (q : CallRequest) : Prop where
  adopted : ∀ {kind s}, KeyringKind.ofText? q.type = some kind → q.prevState ≠ .null →
    KeyringState.ofJson kind.defaultPath q.prevState = .ok s → P kind s
  called : ∀ {kind method call s s'}, KeyringKind.ofText? q.type = some kind →
    Method.find? kind q.method = some method → Call.parse method q.args = .ok call →
    call.Change (ds.get kind) kind s s' → P kind s → P kind s'

/-! ### One call -/

namespace Keyring

variable {d : Device σ} {k : Keyring σ} {method : Method} {args : List Json} {prevState : Json}
  {Q : KeyringState → Prop}

/-- Taking a state over keeps what the given state has. -/
theorem adopt_keeps
    (adopted : prevState ≠ .null → ∀ s, KeyringState.ofJson k.kind.defaultPath prevState = .ok s → Q s)
    (start : Q k.state) : Q (k.adopt prevState).2.state := by
  unfold adopt
  split
  · exact start
  · next given =>
    unfold restore
    split
    · exact start
    · next s read =>
      refine adopted ?_ s read
      rintro rfl
      exact given rfl

/-- A call keeps what the given state has and what its changes keep, also if it fails. -/
theorem perform_keeps
    (adopted : prevState ≠ .null → ∀ s, KeyringState.ofJson k.kind.defaultPath prevState = .ok s → Q s)
    (called : ∀ call, Call.parse method args = .ok call →
      ∀ s s', call.Change d k.kind s s' → Q s → Q s')
    (start : Q k.state) : Q (k.perform d method args prevState).2.state := by
  have taken := adopt_keeps adopted start
  have kind := kind_adopt k prevState
  unfold perform
  split
  · next e k' h => rwa [h] at taken
  · next k' h =>
    rw [h] at taken kind
    split
    · exact taken
    · next call parsed =>
      have changed := invoke_changes d k' call
      rw [← kind] at called
      -- The call may have failed half way; what it has done until then are changes, too.
      have kept := changed.keeps (called call parsed) taken
      split
      · next h => rwa [h] at kept
      · next h => rwa [h] at kept

end Keyring

/-! ### Requests -/

namespace Relay

variable {r : Relay σ} {q : CallRequest}

/-- A request that does not break a property leaves all keyrings with it. -/
theorem execute_keeps (h : q.Keeps ds P) (start : ∀ kind, P kind (r.keyring kind).state)
    (kind : KeyringKind) : P kind ((r.execute ds q).2.keyring kind).state := by
  by_cases named : KeyringKind.ofText? q.type = some kind
  · obtain unknown | ⟨method, known, found⟩ := Method.resolve_of_named named q.method
    · simp only [execute, unknown]
      exact start kind
    · have same := kind_keyring r kind
      simp only [execute, found, keyring_setKeyring]
      refine Keyring.perform_keeps ?_ ?_ (start kind)
      · rw [same]
        exact fun given s read => h.adopted named given read
      · rw [same]
        exact fun call parsed s s' step => h.called named known parsed step
  · -- The request is not for this keyring, and leaves it alone.
    rw [(execute_agreesAt_self ds r named).keyring]
    exact start kind

/-- So does a request that may be out of focus. -/
theorem process_keeps (h : q.Keeps ds P) (start : ∀ kind, P kind (r.keyring kind).state)
    (kind : KeyringKind) : P kind ((r.process ds q).2.keyring kind).state := by
  cases focused : r.gate.isFocused with
  | false =>
    rw [process_of_not_focused focused]
    exact start kind
  | true =>
    rw [process_of_focused focused]
    exact execute_keeps h start kind

/-- A property of keyring states that no request of a run breaks holds after the run if it held
before. -/
theorem run_keeps {events : List RelayEvent} (keeps : ∀ q, .call q ∈ events → q.Keeps ds P)
    (start : ∀ kind, P kind (r.keyring kind).state) (kind : KeyringKind) :
    P kind ((r.run ds events).2.keyring kind).state := by
  induction events generalizing r with
  | nil => exact start kind
  | cons event events ih =>
    rw [run_cons]
    refine ih (fun q mem => keeps q (List.mem_cons_of_mem _ mem)) ?_
    -- Moving the focus touches no keyring.
    cases event with
    | focus focused => exact start
    | call q => exact process_keeps (keeps q List.mem_cons_self) start

theorem state_keyring_new (devices : ByKind σ) (gate : FocusGate) (kind : KeyringKind) :
    ((new devices gate).keyring kind).state = .new kind.defaultPath := by
  cases kind <;> rfl

end Relay
end WalletRelay
