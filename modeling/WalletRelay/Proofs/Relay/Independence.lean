import WalletRelay.Proofs.Keyring.Simulation
import WalletRelay.Proofs.Keyring.Tracking
import WalletRelay.Proofs.Relay.Separation

/-!
# The past of a relay

What a relay did before shows in its answers in two ways only: by the states of its keyrings, and by
the devices, if these remember what they were asked. `Relay.CorrespondsAt` compares two relays for one
kind of keyring, a keyring that was not asked for yet counting as a new one, and `run_correspondsAt`
says that they stay alike whatever is asked of both, and that requests for this kind have the same
outcomes.

With devices that do not remember, a request that brings its state along has therefore the same outcome
in every relay, and a relay that has forgotten a device is like one that never had the keyring
(`outcome_independent_of_past`).
-/

namespace WalletRelay

variable {σ τ : Type} {R : σ → τ → Prop}

namespace Relay

/-- The keyrings of a kind at two relays correspond, and both relays are in focus or both out of it. -/
structure CorrespondsAt (R : σ → τ → Prop) (kind : KeyringKind) (r : Relay σ) (s : Relay τ) :
    Prop where
  gate : r.gate = s.gate
  keyring : (r.keyring kind).Corresponds R (s.keyring kind)

variable {ds : ByKind (Device σ)} {es : ByKind (Device τ)} {kind : KeyringKind}
  {r r' : Relay σ} {s s' : Relay τ} {q : CallRequest}

theorem CorrespondsAt.of_agreesAt (h : r.CorrespondsAt R kind s) (left : r'.AgreesAt kind r)
    (right : s'.AgreesAt kind s) : r'.CorrespondsAt R kind s' where
  gate := (left.gate.trans h.gate).trans right.gate.symm
  keyring := by
    rw [left.keyring, right.keyring]
    exact h.keyring

/-- Keyrings that correspond can be put back. -/
theorem setKeyring_correspondsAt (gate : r.gate = s.gate) {k : Keyring σ} {l : Keyring τ}
    (h : k.Corresponds R l) : (r.setKeyring kind k).CorrespondsAt R kind (s.setKeyring kind l) where
  gate := gate
  keyring := by
    rw [keyring_setKeyring, keyring_setKeyring]
    exact ⟨rfl, h.state, h.device⟩

/-! ### One event -/

/-- Relays that are alike for the kind that a request names give the same answer, and stay alike. -/
theorem execute_alike (sim : (ds.get kind).Simulates R (es.get kind)) (h : r.CorrespondsAt R kind s)
    (named : KeyringKind.ofText? q.type = some kind) :
    AnswersAlike (CorrespondsAt R kind) (r.execute ds q) (s.execute es q) := by
  obtain unknown | ⟨method, -, found⟩ := Method.resolve_of_named named q.method
  · simp only [execute, unknown]
    exact ⟨rfl, h⟩
  -- The relays find the same method, so the question is put to keyrings that correspond.
  · have same := Keyring.perform_alike sim h.keyring method q.args q.prevState
    simp only [execute, found]
    exact ⟨same.1, setKeyring_correspondsAt h.gate same.2⟩

/-- So do relays in focus; out of it, neither of them answers. -/
theorem process_alike (sim : (ds.get kind).Simulates R (es.get kind)) (h : r.CorrespondsAt R kind s)
    (named : KeyringKind.ofText? q.type = some kind) :
    AnswersAlike (CorrespondsAt R kind) (r.process ds q) (s.process es q) := by
  cases focused : s.gate.isFocused with
  | false =>
    rw [process_of_not_focused focused, process_of_not_focused (by rw [h.gate, focused])]
    exact ⟨rfl, h⟩
  | true =>
    rw [process_of_focused focused, process_of_focused (by rw [h.gate, focused])]
    have same := execute_alike sim h named
    exact ⟨by rw [same.1], same.2⟩

/-- No event makes two relays differ that are alike for a kind. -/
theorem react_correspondsAt (sim : (ds.get kind).Simulates R (es.get kind))
    (h : r.CorrespondsAt R kind s) (event : RelayEvent) :
    (r.react ds event).2.CorrespondsAt R kind (s.react es event).2 := by
  cases event with
  | focus focused => exact ⟨rfl, h.keyring⟩
  | call q =>
    by_cases named : KeyringKind.ofText? q.type = some kind
    · exact (process_alike sim h named).2
    · exact h.of_agreesAt (process_agreesAt_self ds r named) (process_agreesAt_self es s named)

/-- Relays that are alike for a kind stay so, whatever is asked of both. -/
theorem run_correspondsAt (sim : (ds.get kind).Simulates R (es.get kind))
    (h : r.CorrespondsAt R kind s) (events : List RelayEvent) :
    (r.run ds events).2.CorrespondsAt R kind (s.run es events).2 := by
  induction events generalizing r s with
  | nil => exact h
  | cons event events ih =>
    rw [run_cons, run_cons]
    exact ih (react_correspondsAt sim h event)

end Relay

/-! ### Requests that bring their state along -/

namespace Keyring

variable {d : Device σ} {e : Device τ} {k : Keyring σ} {l : Keyring τ} {method : Method}
  {args : List Json} {prevState : Json}

/-- A state that is given has to be read. -/
theorem adopt_of_ne_null (given : prevState ≠ .null) : k.adopt prevState = k.restore prevState := by
  have there : prevState.isNull = false := by
    cases prevState with
    | null => exact absurd rfl given
    | _ => rfl
  simp [adopt, there]

/-- If the state that is given cannot be read, nothing else counts. -/
theorem perform_of_unreadable (given : prevState ≠ .null) {cause : DecodeError}
    (read : KeyringState.ofJson k.kind.defaultPath prevState = .error cause) :
    k.perform d method args prevState = (.error (.keyring (.invalidState cause)), k) := by
  have refused : k.adopt prevState = (.error (.invalidState cause), k) := by
    rw [adopt_of_ne_null given, restore, read]
  rw [perform, refused]

/-- If the state that is given can be read, the present one does not count. -/
theorem perform_of_readable (given : prevState ≠ .null) {start : KeyringState}
    (read : KeyringState.ofJson k.kind.defaultPath prevState = .ok start) :
    k.perform d method args prevState =
      ({ k with state := start } : Keyring σ).perform d method args .null := by
  have taken : k.adopt prevState = (.ok (), { k with state := start }) := by
    rw [adopt_of_ne_null given, restore, read]
  have kept : ({ k with state := start } : Keyring σ).adopt .null =
      (.ok (), { k with state := start }) := rfl
  rw [perform, perform, taken, kept]

/-- Keyrings of the same kind act alike once they are given the same state. -/
theorem perform_alike_of_readable (sim : d.Simulates R e) (kind : k.kind = l.kind)
    (device : R k.device l.device) (given : prevState ≠ .null) {start : KeyringState}
    (read : KeyringState.ofJson k.kind.defaultPath prevState = .ok start) :
    AnswersAlike (Corresponds R) (k.perform d method args prevState)
      (l.perform e method args prevState) := by
  rw [perform_of_readable given read, perform_of_readable given (kind ▸ read)]
  have same : ({ k with state := start } : Keyring σ).Corresponds R { l with state := start } :=
    ⟨kind, rfl, device⟩
  exact perform_alike sim same method args .null

end Keyring

namespace Relay

variable {ds : ByKind (Device σ)} {kind : KeyringKind} {r s : Relay σ} {q : CallRequest}

/-- At devices that do not remember, the keyrings of two relays act alike once they are given the same state.
-/
theorem perform_alike_of_prevState (free : (ds.get kind).HistoryFree) (given : q.prevState ≠ .null)
    {start : KeyringState} (read : KeyringState.ofJson kind.defaultPath q.prevState = .ok start)
    (method : Method) (r s : Relay σ) :
    AnswersAlike (Keyring.Corresponds fun _ _ => True)
      ((r.keyring kind).perform (ds.get kind) method q.args q.prevState)
      ((s.keyring kind).perform (ds.get kind) method q.args q.prevState) := by
  have kinds : (r.keyring kind).kind = (s.keyring kind).kind := by rw [kind_keyring, kind_keyring]
  rw [← kind_keyring r kind] at read
  exact Keyring.perform_alike_of_readable free.simulates kinds trivial given read

/-- The answer to a request that brings its state along does not depend on the relay. -/
theorem execute_fst_of_prevState (free : ∀ kind, (ds.get kind).HistoryFree)
    (given : q.prevState ≠ .null) : (r.execute ds q).1 = (s.execute ds q).1 := by
  unfold execute
  cases Method.resolve q.type q.method with
  | error e => rfl
  | ok target =>
    obtain ⟨kind, method⟩ := target
    cases read : KeyringState.ofJson kind.defaultPath q.prevState with
    | error cause =>
      have refused (r : Relay σ) :
          (r.keyring kind).perform (ds.get kind) method q.args q.prevState =
            (.error (.keyring (.invalidState cause)), r.keyring kind) :=
        Keyring.perform_of_unreadable given (by rwa [kind_keyring])
      simp only [refused]
    | ok start => exact (perform_alike_of_prevState (free kind) given read method r s).1

/-- Nor does the state in which it leaves its keyring. -/
theorem execute_state_of_prevState (free : ∀ kind, (ds.get kind).HistoryFree)
    (given : q.prevState ≠ .null) {method : Method} {start : KeyringState}
    (found : Method.resolve q.type q.method = .ok (kind, method))
    (read : KeyringState.ofJson kind.defaultPath q.prevState = .ok start) :
    ∃ final, (r.execute ds q).2.keyrings.get kind = some final ∧
      (s.execute ds q).2.keyrings.get kind = some final := by
  have same := (perform_alike_of_prevState (free kind) given read method r s).2
  refine ⟨((r.keyring kind).perform (ds.get kind) method q.args q.prevState).2.state, ?_, ?_⟩
  · simp [execute, found, setKeyring]
  · simp [execute, found, setKeyring, same.state]

/-! ### Forgetting a device -/

/-- Once it has forgotten a device, a relay has a new keyring in place of the old one. -/
theorem correspondsAt_of_forgotten {r' fresh : Relay σ} {o : CallOutcome}
    (answered : r.process ds q = (some o, r')) (resolved : o.isResolved)
    (asked : q.method = "forgetDevice") (named : KeyringKind.ofText? q.type = some kind)
    (absent : fresh.keyrings.get kind = none) (focused : fresh.gate.isFocused = true) :
    r'.CorrespondsAt (fun _ _ => True) kind fresh := by
  obtain ⟨inFocus, kind', method, call, start, final, response, steps, -, rfl⟩ :=
    process_resolved_iff.1 ⟨answered, resolved⟩
  -- The request names the keyring and the method, so these are the ones of its steps.
  obtain rfl : kind = kind' := Option.some.inj (named.symm.trans steps.named)
  obtain rfl : method = .forgetDevice :=
    Method.name_injective ((Method.find?_eq_some_iff.1 steps.known).2.trans asked)
  have parsed := steps.parsed
  cases parsed
  have invoked := steps.invoked
  cases invoked
  -- The keyring that was forgotten is of this kind, so a new one has the same root path.
  have started : start.kind = kind := by
    have same := Keyring.kind_adopt (r.keyring kind) q.prevState
    rwa [steps.adopted, kind_keyring] at same
  have missing : fresh.keyring kind = .new kind (fresh.devices.get kind) := by
    rw [keyring, absent]
  have gate : r.gate = fresh.gate := by
    have inFocus' : r.gate.isFocused = fresh.gate.isFocused := by rw [inFocus, focused]
    cases hr : r.gate
    cases hf : fresh.gate
    simpa [hr, hf] using inFocus'
  refine ⟨gate, ?_⟩
  rw [keyring_setKeyring, missing]
  exact ⟨rfl, by rw [Keyring.forgetDevice, started]; rfl, trivial⟩

/-- With devices that do not remember what they were asked, a request that brings its state along has
the same outcome in all relays in focus, and if the state can be read, it leaves its keyring in the same
state. Once a device was forgotten, requests for its keyring have the outcomes that they have in a relay
in which there never was one. -/
theorem outcome_independent_of_past (free : ∀ kind, (ds.get kind).HistoryFree) :
    (∀ (r s : Relay σ) (q : CallRequest), r.gate.isFocused = true → s.gate.isFocused = true →
      q.prevState ≠ .null →
      (∃ o, (r.process ds q).1 = some o ∧ (s.process ds q).1 = some o) ∧
      ∀ kind method start, Method.resolve q.type q.method = .ok (kind, method) →
        KeyringState.ofJson kind.defaultPath q.prevState = .ok start →
        ∃ final, (r.process ds q).2.keyrings.get kind = some final ∧
          (s.process ds q).2.keyrings.get kind = some final) ∧
    ∀ (r r' fresh : Relay σ) (q : CallRequest) (o : CallOutcome) (kind : KeyringKind),
      r.process ds q = (some o, r') → o.isResolved → q.method = "forgetDevice" →
      KeyringKind.ofText? q.type = some kind →
      fresh.keyrings.get kind = none → fresh.gate.isFocused = true →
      ∀ events later, KeyringKind.ofText? later.type = some kind →
        ((r'.run ds events).2.process ds later).1 =
          ((fresh.run ds events).2.process ds later).1 := by
  constructor
  · intro r s q inFocus inFocus' given
    rw [process_of_focused inFocus, process_of_focused inFocus']
    constructor
    · exact ⟨_, rfl, by rw [execute_fst_of_prevState free given]⟩
    · intro kind method start found read
      exact execute_state_of_prevState free given found read
  · intro r r' fresh q o kind answered resolved asked named absent focused events later named'
    have sim := (free kind).simulates
    -- From the forgotten device on, both relays are asked for the same things.
    have alike := correspondsAt_of_forgotten answered resolved asked named absent focused
    exact (process_alike sim (run_correspondsAt sim alike events) named').1

/-! ### Two relays with different pasts -/

def usedRelay : Relay Unit :=
  ((new (.const ()) {}).run (.const .echoing)
    [.call ⟨"trezor", "addAccounts", [.ofNat 3], .null, "a"⟩]).2

def askEmptyState : CallRequest :=
  ⟨"trezor", "getAccounts", [], .object [], "b"⟩

def forgetTrezor : CallRequest :=
  ⟨"Trezor Hardware", "forgetDevice", [], .null, "c"⟩

/-- A device that tells everybody the same does not remember. -/
theorem echoing_historyFree (kind : KeyringKind) :
    ((ByKind.const Device.echoing).get kind).HistoryFree := by
  rw [ByKind.get_const]
  exact ⟨fun _ _ => rfl, fun _ _ _ => rfl, fun _ _ _ _ => rfl, fun _ _ _ _ => rfl⟩

/-- A relay with three accounts is given an empty state, and then forgets its device. -/
theorem outcome_independent_of_past_echoing :
    (usedRelay.keyring .trezor).state.accounts.length = 3 ∧
    (∃ o, (usedRelay.process (.const .echoing) askEmptyState).1 = some o ∧
      ((new (.const ()) {}).process (.const .echoing) askEmptyState).1 = some o) ∧
    ∃ o r', usedRelay.process (.const .echoing) forgetTrezor = (some o, r') ∧ o.isResolved ∧
      (r'.process (.const .echoing) (askAccounts "d")).1 =
        ((new (.const ()) {}).process (.const .echoing) (askAccounts "d")).1 := by
  obtain ⟨restored, forgotten⟩ := outcome_independent_of_past echoing_historyFree
  refine ⟨by decide +kernel, ?_, ?_⟩
  · exact (restored usedRelay (new (.const ()) {}) askEmptyState rfl rfl nofun).1
  · refine ⟨_, _, rfl, rfl, ?_⟩
    exact forgotten usedRelay _ (new (.const ()) {}) forgetTrezor _ .trezor rfl rfl rfl rfl rfl rfl []
      (askAccounts "d") rfl

end Relay
end WalletRelay
