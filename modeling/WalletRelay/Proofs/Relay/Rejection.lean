import WalletRelay.Proofs.Relay.DeviceRefusal
import WalletRelay.Proofs.Relay.Rehydration

/-!
# Requests that are rejected for other reasons

A device that refuses can leave a call half done. Every other rejection is all or nothing. Indices,
accounts and arguments are checked before anything is written and before the device is asked
(`Keyring.Fails.early`); only whose signature it is can be checked no earlier than when there is one, and
signing writes nothing (`Keyring.Fails.mismatched`).

So a request that is rejected, but not for the device's sake, leaves its keyring in the state that came
with the request if this state was taken over, and otherwise as it was; the other keyrings are not touched
(`process_of_rejection`). To say that a device was not asked, the devices note their requests.
-/

namespace WalletRelay

variable {σ : Type} {d : Device σ}

namespace Keyring

variable {k k' : Keyring σ}

/-- The ways in which an operation on the keyring `k` fails, with the keyring that is left. -/
inductive Fails (k : Keyring σ) : KeyringError → Keyring σ → Prop
  | refused (e : DeviceError) (k' : Keyring σ) : Fails k (.device e) k'
  | mismatched {a : Address} {k' : Keyring σ} :
      k'.state = k.state →
      Fails k (.signatureMismatch a) k'
  /-- Nothing was written, and the device was not asked. -/
  | early (e : KeyringError) : Fails k e k

/-! ### Operations -/

/-- The entries of a page are only missing if the device refuses. -/
theorem entriesFrom_of_error {index count : Nat} {e : KeyringError}
    (h : entriesFrom d index count k = (.error e, k')) : ∃ e', e = .device e' := by
  induction count generalizing index k with
  | zero => cases h
  | succ count ih =>
    rw [entriesFrom] at h
    split at h
    · next asked =>
      cases h
      obtain ⟨e', _, -, same, -⟩ := addressAt_eq_error_iff.1 asked
      exact ⟨e', same⟩
    · split at h
      · next stopped =>
        cases h
        exact ih stopped
      · cases h

/-- Unlocking fails only if the device refuses. -/
theorem fails_of_unlock {hdPath : Option String} {e : KeyringError}
    (h : k.unlock d hdPath = (.error e, k')) : k.Fails e k' := by
  -- A new root path is in its place by now, but only the device can refuse.
  have asked : ∃ start : Keyring σ, start.addressAt d 0 = (.error e, k') := by
    cases hdPath with
    | none => exact ⟨_, h⟩
    | some path => exact ⟨_, h⟩
  obtain ⟨start, asked⟩ := asked
  obtain ⟨e', _, -, rfl, -⟩ := addressAt_eq_error_iff.1 asked
  exact .refused e' k'

/-- Adding accounts fails before anything is done, or by a refusal. -/
theorem fails_of_addAccounts {count : Nat} {e : KeyringError}
    (h : k.addAccounts d count = (.error e, k')) : k.Fails e k' := by
  simp only [addAccounts] at h
  split at h
  · cases h
    exact .early e
  · split at h
    · next stopped =>
      cases h
      obtain ⟨_, -, _, e', -, -, rfl, -⟩ := trackFrom_of_error stopped
      exact .refused e' k'
    · cases h

/-- A page in range is only missing if the device refuses one of its accounts. -/
theorem refused_of_showPage {page : Nat} {e : KeyringError}
    (inRange : checkRange (min ((page - 1) * pageSize) maxIndex) pageSize = .ok ())
    (h : k.showPage d page = (.error e, k')) : ∃ e', e = .device e' := by
  simp only [showPage, inRange] at h
  split at h
  · next stopped =>
    cases h
    exact entriesFrom_of_error stopped
  · cases h

/-- Showing a page fails before the device is asked, or by a refusal. -/
theorem fails_of_showPage {page : Nat} {e : KeyringError}
    (h : k.showPage d page = (.error e, k')) : k.Fails e k' := by
  cases range : checkRange (min ((page - 1) * pageSize) maxIndex) pageSize with
  | error e' =>
    simp only [showPage, range] at h
    cases h
    exact .early _
  | ok u =>
    obtain ⟨e', rfl⟩ := refused_of_showPage range h
    exact .refused e' k'

/-- The page shown last is forgotten before the range is checked, but the first page is always in range. -/
theorem fails_of_firstPage {e : KeyringError} (h : k.firstPage d = (.error e, k')) :
    k.Fails e k' := by
  have inRange : checkRange (min ((1 - 1) * pageSize) maxIndex) pageSize = .ok () :=
    checkRange_eq_ok_iff.2 (by decide)
  obtain ⟨e', rfl⟩ := refused_of_showPage inRange h
  exact .refused e' k'

/-- A state is read before anything is written. -/
theorem fails_of_restore {serialized : Json} {e : KeyringError}
    (h : k.restore serialized = (.error e, k')) : k.Fails e k' := by
  unfold restore at h
  split at h
  · cases h
    exact .early _
  · cases h

/-- An account is looked up before anything is removed. -/
theorem fails_of_removeAccount {a : Address} {e : KeyringError}
    (h : k.removeAccount a = (.error e, k')) : k.Fails e k' := by
  unfold removeAccount at h
  split at h
  · cases h
  · cases h
    exact .early _

/-- Signing fails before the device is asked, by a refusal, or by a signature of another account. -/
theorem fails_of_signWith {ask : String → σ → Except DeviceError Signature × σ} {hash : Hash32}
    {a : Address} {e : KeyringError} (h : k.signWith ask hash a = (.error e, k')) :
    k.Fails e k' := by
  -- The account is looked up before the device is asked, and what it answers is checked afterwards.
  unfold signWith at h
  split at h
  · cases h
    exact .early _
  · split at h
    · cases h
      exact .refused _ _
    · obtain ⟨checked, rfl⟩ := Prod.mk.inj h
      unfold checkSigner at checked
      split at checked
      · cases checked
      · cases checked
        exact .mismatched rfl

/-- An operation that fails was refused by the device, or has done nothing but sign in vain. -/
theorem fails_of_invoke {call : Call} {e : KeyringError} (h : call.invoke d k = (.error e, k')) :
    k.Fails e k' := by
  cases call with
  | serialize | isUnlocked | setAccountToUnlock | getAccounts | setHdPath | forgetDevice => cases h
  | deserialize serialized => exact fails_of_restore (Call.respond_eq_error_iff.1 h)
  | unlock hdPath => exact fails_of_unlock (Call.respond_eq_error_iff.1 h)
  | addAccounts count => exact fails_of_addAccounts (Call.respond_eq_error_iff.1 h)
  | getFirstPage => exact fails_of_firstPage (Call.respond_eq_error_iff.1 h)
  | getNextPage | getPreviousPage => exact fails_of_showPage (Call.respond_eq_error_iff.1 h)
  | removeAccount a => exact fails_of_removeAccount (Call.respond_eq_error_iff.1 h)
  | signTransaction a tx =>
    obtain ⟨answer, left⟩ := Prod.mk.inj (Call.respond_eq_error_iff.1 h)
    exact fails_of_signWith (Prod.ext (Except.map_eq_error_iff.1 answer) left)
  | signPersonalMessage a message => exact fails_of_signWith (Call.respond_eq_error_iff.1 h)

/-- Taking a state over is no matter for the device. -/
theorem device_adopt (k : Keyring σ) (prevState : Json) : (k.adopt prevState).2.device = k.device := by
  unfold adopt restore
  split
  · rfl
  · split <;> rfl

/-- A state that cannot be read is not taken over. -/
theorem of_adopt_eq_error {prevState : Json} {e : KeyringError}
    (h : k.adopt prevState = (.error e, k')) : k' = k := by
  unfold adopt restore at h
  split at h
  · cases h
  · split at h
    · cases h
      rfl
    · cases h

end Keyring

/-! ### Requests -/

namespace Relay

variable {ds : ByKind (Device σ)} {r r' : Relay σ} {q : CallRequest} {e : RelayError}

/-- The state that came with a request was taken over, and `start` is the keyring with this state. A
request without a state is as good as one with the present state. -/
structure TakesOver (r : Relay σ) (q : CallRequest) (kind : KeyringKind) (start : Keyring σ) : Prop where
  found : ∃ method, Method.resolve q.type q.method = .ok (kind, method)
  adopted : (r.keyring kind).adopt q.prevState = (.ok (), start)

/-- A request takes over one state. -/
theorem TakesOver.unique {kind : KeyringKind} {start start' : Keyring σ}
    (h : r.TakesOver q kind start) (h' : r.TakesOver q kind start') : start = start' := by
  have same := h.adopted.symm.trans h'.adopted
  exact (Prod.mk.inj same).2

/-- A request takes over the state of one keyring. -/
theorem TakesOver.kind_unique {kind kind' : KeyringKind} {start start' : Keyring σ}
    (h : r.TakesOver q kind start) (h' : r.TakesOver q kind' start') : kind = kind' := by
  obtain ⟨method, found⟩ := h.found
  obtain ⟨method', found'⟩ := h'.found
  have same := found.symm.trans found'
  exact (Prod.mk.inj (Except.ok.inj same)).1

/-- What a rejection leaves that is not the device's: the relay as it was, or with the keyring that took
over the state; only a signature of another account's has cost the device a request. -/
theorem left_of_rejection (rejected : r.execute ds q = (.error e, r'))
    (other : ∀ cause, e ≠ .keyring (.device cause)) :
    ((∀ kind start, ¬ r.TakesOver q kind start) ∧
      (r' = r ∨ ∃ kind, r' = r.setKeyring kind (r.keyring kind))) ∨
    ∃ kind start final, r.TakesOver q kind start ∧ r' = r.setKeyring kind final ∧
      final.state = start.state ∧ ((∀ a, e ≠ .keyring (.signatureMismatch a)) → final = start) := by
  cases execute_eq_error_iff_refuses.1 rejected with
  | unknownKeyring unknown =>
    refine .inl ⟨?_, .inl rfl⟩
    rintro kind start ⟨⟨method, found⟩, -⟩
    rw [Method.resolve, unknown] at found
    cases found
  | unknownMethod named unknown =>
    refine .inl ⟨?_, .inl rfl⟩
    rintro kind start ⟨⟨method, found⟩, -⟩
    rw [Method.resolve, named] at found
    simp only [unknown] at found
    cases found
  | badState named known adopted =>
    obtain rfl := Keyring.of_adopt_eq_error adopted
    refine .inl ⟨?_, .inr ⟨_, rfl⟩⟩
    rintro kind start ⟨⟨method, found⟩, taken⟩
    -- There is only one kind that the request names, and its keyring has refused the state.
    obtain rfl := Option.some.inj (named.symm.trans (Method.resolve_eq_ok_iff.1 found).1)
    rw [adopted] at taken
    cases taken
  | badArguments named known adopted parsed =>
    have taken := TakesOver.mk ⟨_, Method.resolve_eq_ok_iff.2 ⟨named, known⟩⟩ adopted
    exact .inr ⟨_, _, _, taken, rfl, rfl, fun _ => rfl⟩
  | failed named known adopted parsed answered =>
    have taken := TakesOver.mk ⟨_, Method.resolve_eq_ok_iff.2 ⟨named, known⟩⟩ adopted
    cases Keyring.fails_of_invoke answered with
    | refused cause => exact absurd rfl (other cause)
    | mismatched same =>
      exact .inr ⟨_, _, _, taken, rfl, same, fun mine => absurd rfl (mine _)⟩
    | early => exact .inr ⟨_, _, _, taken, rfl, rfl, fun _ => rfl⟩

/-- A keyring that is put back with its own device leaves the devices as they were. -/
theorem devices_setKeyring {k : Keyring σ} {kind : KeyringKind}
    (same : k.device = (r.keyring kind).device) : (r.setKeyring kind k).devices = r.devices := by
  -- A keyring that is taken out has the device of its kind.
  have device : k.device = r.devices.get kind := by
    rw [same, keyring]
    split <;> rfl
  apply ByKind.ext_get
  intro kind'
  by_cases eq : kind' = kind
  · subst eq
    simp [setKeyring, device]
  · simp [setKeyring, ByKind.get_set_of_ne _ eq]

/-- The devices have no part in a rejection that is neither for their sake nor for the signer's. -/
theorem devices_of_rejection (rejected : r.execute ds q = (.error e, r'))
    (other : ∀ cause, e ≠ .keyring (.device cause))
    (early : ∀ a, e ≠ .keyring (.signatureMismatch a)) : r'.devices = r.devices := by
  obtain ⟨-, rfl | ⟨kind, rfl⟩⟩ | ⟨kind, start, final, taken, rfl, -, asked⟩ :=
    left_of_rejection rejected other
  · rfl
  · exact devices_setKeyring rfl
  · rw [asked early]
    -- The keyring that took the state over still has its device as it was.
    have kept := Keyring.device_adopt (r.keyring kind) q.prevState
    rw [taken.adopted] at kept
    exact devices_setKeyring kept

/-- Noting the requests to the devices does not change the answer. -/
theorem execute_recorded (ds : ByKind (Device σ)) (r : Relay σ) (q : CallRequest) :
    (r.recorded.execute (recordingDevices ds) q).1 = (r.execute ds q).1 := by
  cases named : KeyringKind.ofText? q.type with
  | none => simp only [execute, Method.resolve, named]
  | some kind =>
    -- A device that notes what it is asked answers like one that does not.
    have sim : ((recordingDevices ds).get kind).Simulates (fun noted u => noted.1 = u) (ds.get kind) := by
      rw [recordingDevices, ByKind.get_ofFn]
      exact Device.recording_simulates _
    exact (execute_alike sim (recorded_records r kind) named).1

/-- Nothing is asked of the devices before a request is rejected, unless it is for their sake or the
signer's. -/
theorem notes_of_rejection (rejected : r.execute ds q = (.error e, r'))
    (other : ∀ cause, e ≠ .keyring (.device cause))
    (early : ∀ a, e ≠ .keyring (.signatureMismatch a)) :
    (r.recorded.execute (recordingDevices ds) q).1 = .error e ∧
    ∀ kind, ((r.recorded.execute (recordingDevices ds) q).2.devices.get kind).2 = [] := by
  have answer : (r.recorded.execute (recordingDevices ds) q).1 = .error e := by
    rw [execute_recorded, rejected]
  refine ⟨answer, ?_⟩
  intro kind
  -- The noting relay has no part in the rejection either, and it begins with nothing noted.
  have noted : (r.recorded.execute (recordingDevices ds) q).2.devices = r.recorded.devices :=
    devices_of_rejection (Prod.ext answer rfl) other early
  rw [noted, recorded, ByKind.get_ofFn]

/-- A request in focus that is rejected, and not because its device refuses something, leaves its keyring
in the state that came with it, if this state was taken over, and otherwise as it was, new if it was not
asked for yet; the other keyrings and their devices are not touched. Unless a signature turned out to be
another account's, the devices were asked nothing. -/
theorem process_of_rejection (focused : r.gate.isFocused = true)
    (rejected : r.execute ds q = (.error e, r')) (other : ∀ cause, e ≠ .keyring (.device cause)) :
    r.process ds q = (some (.reject q.promiseId e.failure.reason), r') ∧
    (∀ kind start, r.TakesOver q kind start → r'.keyrings.get kind = some start.state) ∧
    (∀ kind, (∀ start, ¬ r.TakesOver q kind start) →
      (r'.keyring kind).state = (r.keyring kind).state) ∧
    (∀ kind, KeyringKind.ofText? q.type ≠ some kind → r'.AgreesAt kind r) ∧
    ((∀ a, e ≠ .keyring (.signatureMismatch a)) →
      (r.recorded.execute (recordingDevices ds) q).1 = .error e ∧
      ∀ kind, ((r.recorded.execute (recordingDevices ds) q).2.devices.get kind).2 = []) := by
  have left := left_of_rejection rejected other
  have untouched (kind : KeyringKind) (unnamed : KeyringKind.ofText? q.type ≠ some kind) :
      r'.AgreesAt kind r := by
    have agrees := execute_agreesAt_self ds r unnamed
    rwa [rejected] at agrees
  refine ⟨?_, ?_, ?_, untouched, notes_of_rejection rejected other⟩
  · rw [process_of_focused focused, rejected]
    rfl
  · intro kind start taken
    obtain ⟨none, -⟩ | ⟨kind', start', final, taken', rfl, same, -⟩ := left
    · exact absurd taken (none kind start)
    · -- A request names one keyring, so this is the one that was put back.
      obtain rfl : kind' = kind := taken'.kind_unique taken
      rw [taken'.unique taken] at same
      simp [setKeyring, same]
  · intro kind none
    obtain ⟨-, rfl | ⟨kind', rfl⟩⟩ | ⟨kind', start', final, taken, rfl, -, -⟩ := left
    · rfl
    · by_cases eq : kind = kind'
      · subst eq
        rw [keyring_setKeyring]
      · rw [(setKeyring_agreesAt_of_ne eq r _).keyring]
    · by_cases eq : kind = kind'
      · subst eq
        exact absurd taken (none start')
      · rw [(setKeyring_agreesAt_of_ne eq r _).keyring]

/-! ### Indices out of range -/

/-- A request to add an account beyond the last index, from a state in which nothing else is set. -/
def addBeyondLimit : CallRequest where
  type := "trezor"
  method := "addAccounts"
  args := []
  prevState := .object [("unlockedAccount", .ofNat 0x80000000)]
  promiseId := "a"

/-- The empty state that comes along takes the place of the one with three accounts, and no device is
asked. -/
theorem process_of_rejection_addBeyondLimit :
    ∃ start, usedRelay.TakesOver addBeyondLimit .trezor start ∧ start.state.accounts = [] ∧
      (usedRelay.keyring .trezor).state.accounts.length = 3 ∧
      ∃ r', (usedRelay.process (.const .echoing) addBeyondLimit).2 = r' ∧
        r'.keyrings.get .trezor = some start.state ∧
        (usedRelay.recorded.execute (recordingDevices (.const .echoing)) addBeyondLimit).1 =
          .error (.keyring (.indexOutOfRange 0x80000000)) := by
  have taken : usedRelay.TakesOver addBeyondLimit .trezor
      ((usedRelay.keyring .trezor).adopt addBeyondLimit.prevState).2 := ⟨⟨_, rfl⟩, rfl⟩
  have rejected : usedRelay.execute (.const .echoing) addBeyondLimit =
      (.error (.keyring (.indexOutOfRange 0x80000000)),
        (usedRelay.execute (.const .echoing) addBeyondLimit).2) := rfl
  obtain ⟨answer, state, -, -, notes⟩ := process_of_rejection rfl rejected nofun
  refine ⟨_, taken, by decide +kernel, by decide +kernel, _, congrArg Prod.snd answer, ?_, ?_⟩
  · exact state _ _ taken
  · exact (notes nofun).1

end Relay
end WalletRelay
