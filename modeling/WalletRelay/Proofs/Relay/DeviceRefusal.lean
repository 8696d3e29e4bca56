import WalletRelay.Proofs.Keyring.Changes
import WalletRelay.Proofs.Relay.Refusal

/-!
# Requests that a device refuses

A device may refuse anything it is asked. Most calls ask first and change the state of the keyring only
when they have all answers, so a refusal leaves the state as it was when the call began. Three calls
change it before they ask: adding accounts takes each account into use as soon as its address is known,
unlocking under a new root path sets the path, and showing the first page forgets the page shown last.

`Call.LeavesOnRefusal` says what each call leaves behind, and `execute_of_refusal` that a request that
is rejected for the device's sake leaves this and nothing else. `refusal_changes_state` has a request
for each of the three calls after which the state is another one.
-/

namespace WalletRelay

variable {σ : Type}

/-- The keyring `k'` has the state that a call leaves which begins at `k` and fails because the device
refuses something with the error `e`. -/
def Call.LeavesOnRefusal (d : Device σ) (e : DeviceError) (k k' : Keyring σ) : Call → Prop
  | .addAccounts count =>
    -- The accounts before the refused one have been added.
    ∃ added < count, ∃ accounts before, k.addAccounts d added = (.ok accounts, before) ∧
      (d.address (accountPath k.state.hdPath (k.state.unlockedAccount.toNat + added))
        before.device).1 = .error e ∧
      k'.state = before.state
  | .unlock (some path) => k'.state = k.state.setRoot path
  | .getFirstPage =>
    -- The page is set back before the device is asked. Turning to another page writes it last, when the
    -- entries are there, so nothing is said of the page that is remembered here.
    ∃ page, k'.state = { k.state with page }
  | _ => k'.state = k.state

namespace Keyring

variable {d : Device σ} {k k' : Keyring σ}

/-! ### Operations that ask the device -/

/-- Looking for an address fails only if the device does. -/
theorem addressAt_eq_error_iff {index : Nat} {e : KeyringError} :
    k.addressAt d index = (.error e, k') ↔
      ∃ e' u, d.address (accountPath k.state.hdPath index) k.device = (.error e', u) ∧
        e = .device e' ∧ k' = { k with device := u } := by
  unfold addressAt
  constructor
  · intro h
    split at h
    · next e' u refused => cases h; exact ⟨e', u, refused, rfl, rfl⟩
    · cases h
  · rintro ⟨e', u, refused, rfl, rfl⟩
    rw [refused]

/-- The loop stops at the first refusal. What it leaves is what a shorter loop leaves. -/
theorem trackFrom_of_error {index count : Nat} {e : KeyringError}
    (h : trackFrom d index count k = (.error e, k')) :
    ∃ added < count, ∃ before e', trackFrom d index added k = (.ok (), before) ∧
      (d.address (accountPath k.state.hdPath (index + added)) before.device).1 = .error e' ∧
      e = .device e' ∧ k'.state = before.state := by
  induction count generalizing index k with
  | zero => cases h
  | succ count ih =>
    rw [trackFrom] at h
    split at h
    · next e₁ k₁ asked =>
      cases h
      obtain ⟨e', u, refused, rfl, rfl⟩ := addressAt_eq_error_iff.1 asked
      exact ⟨0, Nat.succ_pos count, k, e', rfl, congrArg Prod.fst refused, rfl, rfl⟩
    · next a k₁ asked =>
      obtain ⟨-, u, rfl⟩ := of_addressAt asked
      obtain ⟨added, fewer, before, e', tracked, refused, same, left⟩ := ih h
      refine ⟨added + 1, Nat.succ_lt_succ fewer, before, e', ?_, ?_, same, left⟩
      · rw [trackFrom, asked]
        exact tracked
      · -- The accounts that follow are looked for under the same root.
        rw [KeyringState.hdPath_track, Nat.succ_add_eq_add_succ] at refused
        exact refused

/-- Accounts are added up to the refused one. -/
theorem addAccounts_of_refusal {count : Nat} {e : DeviceError}
    (h : k.addAccounts d count = (.error (.device e), k')) :
    (Call.addAccounts count).LeavesOnRefusal d e k k' := by
  simp only [addAccounts] at h
  split at h
  · next outside =>
    -- Indices that are out of range are not the device's fault.
    cases h
    unfold checkRange at outside
    split at outside <;> cases outside
  · next inRange =>
    split at h
    · next e₁ k₁ stopped =>
      cases h
      obtain ⟨added, fewer, before, e', tracked, refused, same, left⟩ := trackFrom_of_error stopped
      cases same
      refine ⟨added, fewer, before.state.accounts, before, ?_, refused, left⟩
      have inRange' : checkRange k.state.unlockedAccount.toNat added = .ok () :=
        checkRange_eq_ok_iff.2 (by have := checkRange_eq_ok_iff.1 inRange; omega)
      simp only [addAccounts, inRange', tracked]
    · cases h

/-- A page that cannot be shown changes nothing. -/
theorem showPage_of_error {page : Nat} {e : KeyringError}
    (h : k.showPage d page = (.error e, k')) : k'.state = k.state := by
  simp only [showPage] at h
  split at h
  · cases h; rfl
  · obtain ⟨u, frame⟩ :=
      entriesFrom_frame d (min ((page - 1) * pageSize) maxIndex) pageSize k
    split at h
    · next stopped =>
      cases h
      rw [stopped] at frame
      rw [show k' = { k with device := u } from frame]
    · cases h

/-- Unlocking leaves the root path that it was given. -/
theorem unlock_of_refusal {hdPath : Option String} {e : DeviceError}
    (h : k.unlock d hdPath = (.error (.device e), k')) :
    (Call.unlock hdPath).LeavesOnRefusal d e k k' := by
  cases hdPath with
  | none =>
    obtain ⟨_, u, -, -, rfl⟩ := addressAt_eq_error_iff.1 h
    rfl
  | some path =>
    obtain ⟨_, u, -, -, rfl⟩ := addressAt_eq_error_iff.1 h
    rfl

/-- Signing changes no state, whatever comes of it. -/
theorem state_signWith (ask : String → σ → Except DeviceError Signature × σ) (hash : Hash32)
    (k : Keyring σ) (a : Address) : (k.signWith ask hash a).2.state = k.state := by
  obtain ⟨u, frame⟩ := signWith_frame ask hash k a
  rw [frame]

end Keyring

/-! ### Calls -/

/-- An answer as a response fails exactly if the operation does. -/
theorem Call.respond_eq_error_iff {α : Type} {toJson : α → Json} {result : Keyring.Result σ α}
    {e : KeyringError} {k : Keyring σ} :
    respond toJson result = (.error e, k) ↔ result = (.error e, k) := by
  simp only [respond, Prod.ext_iff, Except.map_eq_error_iff]

/-- A call that fails for the device's sake leaves what is said of it. -/
theorem Call.invoke_of_refusal {d : Device σ} {k k' : Keyring σ} {call : Call} {e : DeviceError}
    (h : call.invoke d k = (.error (.device e), k')) : call.LeavesOnRefusal d e k k' := by
  cases call with
  | serialize | isUnlocked | setAccountToUnlock | getAccounts | setHdPath | forgetDevice => cases h
  | unlock hdPath => exact Keyring.unlock_of_refusal (respond_eq_error_iff.1 h)
  | addAccounts count => exact Keyring.addAccounts_of_refusal (respond_eq_error_iff.1 h)
  | getFirstPage => exact ⟨0, Keyring.showPage_of_error (respond_eq_error_iff.1 h)⟩
  | getNextPage | getPreviousPage => exact Keyring.showPage_of_error (respond_eq_error_iff.1 h)
  -- Reading a state and removing an account have errors of their own only.
  | deserialize serialized =>
    have failed := respond_eq_error_iff.1 h
    unfold Keyring.restore at failed
    split at failed <;> cases failed
  | removeAccount a =>
    have failed := respond_eq_error_iff.1 h
    unfold Keyring.removeAccount at failed
    split at failed <;> cases failed
  | signTransaction a tx =>
    have left : (k.signTransaction d a tx).2 = k' := congrArg Prod.snd (respond_eq_error_iff.1 h)
    subst left
    exact Keyring.state_signWith _ _ k a
  | signPersonalMessage a message =>
    have left : (k.signMessage d a message).2 = k' := congrArg Prod.snd (respond_eq_error_iff.1 h)
    subst left
    exact Keyring.state_signWith _ _ k a

/-- Arguments are read without the device. -/
theorem Call.parse_ne_refusal (method : Method) (args : List Json) (e : KeyringError) :
    parse method args ≠ .error (.keyring e) := by
  intro h
  cases method with
  | serialize | isUnlocked | getFirstPage | getNextPage | getPreviousPage | getAccounts
  | forgetDevice => cases h
  | deserialize | unlock | setAccountToUnlock | addAccounts | removeAccount | setHdPath =>
    obtain ⟨e', -, refused⟩ := Except.mapError_eq_error_iff.1 h
    cases refused
  | signTransaction =>
    simp only [parse, Except.bind_eq_error_iff, Except.mapError_eq_error_iff] at h
    obtain ⟨_, -, refused⟩ | ⟨_, -, ⟨_, -, refused⟩ | ⟨_, -, ⟨_, -, refused⟩ | ⟨_, -, refused⟩⟩⟩ := h
    all_goals cases refused
  | signPersonalMessage =>
    simp only [parse, Except.bind_eq_error_iff, Except.mapError_eq_error_iff] at h
    obtain ⟨_, -, refused⟩ | ⟨_, -, ⟨_, -, refused⟩ | ⟨_, -, refused⟩⟩ := h
    all_goals cases refused

/-- A state is taken over without the device. -/
theorem Keyring.adopt_ne_refusal (k k' : Keyring σ) (prevState : Json) (e : DeviceError) :
    k.adopt prevState ≠ (.error (.device e), k') := by
  unfold adopt restore
  intro h
  split at h
  · cases h
  · split at h <;> cases h

/-! ### Requests -/

namespace Relay

/-- A request that is rejected for the device's sake had everything else right; the state of its keyring
is what its call leaves, and no other keyring is touched. -/
theorem execute_of_refusal {ds : ByKind (Device σ)} {r r' : Relay σ} {q : CallRequest}
    {e : DeviceError} (h : r.execute ds q = (.error (.keyring (.device e)), r')) :
    ∃ kind method start call final,
      KeyringKind.ofText? q.type = some kind ∧ Method.find? kind q.method = some method ∧
      (r.keyring kind).adopt q.prevState = (.ok (), start) ∧
      Call.parse method q.args = .ok call ∧
      call.LeavesOnRefusal (ds.get kind) e start final ∧
      r' = r.setKeyring kind final := by
  cases execute_eq_error_iff_refuses.1 h with
  -- Before the call there is nothing that a device could refuse.
  | badState _ _ adopted => exact absurd adopted (Keyring.adopt_ne_refusal _ _ _ _)
  | badArguments _ _ _ parsed => exact absurd parsed (Call.parse_ne_refusal _ _ _)
  | failed named known adopted parsed answered =>
    exact ⟨_, _, _, _, _, named, known, adopted, parsed, Call.invoke_of_refusal answered, rfl⟩

/-! ### Refusals that show -/

/-- A request that is rejected for the device's sake leaves its keyring in the state in which the call
began. -/
def UnchangedByRefusal (ds : ByKind (Device σ)) (r : Relay σ) (q : CallRequest) : Prop :=
  ∀ e r' kind start, r.execute ds q = (.error (.keyring (.device e)), r') →
    KeyringKind.ofText? q.type = some kind → (r.keyring kind).adopt q.prevState = (.ok (), start) →
    r'.keyrings.get kind = some start.state

/-- A device that gives one address and is locked for everything else. -/
def lockedButAt (path : String) : Device Unit where
  isConnected u := (true, u)
  address p u :=
    if p = path then (.ok (.lastBytes 20 (Hex.utf8 path.toList)), u) else (.error .locked, u)
  signTransaction _ _ u := (.error .locked, u)
  signMessage _ _ u := (.error .locked, u)
  forget u := u

def addTwoAccounts : CallRequest where
  type := "ledger"
  method := "addAccounts"
  args := [.ofNat 2]
  prevState := .null
  promiseId := "a"

def showFirstPage : CallRequest where
  type := "ledger"
  method := "getFirstPage"
  args := []
  prevState := .object [("page", .ofNat 3)]
  promiseId := "b"

def unlockAtMaster : CallRequest where
  type := "ledger"
  method := "unlock"
  args := [.string "m"]
  prevState := .null
  promiseId := "c"

/-- The first account of a ledger is known, and nothing else. -/
def firstAccountOnly : ByKind (Device Unit) :=
  .const (lockedButAt "m/44'/60'/0'/0/0")

/-- Of two accounts the second one is refused. -/
theorem execute_of_refusal_addTwoAccounts :
    ∃ r', (new (.const ()) {}).execute firstAccountOnly addTwoAccounts =
        (.error (.keyring (.device .locked)), r') ∧
      ∃ kind method start call final,
        KeyringKind.ofText? "ledger" = some kind ∧ Method.find? kind "addAccounts" = some method ∧
        ((new (.const ()) {}).keyring kind).adopt .null = (.ok (), start) ∧
        Call.parse method [.ofNat 2] = .ok call ∧
        call.LeavesOnRefusal (firstAccountOnly.get kind) .locked start final ∧
        r' = (new (.const ()) {}).setKeyring kind final := by
  have refused : ∃ r', (new (.const ()) {}).execute firstAccountOnly addTwoAccounts =
      (.error (.keyring (.device .locked)), r') := ⟨_, rfl⟩
  obtain ⟨r', refused⟩ := refused
  exact ⟨r', refused, execute_of_refusal refused⟩

/-- Each of the three calls can leave another state than the one in which it began. -/
theorem refusal_changes_state :
    ¬ UnchangedByRefusal firstAccountOnly (new (.const ()) {}) addTwoAccounts ∧
    ¬ UnchangedByRefusal firstAccountOnly (new (.const ()) {}) showFirstPage ∧
    ¬ UnchangedByRefusal firstAccountOnly (new (.const ()) {}) unlockAtMaster := by
  refine ⟨?_, ?_, ?_⟩
  all_goals
    intro unchanged
    -- All three begin at the state of a new ledger keyring, or at the one that is given.
    have same := unchanged .locked _ .ledger _ rfl rfl rfl
    exact absurd same (by decide +kernel)

end Relay
end WalletRelay
