import Mathlib.Logic.Relation
import WalletRelay.Proofs.Except
import WalletRelay.Relay.Call

/-!
# Changes of a keyring's state

A call changes the state of a keyring in small steps. `Call.Change` lists them: which call takes them,
what has to hold before, and the state afterwards. `invoke_changes` says that there are no others, for
any device and also when the call fails: the steps that came before the failure stay.

What every change keeps is therefore kept by every call (`ChangedBy.keeps`) and by every sequence of
calls (`after_keeps`).
-/

namespace WalletRelay

open Relation (ReflTransGen)

variable {σ : Type} {d : Device σ} {kind : KeyringKind}

def Call.IsPaging : Call → Prop
  | .getFirstPage | .getNextPage | .getPreviousPage => True
  | _ => False

/-- The steps by which a call changes the state of a keyring of the given kind. -/
inductive Call.Change (d : Device σ) (kind : KeyringKind) :
    Call → KeyringState → KeyringState → Prop
  | restored {s s' : KeyringState} {serialized : Json} :
      KeyringState.ofJson kind.defaultPath serialized = .ok s' →
      Change d kind (.deserialize serialized) s s'
  | unlocked (s : KeyringState) (path : String) :
      Change d kind (.unlock (some path)) s (s.setRoot path)
  | started (s : KeyringState) (index : UInt64) :
      Change d kind (.setAccountToUnlock index) s { s with unlockedAccount := index }
  /-- The device has given an address in one of its states. -/
  | tracked {s : KeyringState} {count index : Nat} {u : σ} {a : Address} :
      index < Keyring.indexLimit →
      (d.address (accountPath s.hdPath index) u).1 = .ok a →
      Change d kind (.addAccounts count) s
        (s.track a ⟨accountPath s.hdPath index, .ofNat index⟩)
  | paged {call : Call} (s : KeyringState) (page : UInt64) :
      call.IsPaging → Change d kind call s { s with page }
  | removed {s : KeyringState} {a : Address} :
      s.contains a →
      Change d kind (.removeAccount a) s (s.forget a)
  | rooted (s : KeyringState) (path : String) :
      Change d kind (.setHdPath path) s (s.setRoot path)
  | forgotten (s : KeyringState) :
      Change d kind .forgetDevice s (.new kind.defaultPath)

namespace KeyringState

theorem contains_iff {s : KeyringState} {a : Address} : s.contains a = true ↔ a ∈ s.accounts :=
  List.contains_iff_mem

theorem hdPath_track (s : KeyringState) (a : Address) (details : AccountDetails) :
    (s.track a details).hdPath = s.hdPath := by
  unfold track
  split <;> rfl

theorem accounts_setRoot (s : KeyringState) (root : String) : (s.setRoot root).accounts = s.accounts := by
  unfold setRoot
  split <;> rfl

theorem accountDetails_setRoot (s : KeyringState) (root : String) :
    (s.setRoot root).accountDetails = s.accountDetails := by
  unfold setRoot
  split <;> rfl

theorem mem_accounts_forget {s : KeyringState} {a b : Address} :
    b ∈ (s.forget a).accounts ↔ b ∈ s.accounts ∧ b ≠ a := by
  simp [forget]

theorem get?_forget (s : KeyringState) (a b : Address) :
    (s.forget a).accountDetails.get? b = if b = a then none else s.accountDetails.get? b :=
  s.accountDetails.get?_erase a b

end KeyringState

namespace Keyring

/-! ### Requests to the device -/

/-- An address is asked for once, and nothing but the device changes. -/
theorem addressAt_eq (d : Device σ) (k : Keyring σ) (index : Nat) :
    k.addressAt d index =
      (((d.address (accountPath k.state.hdPath index) k.device).1).mapError .device,
        { k with device := (d.address (accountPath k.state.hdPath index) k.device).2 }) := by
  unfold addressAt
  obtain ⟨answer, device⟩ := d.address (accountPath k.state.hdPath index) k.device
  cases answer <;> rfl

/-- An address comes from the device, and asking for it leaves the keyring as it was. -/
theorem of_addressAt {k k' : Keyring σ} {index : Nat} {a : Address}
    (h : k.addressAt d index = (.ok a, k')) :
    (d.address (accountPath k.state.hdPath index) k.device).1 = .ok a ∧
      ∃ u, k' = { k with device := u } := by
  rw [addressAt_eq] at h
  obtain ⟨answer, rfl⟩ := Prod.mk.inj h
  exact ⟨Except.mapError_eq_ok_iff.1 answer, _, rfl⟩

theorem addressAt_frame (d : Device σ) (k : Keyring σ) (index : Nat) :
    ∃ u, (k.addressAt d index).2 = { k with device := u } := by
  rw [addressAt_eq]
  exact ⟨_, rfl⟩

/-- Looking at accounts changes nothing but the device. -/
theorem entriesFrom_frame (d : Device σ) (index count : Nat) (k : Keyring σ) :
    ∃ u, (entriesFrom d index count k).2 = { k with device := u } := by
  induction count generalizing index k with
  | zero => exact ⟨_, rfl⟩
  | succ count ih =>
    obtain ⟨u, asked⟩ := addressAt_frame d k index
    obtain ⟨v, rest⟩ := ih (index + 1) { k with device := u }
    grind [entriesFrom]

/-- Signing changes nothing but the device, whether it succeeds or not. -/
theorem signWith_frame (ask : String → σ → Except DeviceError Signature × σ) (hash : Hash32)
    (k : Keyring σ) (a : Address) :
    ∃ u, (k.signWith ask hash a).2 = { k with device := u } := by
  unfold signWith
  split
  · exact ⟨_, rfl⟩
  · split <;> exact ⟨_, rfl⟩

/-! ### What a call does to the state -/

/-- One keyring comes from another by changes that a call makes. -/
def ChangedBy (d : Device σ) (call : Call) (k k' : Keyring σ) : Prop :=
  k'.kind = k.kind ∧ ReflTransGen (call.Change d k.kind) k.state k'.state

/-- A call that changes nothing but the device makes no change of state. -/
theorem ChangedBy.of_frame {call : Call} {k k' : Keyring σ}
    (h : ∃ u, k' = { k with device := u }) : k.ChangedBy d call k' := by
  obtain ⟨u, rfl⟩ := h
  exact ⟨rfl, .refl⟩

/-- What every change of a call keeps is kept by the call. -/
theorem ChangedBy.keeps {P : KeyringState → Prop} {call : Call} {k k' : Keyring σ}
    (changed : k.ChangedBy d call k')
    (keeps : ∀ s s', call.Change d k.kind s s' → P s → P s') (start : P k.state) : P k'.state := by
  obtain ⟨-, changes⟩ := changed
  -- The induction is on the changes, so the last state has to be a variable.
  generalize k'.state = s' at changes ⊢
  induction changes with
  | refl => exact start
  | tail _ step kept => exact keeps _ _ step kept

/-- The loop that adds accounts takes one into use at a time. -/
theorem trackFrom_changes (d : Device σ) (asked index count : Nat) (k : Keyring σ)
    (range : index + count ≤ indexLimit) :
    k.ChangedBy d (.addAccounts asked) (trackFrom d index count k).2 := by
  induction count generalizing index k with
  | zero => exact ⟨rfl, .refl⟩
  | succ count ih =>
    rw [trackFrom]
    split
    · next e k' h =>
      have frame := addressAt_frame d k index
      rw [h] at frame
      exact .of_frame frame
    · next a k' h =>
      obtain ⟨answer, u, rfl⟩ := of_addressAt h
      -- Tracking keeps the root, so the steps that follow find the same one in the state.
      let details : AccountDetails := ⟨accountPath k.state.hdPath index, .ofNat index⟩
      have step : (Call.addAccounts asked).Change d k.kind k.state (k.state.track a details) :=
        .tracked (by omega) answer
      obtain ⟨kind, rest⟩ :=
        ih (index + 1) { k with device := u, state := k.state.track a details } (by omega)
      exact ⟨kind, .head step rest⟩

/-- Indices are in range exactly if the last one is below the limit. -/
theorem checkRange_eq_ok_iff {start count : Nat} :
    checkRange start count = .ok () ↔ start + count ≤ indexLimit := by
  unfold checkRange
  split <;> simp [*]

theorem addAccounts_changes (d : Device σ) (k : Keyring σ) (count : Nat) :
    k.ChangedBy d (.addAccounts count) (k.addAccounts d count).2 := by
  simp only [addAccounts]
  split
  · exact ⟨rfl, .refl⟩
  · next inRange =>
    have changes := trackFrom_changes d count _ _ k (checkRange_eq_ok_iff.1 inRange)
    -- Whether the loop ends early or not, the call leaves the keyring as the loop does.
    split
    · next h => rwa [h] at changes
    · next h => rwa [h] at changes

/-- Showing a page changes which one was shown last, or nothing. -/
theorem showPage_frame (d : Device σ) (k : Keyring σ) (page : Nat) :
    ∃ u, (k.showPage d page).2 = { k with device := u } ∨
      (k.showPage d page).2 =
        { k with device := u, state := { k.state with page := .ofNat page } } := by
  simp only [showPage]
  split
  · exact ⟨_, .inl rfl⟩
  · obtain ⟨u, frame⟩ :=
      entriesFrom_frame d (min ((page - 1) * pageSize) maxIndex) pageSize k
    split
    · next h => exact ⟨u, .inl (by rwa [h] at frame)⟩
    · next k' h =>
      rw [h] at frame
      exact ⟨u, .inr (by rw [show k' = { k with device := u } from frame])⟩

/-- Showing a page changes the number of the page at most. -/
theorem showPage_changes (call : Call) (paging : call.IsPaging) (d : Device σ) (k : Keyring σ)
    (page : Nat) : k.ChangedBy d call (k.showPage d page).2 := by
  obtain ⟨u, same | shown⟩ := showPage_frame d k page
  · exact .of_frame ⟨u, same⟩
  · rw [shown]
    exact ⟨rfl, .single (.paged k.state _ paging)⟩

theorem firstPage_changes (d : Device σ) (k : Keyring σ) :
    k.ChangedBy d .getFirstPage (k.firstPage d).2 := by
  let start : Keyring σ := { k with state := { k.state with page := 0 } }
  obtain ⟨kind, rest⟩ : start.ChangedBy d .getFirstPage (start.showPage d 1).2 :=
    showPage_changes .getFirstPage trivial d start 1
  exact ⟨kind, .head (.paged k.state 0 trivial) rest⟩

theorem unlock_changes (d : Device σ) (k : Keyring σ) (hdPath : Option String) :
    k.ChangedBy d (.unlock hdPath) (k.unlock d hdPath).2 := by
  cases hdPath with
  | none => exact .of_frame (addressAt_frame d k 0)
  | some path =>
    obtain ⟨u, h⟩ := addressAt_frame d (k.setHdPath path) 0
    rw [unlock, h]
    exact ⟨rfl, .single (.unlocked k.state path)⟩

theorem restore_changes (d : Device σ) (k : Keyring σ) (serialized : Json) :
    k.ChangedBy d (.deserialize serialized) (k.restore serialized).2 := by
  unfold restore
  split
  · exact ⟨rfl, .refl⟩
  · next ok => exact ⟨rfl, .single (.restored ok)⟩

theorem removeAccount_changes (d : Device σ) (k : Keyring σ) (a : Address) :
    k.ChangedBy d (.removeAccount a) (k.removeAccount a).2 := by
  unfold removeAccount
  split
  · next used => exact ⟨rfl, .single (.removed used)⟩
  · exact ⟨rfl, .refl⟩

/-- A call changes the state by its own steps only, whatever the device does. -/
theorem invoke_changes (d : Device σ) (k : Keyring σ) (call : Call) :
    k.ChangedBy d call (call.invoke d k).2 := by
  cases call with
  | serialize => exact ⟨rfl, .refl⟩
  | deserialize serialized => exact restore_changes d k serialized
  | isUnlocked => exact ⟨rfl, .refl⟩
  | unlock hdPath => exact unlock_changes d k hdPath
  | setAccountToUnlock index => exact ⟨rfl, .single (.started k.state index)⟩
  | addAccounts count => exact addAccounts_changes d k count
  | getFirstPage => exact firstPage_changes d k
  | getNextPage => exact showPage_changes .getNextPage trivial d k _
  | getPreviousPage => exact showPage_changes .getPreviousPage trivial d k _
  | getAccounts => exact ⟨rfl, .refl⟩
  | removeAccount a => exact removeAccount_changes d k a
  | setHdPath path => exact ⟨rfl, .single (.rooted k.state path)⟩
  | forgetDevice => exact ⟨rfl, .single (.forgotten k.state)⟩
  -- Signing asks the device and leaves the state alone.
  | signTransaction a tx =>
    exact .of_frame (signWith_frame (d.signTransaction · tx) tx.signatureHash k a)
  | signPersonalMessage a message =>
    exact .of_frame (signWith_frame (d.signMessage · message) (messageHash message) k a)

/-! ### Runs -/

/-- The keyring after some calls, whether they succeed or not. -/
def after (d : Device σ) (k : Keyring σ) (calls : List Call) : Keyring σ :=
  calls.foldl (fun k call => (call.invoke d k).2) k

/-- A property of states holds after a run if it holds before and each change in the run keeps it. -/
theorem after_keeps {P : KeyringState → Prop} {calls : List Call} {k : Keyring σ}
    (keeps : ∀ call ∈ calls, ∀ s s', call.Change d k.kind s s' → P s → P s')
    (start : P k.state) : P (k.after d calls).state := by
  induction calls generalizing k with
  | nil => exact start
  | cons call rest ih =>
    have changed := invoke_changes d k call
    -- The kind decides what a serialized state may leave out; no call changes it.
    refine ih ?_ (changed.keeps (keeps call List.mem_cons_self) start)
    rw [changed.1]
    exact fun call mem => keeps call (List.mem_cons_of_mem _ mem)

end Keyring
end WalletRelay
