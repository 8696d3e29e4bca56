import WalletRelay.Proofs.Keyring.Agreement
import WalletRelay.Proofs.Keyring.Codec

/-!
# Accounts in use

Two parts of a state say which accounts are in use: the list of their addresses, and the map with
their details. `KeyringState.Tracks` says that the two agree and that every account is to be found on
the device where its details say. The root under which it was found need not be the present one, so
only some root is claimed to exist.

If the addresses of a device depend on the path alone, all runs of a new keyring keep this
(`after_tracks`), as long as the serialized states that it is given have the property themselves.
-/

namespace WalletRelay

variable {σ : Type} {d : Device σ} {kind : KeyringKind}

/-- The addresses of a device depend on the path alone, not on what it was asked before. -/
def Device.AnswersByPath (d : Device σ) : Prop :=
  ∀ path u v, (d.address path u).1 = (d.address path v).1

/-- Where an account is said to be, the device has it, and it was found there by its index. -/
structure AccountDetails.Locates (d : Device σ) (details : AccountDetails) (a : Address) : Prop where
  answer : ∀ u, (d.address details.hdPath u).1 = .ok a
  index_lt : details.index.toNat < Keyring.indexLimit
  path : ∃ root, details.hdPath = accountPath root details.index.toNat

/-- The accounts in use are listed once each, are the ones with details, and are where these say. -/
structure KeyringState.Tracks (d : Device σ) (s : KeyringState) : Prop where
  nodup : s.accounts.Nodup
  mem_accounts_iff : ∀ a, a ∈ s.accounts ↔ (s.accountDetails.get? a).isSome
  located : ∀ a details, s.accountDetails.get? a = some details → details.Locates d a

namespace KeyringState

variable {s s' : KeyringState}

/-! ### Operations on states -/

theorem Tracks.new (d : Device σ) (root : String) : (KeyringState.new root).Tracks d where
  nodup := .nil
  mem_accounts_iff := Agrees.new root
  located := by simp [KeyringState.new]

/-- The root, the page and the unlock index do not matter. -/
theorem Tracks.congr (h : s.Tracks d) (accounts : s'.accounts = s.accounts)
    (details : s'.accountDetails = s.accountDetails) : s'.Tracks d where
  nodup := by rw [accounts]; exact h.nodup
  mem_accounts_iff := Agrees.congr h.mem_accounts_iff accounts details
  located := by rw [details]; exact h.located

/-- Accounts stay where they are when the root changes. -/
theorem Tracks.setRoot (h : s.Tracks d) (root : String) : (s.setRoot root).Tracks d :=
  h.congr (s.accounts_setRoot root) (s.accountDetails_setRoot root)

/-- An account that the device has where it is said to be can be taken into use. -/
theorem Tracks.track (h : s.Tracks d) {a : Address} {details : AccountDetails}
    (locates : details.Locates d a) : (s.track a details).Tracks d where
  nodup := by
    unfold KeyringState.track
    split
    · exact h.nodup
    · next unused =>
      have notMem : a ∉ s.accounts := mt contains_iff.2 unused
      show (s.accounts ++ [a]).Nodup
      rw [List.nodup_append]
      refine ⟨h.nodup, by simp, ?_⟩
      intro b hb c hc
      rw [List.mem_singleton.1 hc]
      exact fun eq => notMem (eq ▸ hb)
  mem_accounts_iff := Agrees.track h.mem_accounts_iff a details
  located := by
    unfold KeyringState.track
    split
    · exact h.located
    · -- Details from before are still there, and keep the root under which they were made.
      intro b found hb
      rw [AddressMap.get?_insert] at hb
      split at hb
      · next eq =>
        cases hb
        exact eq ▸ locates
      · exact h.located b found hb

/-- Taking an account out of use leaves the others where they are. -/
theorem Tracks.forget (h : s.Tracks d) (a : Address) : (s.forget a).Tracks d where
  nodup := h.nodup.filter _
  mem_accounts_iff := Agrees.forget h.mem_accounts_iff a
  located b details found := by
    rw [get?_forget] at found
    split at found
    · cases found
    · exact h.located b details found

end KeyringState

/-! ### Runs -/

/-- The details that are noted when the device gives an address locate the account. -/
theorem AccountDetails.Locates.of_answer (byPath : d.AnswersByPath) {root : String} {index : Nat}
    {u : σ} {a : Address} (range : index < Keyring.indexLimit)
    (answer : (d.address (accountPath root index) u).1 = .ok a) :
    AccountDetails.Locates d ⟨accountPath root index, .ofNat index⟩ a := by
  -- Below the limit an index is stored as it is.
  have same : (UInt64.ofNat index).toNat = index :=
    UInt64.toNat_ofNat_of_lt' (Nat.lt_trans range (by decide))
  refine ⟨fun v => ?_, ?_, root, ?_⟩
  · exact (byPath _ v u).trans answer
  · rwa [same]
  · rw [same]

/-- No step of a call loses an account, unless the call hands over a state that has lost it. -/
theorem KeyringState.Tracks.change {call : Call} {s s' : KeyringState} (byPath : d.AnswersByPath)
    (restored : ∀ serialized, call = .deserialize serialized →
      ∀ s, KeyringState.ofJson kind.defaultPath serialized = .ok s → s.Tracks d)
    (step : call.Change d kind s s') (h : s.Tracks d) : s'.Tracks d := by
  cases step with
  | restored read => exact restored _ rfl _ read
  | unlocked _ path => exact h.setRoot path
  | started => exact h.congr rfl rfl
  | tracked range answer => exact h.track (.of_answer byPath range answer)
  | paged => exact h.congr rfl rfl
  | removed => exact h.forget _
  | rooted _ path => exact h.setRoot path
  | forgotten => exact .new d _

namespace Keyring

/-- After every run of a new keyring, whatever calls succeed in it, the accounts in use are listed once
each, are the ones with details, and are where these say. -/
theorem after_tracks (byPath : d.AnswersByPath) (kind : KeyringKind) (u : σ) (calls : List Call)
    (restored : ∀ serialized, .deserialize serialized ∈ calls →
      ∀ s, KeyringState.ofJson kind.defaultPath serialized = .ok s → s.Tracks d) :
    ((Keyring.new kind u).after d calls).state.Tracks d := by
  refine after_keeps ?_ (.new d _)
  intro call mem s s' step h
  refine h.change byPath ?_ step
  rintro serialized rfl
  exact restored serialized mem

end Keyring

/-! ### A device that shows the path -/

/-- The device whose address at a path is the end of the path itself; it refuses to sign. -/
def Device.echoing : Device Unit where
  isConnected u := (true, u)
  address path u := (.ok (.lastBytes 20 (Hex.utf8 path.toList)), u)
  signTransaction _ _ u := (.error .userRejected, u)
  signMessage _ _ u := (.error .userRejected, u)
  forget u := u

def echoedDetails : AccountDetails :=
  ⟨accountPath bip44Path 7, 7⟩

def echoedState : KeyringState :=
  (KeyringState.new bip44Path).track (.lastBytes 20 (Hex.utf8 echoedDetails.hdPath.toList))
    echoedDetails

theorem echoedState_tracks : echoedState.Tracks Device.echoing :=
  (KeyringState.Tracks.new _ _).track ⟨fun _ => rfl, by decide, bip44Path, rfl⟩

theorem ofJson_echoedState :
    KeyringState.ofJson KeyringKind.trezor.defaultPath echoedState.toJson = .ok echoedState :=
  KeyringState.ofJson_toJson _ echoedState

/-- A run that takes over a state, changes the root and adds accounts under both roots. -/
def echoedRun : List Call :=
  [.addAccounts 2, .deserialize echoedState.toJson, .addAccounts 1, .setHdPath "m/44'/60'/0'/1",
    .getNextPage, .addAccounts 3, .removeAccount (.lastBytes 20 (Hex.utf8 "m/44'/60'/0'/1/0".toList))]

/-- A run that takes over a state and adds accounts under two roots keeps track of all four accounts. -/
theorem after_tracks_echoing :
    ((Keyring.new .trezor ()).after .echoing echoedRun).state.Tracks .echoing ∧
      ((Keyring.new .trezor ()).after .echoing echoedRun).state.accounts.length = 4 := by
  refine ⟨Keyring.after_tracks (fun _ _ _ => rfl) .trezor () echoedRun ?_, by decide +kernel⟩
  intro serialized mem s read
  have same : serialized = echoedState.toJson := by simpa [echoedRun] using mem
  rw [same, ofJson_echoedState] at read
  cases read
  exact echoedState_tracks

end WalletRelay
