import WalletRelay.Proofs.Keyring.Root
import WalletRelay.Proofs.Keyring.Tracking
import WalletRelay.Proofs.Relay.Signing

/-!
# From a page to a signature

An account is taken into use in three steps: it is seen on a page, its index becomes the index from which
accounts are added, and one account is added. Then it can sign. With an honest device this always works
(`signs_once_added`): a device that gives the same address at a path whenever it is asked, and signs at the
path with the key of this address.

Between the first step and the last the root path has to stay, since the page shows an index only. The
path under which the account signs is put on record when it is added, so later on the root path does not
matter. An account that was in use before keeps the path that it had on record. Therefore the keyring has
to begin in a state whose paths can be relied on (`KeyringState.OnRecord`).
-/

namespace WalletRelay

variable {σ : Type} {d : Device σ} {kind : KeyringKind} {a : Address}

namespace Device

/-- The device has an account at a path, whenever it is asked. -/
def HasAt (d : Device σ) (path : String) (a : Address) : Prop :=
  ∀ u, (d.address path u).1 = .ok a

/-- Where the device has an account, it signs a hash with the key of this account. -/
def SignsAsAsked (d : Device σ) (ask : String → σ → Except DeviceError Signature × σ)
    (hash : Hash32) : Prop :=
  ∀ path a, d.HasAt path a →
    ∀ u, ∃ g, (ask path u).1 = .ok g ∧ Secp256k1.recover? g hash = some a

/-- What a device answers by the path alone it answers every time. -/
theorem AnswersByPath.hasAt (byPath : d.AnswersByPath) {path : String} {u : σ}
    (answer : (d.address path u).1 = .ok a) : d.HasAt path a := by
  intro v
  exact (byPath path v u).trans answer

end Device

/-! ### Accounts on record -/

/-- Every account in use has a path on record, and there the device has it. -/
def KeyringState.OnRecord (d : Device σ) (s : KeyringState) : Prop :=
  ∀ a ∈ s.accounts, ∃ path, s.pathOf? a = some path ∧ d.HasAt path a

namespace KeyringState

variable {s s' : KeyringState}

theorem mem_accounts_track (s : KeyringState) (a : Address) (details : AccountDetails) :
    a ∈ (s.track a details).accounts := by
  unfold track
  split
  · next used => exact contains_iff.1 used
  · exact List.mem_append_right _ (List.mem_singleton_self a)

namespace OnRecord

theorem new (d : Device σ) (root : String) : (KeyringState.new root).OnRecord d := by
  intro a mem
  cases mem

/-- If list and details agree and the details are right, every account has a path on record. -/
theorem of_agrees (agrees : s.Agrees)
    (located : ∀ a details, s.accountDetails.get? a = some details → d.HasAt details.hdPath a) :
    s.OnRecord d := by
  intro a mem
  obtain ⟨details, found⟩ := Option.isSome_iff_exists.1 ((agrees a).1 mem)
  refine ⟨details.hdPath, ?_, located a details found⟩
  rw [pathOf?, found]
  rfl

/-- The root, the page and the unlock index do not matter. -/
theorem congr (h : s.OnRecord d) (accounts : s'.accounts = s.accounts)
    (details : s'.accountDetails = s.accountDetails) : s'.OnRecord d := by
  intro a mem
  rw [accounts] at mem
  rw [pathOf?, details]
  exact h a mem

theorem setRoot (h : s.OnRecord d) (root : String) : (s.setRoot root).OnRecord d :=
  h.congr (s.accounts_setRoot root) (s.accountDetails_setRoot root)

/-- An account can be taken into use with the path at which the device has it. -/
theorem track (h : s.OnRecord d) {details : AccountDetails} (has : d.HasAt details.hdPath a) :
    (s.track a details).OnRecord d := by
  unfold KeyringState.track
  split
  · exact h
  · intro b mem
    by_cases eq : b = a
    · subst eq
      exact ⟨details.hdPath, by simp [pathOf?, AddressMap.get?_insert], has⟩
    · -- The other accounts were in use before, and their details are not touched.
      have before : b ∈ s.accounts := by simpa [eq] using mem
      obtain ⟨path, known, has⟩ := h b before
      refine ⟨path, ?_, has⟩
      rw [pathOf?, AddressMap.get?_insert, if_neg eq]
      exact known

theorem forget (h : s.OnRecord d) (a : Address) : (s.forget a).OnRecord d := by
  intro b mem
  obtain ⟨before, other⟩ := mem_accounts_forget.1 mem
  obtain ⟨path, known, has⟩ := h b before
  refine ⟨path, ?_, has⟩
  rw [pathOf?, get?_forget, if_neg other]
  exact known

end OnRecord
end KeyringState

namespace Call

def MayDrop (a : Address) : Call → Prop
  | .deserialize _ | .forgetDevice => True
  | .removeAccount b => b = a
  | _ => False

variable {call : Call} {s s' : KeyringState}

theorem IsPaging.keepsRoot (paging : call.IsPaging) : call.KeepsRoot := by
  cases call with
  | getFirstPage | getNextPage | getPreviousPage => exact trivial
  | _ => exact paging.elim

/-- With a device that answers by path, the paths on record stay right, unless a state is handed over. -/
theorem Change.onRecord (byPath : d.AnswersByPath) (own : ∀ serialized, call ≠ .deserialize serialized)
    (step : call.Change d kind s s') (h : s.OnRecord d) : s'.OnRecord d := by
  cases step with
  | restored => exact absurd rfl (own _)
  | unlocked _ path => exact h.setRoot path
  | started => exact h.congr rfl rfl
  | tracked _ answer => exact h.track (byPath.hasAt answer)
  | paged => exact h.congr rfl rfl
  | removed => exact h.forget _
  | rooted _ path => exact h.setRoot path
  | forgotten => exact .new d _

/-- A step of a call that drops no account keeps each one in use. -/
theorem Change.mem_accounts (keeps : ¬ call.MayDrop a) (step : call.Change d kind s s')
    (mem : a ∈ s.accounts) : a ∈ s'.accounts := by
  cases step with
  | restored | forgotten => exact absurd trivial keeps
  | unlocked | rooted => rwa [KeyringState.accounts_setRoot]
  | started | paged => exact mem
  | tracked =>
    unfold KeyringState.track
    split
    · exact mem
    · exact List.mem_append_left _ mem
  | @removed _ b =>
    exact KeyringState.mem_accounts_forget.2 ⟨mem, fun eq => keeps eq.symm⟩

end Call

namespace Keyring

variable {k k' : Keyring σ} {calls : List Call}

/-- Runs that read no state keep every account on record. -/
theorem onRecord_after (byPath : d.AnswersByPath)
    (own : ∀ call ∈ calls, ∀ serialized, call ≠ .deserialize serialized)
    (h : k.state.OnRecord d) : (k.after d calls).state.OnRecord d := by
  refine after_keeps ?_ h
  intro call called s s' step
  exact step.onRecord byPath (own call called)

theorem mem_accounts_after (keeps : ∀ call ∈ calls, ¬ call.MayDrop a)
    (mem : a ∈ k.state.accounts) : a ∈ (k.after d calls).state.accounts := by
  refine after_keeps (P := fun s => a ∈ s.accounts) ?_ mem
  intro call called s s' step
  exact step.mem_accounts (keeps call called)

/-! ### What a page shows -/

/-- An entry is the account that the device has given for its index. -/
theorem of_mem_entriesFrom {index count : Nat} {entries : List PageEntry} {entry : PageEntry}
    (h : entriesFrom d index count k = (.ok entries, k')) (mem : entry ∈ entries) :
    ∃ j < index + count, entry.index = .ofNat j ∧
      ∃ u, (d.address (accountPath k.state.hdPath j) u).1 = .ok entry.address := by
  induction count generalizing index k entries with
  | zero =>
    cases h
    cases mem
  | succ count ih =>
    rw [entriesFrom] at h
    split at h
    · cases h
    · next a k₁ asked =>
      obtain ⟨answer, u, rfl⟩ := of_addressAt asked
      split at h
      · cases h
      · next rest k₂ shown =>
        cases h
        cases mem with
        -- The entry is the first one, or one of those that the rest of the loop shows.
        | head => exact ⟨index, by omega, rfl, _, answer⟩
        | tail _ mem =>
          obtain ⟨j, lt, same, given⟩ := ih shown mem
          exact ⟨j, by omega, same, given⟩

/-- The entries of a page have indices below the limit. -/
theorem of_mem_showPage {page : Nat} {entries : List PageEntry} {entry : PageEntry}
    (h : k.showPage d page = (.ok entries, k')) (mem : entry ∈ entries) :
    entry.index.toNat < indexLimit ∧
      ∃ u, (d.address (accountPath k.state.hdPath entry.index.toNat) u).1 = .ok entry.address := by
  simp only [showPage] at h
  split at h
  · cases h
  · next inRange =>
    split at h
    · cases h
    · next shown =>
      cases h
      obtain ⟨j, lt, same, u, answer⟩ := of_mem_entriesFrom shown mem
      -- A page ends below the limit, so an entry holds its index as it is.
      have below : j < indexLimit := Nat.lt_of_lt_of_le lt (checkRange_eq_ok_iff.1 inRange)
      have stored : entry.index.toNat = j := by
        rw [same, UInt64.toNat_ofNat_of_lt' (Nat.lt_trans below (by decide))]
      rw [stored]
      exact ⟨below, u, answer⟩

/-- The keyring has shown a page and keeps what that leaves. -/
inductive Shows (d : Device σ) (k : Keyring σ) (entries : List PageEntry) (k' : Keyring σ) : Prop
  | first : k.firstPage d = (.ok entries, k') → Shows d k entries k'
  | next : k.nextPage d = (.ok entries, k') → Shows d k entries k'
  | previous : k.previousPage d = (.ok entries, k') → Shows d k entries k'

namespace Shows

variable {entries : List PageEntry} {entry : PageEntry}

/-- An entry of a page that was shown is an account that the device has at its index. -/
theorem of_mem (h : k.Shows d entries k') (mem : entry ∈ entries) :
    entry.index.toNat < indexLimit ∧
      ∃ u, (d.address (accountPath k.state.hdPath entry.index.toNat) u).1 = .ok entry.address := by
  cases h with
  | first shown => exact of_mem_showPage (k := { k with state := { k.state with page := 0 } }) shown mem
  | next shown => exact of_mem_showPage shown mem
  | previous shown => exact of_mem_showPage shown mem

/-- Showing a page is a call. -/
theorem eq_after (h : k.Shows d entries k') : ∃ call, call.IsPaging ∧ k' = k.after d [call] := by
  cases h with
  | first shown => exact ⟨.getFirstPage, trivial, (congrArg Prod.snd shown).symm⟩
  | next shown => exact ⟨.getNextPage, trivial, (congrArg Prod.snd shown).symm⟩
  | previous shown => exact ⟨.getPreviousPage, trivial, (congrArg Prod.snd shown).symm⟩

end Shows

/-! ### Adding the account -/

/-- The next account is added if the device gives it. -/
theorem addAccounts_one (inRange : k.state.unlockedAccount.toNat < indexLimit)
    (has : d.HasAt (accountPath k.state.hdPath k.state.unlockedAccount.toNat) a) :
    ∃ k', k.addAccounts d 1 = (.ok k'.state.accounts, k') ∧ a ∈ k'.state.accounts := by
  let details : AccountDetails :=
    ⟨accountPath k.state.hdPath k.state.unlockedAccount.toNat, .ofNat k.state.unlockedAccount.toNat⟩
  have checked : checkRange k.state.unlockedAccount.toNat 1 = .ok () := checkRange_eq_ok_iff.2 inRange
  obtain ⟨u, asked⟩ : ∃ u, k.addressAt d k.state.unlockedAccount.toNat =
      (.ok a, { k with device := u }) := by
    rw [addressAt_eq, has k.device]
    exact ⟨_, rfl⟩
  refine ⟨{ k with device := u, state := k.state.track a details }, ?_, ?_⟩
  · simp only [addAccounts, checked, trackFrom, asked, details]
  · exact k.state.mem_accounts_track a details

/-! ### Signing -/

/-- An account on record signs. -/
theorem signWith_of_onRecord {ask : String → σ → Except DeviceError Signature × σ} {hash : Hash32}
    (onRecord : k.state.OnRecord d) (mem : a ∈ k.state.accounts) (signs : d.SignsAsAsked ask hash) :
    ∃ g k', k.signWith ask hash a = (.ok g, k') ∧ Secp256k1.recover? g hash = some a := by
  obtain ⟨path, known, has⟩ := onRecord a mem
  obtain ⟨g, answer, recovered⟩ := signs path a has k.device
  refine ⟨g, _, signWith_eq_ok_iff.2 ⟨path, _, known, Prod.ext answer rfl, recovered, rfl⟩, recovered⟩

/-- An account that was seen on a page can be added, if the root path stays until then, and from then on
it can sign, as long as it is not taken out of use. The device has to give the same address at a path
whenever it is asked, and to sign the payload in question as it is asked. The keyring may begin in any
state with a record of the accounts in use that is right for the device. -/
theorem signs_once_added {k k₁ : Keyring σ} {entries : List PageEntry} {i : UInt64}
    {between : List Call} (byPath : d.AnswersByPath) (agrees : k.state.Agrees)
    (located : ∀ b details, k.state.accountDetails.get? b = some details →
      d.HasAt details.hdPath b)
    (shown : k.Shows d entries k₁) (mem : ⟨a, i⟩ ∈ entries)
    (keep : ∀ call ∈ between, call.KeepsRoot) :
    ∃ accounts k₂,
      ((k₁.after d between).setAccountToUnlock i).addAccounts d 1 = (.ok accounts, k₂) ∧
      a ∈ accounts ∧
      ∀ later, (∀ call ∈ later, ¬ call.MayDrop a) →
        (∀ tx, d.SignsAsAsked (d.signTransaction · tx) tx.signatureHash →
          ∃ g k₃, (k₂.after d later).signTransaction d a tx = (.ok (tx.withSignature g), k₃) ∧
            Secp256k1.recover? g tx.signatureHash = some a) ∧
        (∀ message, d.SignsAsAsked (d.signMessage · message) (messageHash message) →
          ∃ g k₃, (k₂.after d later).signMessage d a message = (.ok g, k₃) ∧
            Secp256k1.recover? g (messageHash message) = some a) := by
  obtain ⟨inRange, u, answer⟩ := shown.of_mem mem
  obtain ⟨page, paging, rfl⟩ := shown.eq_after
  have keepAll : ∀ call ∈ page :: between, call.KeepsRoot := by
    intro call called
    cases called with
    | head => exact paging.keepsRoot
    | tail _ called => exact keep call called
  let start := k.after d (page :: between)
  -- All calls so far keep the root path, so the index leads to the account that the page has shown.
  have root : start.state.hdPath = k.state.hdPath := hdPath_after keepAll
  have has : d.HasAt (accountPath start.state.hdPath i.toNat) a := by
    rw [root]
    exact byPath.hasAt answer
  obtain ⟨k₂, added, used⟩ := addAccounts_one (k := start.setAccountToUnlock i) inRange has
  refine ⟨_, k₂, added, used, ?_⟩
  intro later kept
  have stillUsed := mem_accounts_after (d := d) kept used
  -- Adding the account and all that follows keep the record right; no call hands a state over.
  have stillOnRecord : (k₂.after d later).state.OnRecord d := by
    have before : start.state.OnRecord d := by
      refine onRecord_after byPath ?_ (.of_agrees agrees located)
      rintro _ called serialized rfl
      exact keepAll _ called
    have adding : k₂ = (start.setAccountToUnlock i).after d [.addAccounts 1] :=
      (congrArg Prod.snd added).symm
    rw [adding]
    refine onRecord_after byPath ?_ (onRecord_after byPath ?_ (before.congr rfl rfl))
    · rintro _ called serialized rfl
      exact kept _ called trivial
    · simp
  constructor
  · intro tx signs
    obtain ⟨g, k₃, signed, recovered⟩ := signWith_of_onRecord stillOnRecord stillUsed signs
    refine ⟨g, k₃, ?_, recovered⟩
    rw [signTransaction, signed]
    rfl
  · intro message signs
    exact signWith_of_onRecord stillOnRecord stillUsed signs

end Keyring

/-! ### A device with two keys -/

/-- The signature of a hash with a secret number, with the generator as its point. -/
def Signature.ofSecret (secret : Nat) (hash : Hash32) : Signature where
  r := BitVec.ofNat 256 Secp256k1.generator.x
  s := BitVec.ofNat 256
    ((hash.toNat + Secp256k1.generator.x * secret) % Secp256k1.groupOrder)
  yParity := false

/-- The secret number at a path: one account of the default root has a key of its own. -/
def secretAt (path : String) : Nat :=
  if path = accountPath bip44Path 2 then 2 else 1

/-- The address at a path. -/
def ownerAt (path : String) : Address :=
  (Secp256k1.publicKey (secretAt path)).address

def Device.twoKeys : Device Unit where
  isConnected u := (true, u)
  address path u := (.ok (ownerAt path), u)
  signTransaction path tx u := (.ok (.ofSecret (secretAt path) tx.signatureHash), u)
  signMessage path message u := (.ok (.ofSecret (secretAt path) (messageHash message)), u)
  forget u := u

/-- If both keys make good signatures of a hash, the device signs it as it is asked. -/
theorem twoKeys_signsAsAsked {hash : Hash32}
    (good : ∀ secret ∈ [1, 2], Secp256k1.recoverKey? (.ofSecret secret hash) hash =
      some (Secp256k1.publicKey secret)) :
    Device.twoKeys.SignsAsAsked (fun path u => (.ok (.ofSecret (secretAt path) hash), u)) hash := by
  intro path a has u
  have owner : ownerAt path = a := Except.ok.inj (has u)
  have known : secretAt path ∈ [1, 2] := by
    unfold secretAt
    split <;> simp
  refine ⟨_, rfl, ?_⟩
  rw [Secp256k1.recover?, good _ known, ← owner]
  rfl

theorem recoverKey?_ofSecret_stampedTransaction : ∀ secret ∈ [1, 2],
    Secp256k1.recoverKey? (.ofSecret secret stampedTransaction.signatureHash)
      stampedTransaction.signatureHash = some (Secp256k1.publicKey secret) := by
  simp only [Secp256k1.recoverKey?, Secp256k1.publicKey, Secp256k1.Point.ofAbscissa?,
    Secp256k1.Point.multiple, Secp256k1.PublicKey.ofPoint?, Secp256k1.Point.coordinates?,
    Secp256k1.inverse, Secp256k1.powMod_eq_powBits, Secp256k1.Point.addMultiple_eq_addBits]
  decide +kernel

def twoKeysKeyring : Keyring Unit where
  kind := .trezor
  state := (KeyringState.new bip44Path).track (ownerAt (accountPath bip44Path 0))
    ⟨accountPath bip44Path 0, 0⟩
  device := ()

def twoKeysPage : List PageEntry :=
  (List.range 5).map fun i => ⟨ownerAt (accountPath bip44Path i), .ofNat i⟩

/-- The details of the one account are right. -/
theorem located_twoKeysKeyring (a : Address) (details : AccountDetails)
    (found : twoKeysKeyring.state.accountDetails.get? a = some details) :
    Device.twoKeys.HasAt details.hdPath a := by
  have only : a = ownerAt (accountPath bip44Path 0) ∧ ⟨accountPath bip44Path 0, 0⟩ = details := by
    simpa [twoKeysKeyring, KeyringState.track, KeyringState.contains, KeyringState.new,
      AddressMap.get?_insert] using found
  obtain ⟨rfl, rfl⟩ := only
  exact fun u => rfl

/-- The account of the third entry is added and signs, also after the root has changed twice. -/
theorem signs_once_added_twoKeys :
    ∃ k₁ accounts k₂ g k₃,
      twoKeysKeyring.firstPage .twoKeys = (.ok twoKeysPage, k₁) ∧
      ((k₁.after .twoKeys [.getNextPage, .addAccounts 1]).setAccountToUnlock 2).addAccounts
        .twoKeys 1 = (.ok accounts, k₂) ∧
      ownerAt (accountPath bip44Path 2) ∈ accounts ∧
      (k₂.after .twoKeys [.setHdPath "m", .unlock (some "m/44'")]).signTransaction .twoKeys
        (ownerAt (accountPath bip44Path 2)) stampedTransaction =
          (.ok (stampedTransaction.withSignature g), k₃) := by
  have shown : twoKeysKeyring.firstPage .twoKeys =
      (.ok twoKeysPage, (twoKeysKeyring.firstPage .twoKeys).2) := rfl
  have mem : ⟨ownerAt (accountPath bip44Path 2), 2⟩ ∈ twoKeysPage :=
    List.mem_map.2 ⟨2, by simp, rfl⟩
  have keep : ∀ call ∈ [Call.getNextPage, .addAccounts 1], call.KeepsRoot := by
    simp [Call.KeepsRoot]
  -- In between, the next page is shown and another account is added.
  obtain ⟨accounts, k₂, added, used, signs⟩ := Keyring.signs_once_added (fun _ _ _ => rfl)
    ((KeyringState.Agrees.new _).track _ _) located_twoKeysKeyring (.first shown) mem keep
  obtain ⟨g, k₃, signed, -⟩ := (signs [.setHdPath "m", .unlock (some "m/44'")]
    (by simp [Call.MayDrop])).1 stampedTransaction
      (twoKeys_signsAsAsked recoverKey?_ofSecret_stampedTransaction)
  exact ⟨_, accounts, k₂, g, k₃, shown, added, used, signed⟩

end WalletRelay
