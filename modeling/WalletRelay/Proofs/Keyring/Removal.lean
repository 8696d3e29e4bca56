import WalletRelay.Proofs.Keyring.Addition

/-!
# Taking accounts out of use

Removing an account purges both records of it, the list and the details, and touches nothing else
(`loses_forget`). This holds in every state, also if the list has the account twice, or if there are details
of accounts that are not in the list.

Two results follow. The first is about what comes later: only adding accounts and taking over a serialized
state can bring an account in, so one that was removed stays unknown as long as neither does
(`removed_stays_unknown`).

The second is about what came before. Several removals succeed exactly if the accounts are different ones and
in use, and their order does not matter (`removeEach_eq_ok_iff`). So accounts that were added can be removed
again, in any order, and the state is the one before (`removeEach_added`).
-/

namespace WalletRelay

variable {σ : Type} {d : Device σ} {kind : KeyringKind} {a b : Address}

/-! ### States without an account -/

namespace KeyringState

variable {s s' : KeyringState}

/-- An account is neither in the list nor are there details of it. -/
structure Lacks (s : KeyringState) (a : Address) : Prop where
  unlisted : a ∉ s.accounts
  noDetails : s.accountDetails.get? a = none

/-- One state comes from another by the loss of an account. -/
structure Loses (s : KeyringState) (a : Address) (s' : KeyringState) : Prop where
  lacks : s'.Lacks a
  /-- The accounts that are left are in the order in which they were. -/
  order : s'.accounts.Sublist s.accounts
  /-- Any other account is listed as often as before. -/
  count : ∀ b, b ≠ a → s'.accounts.count b = s.accounts.count b
  details : ∀ b, b ≠ a → s'.accountDetails.get? b = s.accountDetails.get? b
  hdPath : s'.hdPath = s.hdPath
  page : s'.page = s.page
  unlockedAccount : s'.unlockedAccount = s.unlockedAccount

/-- Taking an account out of use loses it and nothing else. -/
theorem loses_forget (s : KeyringState) (a : Address) : s.Loses a (s.forget a) where
  lacks := by
    constructor
    · simp [mem_accounts_forget]
    · simp [get?_forget]
  order := List.filter_sublist
  count b ne := List.count_filter (by simpa using ne)
  details b ne := by rw [get?_forget, if_neg ne]
  hdPath := rfl
  page := rfl
  unlockedAccount := rfl

namespace Lacks

theorem new (root : String) (a : Address) : (KeyringState.new root).Lacks a where
  unlisted := List.not_mem_nil
  noDetails := rfl

/-- The root, the page and the unlock index do not matter. -/
theorem congr (h : s.Lacks a) (accounts : s'.accounts = s.accounts)
    (details : s'.accountDetails = s.accountDetails) : s'.Lacks a where
  unlisted := by rw [accounts]; exact h.unlisted
  noDetails := by rw [details]; exact h.noDetails

theorem setRoot (h : s.Lacks a) (root : String) : (s.setRoot root).Lacks a :=
  h.congr (s.accounts_setRoot root) (s.accountDetails_setRoot root)

/-- An account that is gone stays so when another one is taken out of use. -/
theorem forget (h : s.Lacks a) (b : Address) : (s.forget b).Lacks a where
  unlisted mem := h.unlisted (mem_accounts_forget.1 mem).1
  noDetails := by
    rw [get?_forget]
    split
    · rfl
    · exact h.noDetails

/-- Accounts that are added bring in no others. -/
theorem trackAll (h : s.Lacks a) (index : Nat) {found : List Address} (absent : a ∉ found) :
    (s.trackAll index found).Lacks a where
  unlisted mem := (mem_accounts_trackAll.1 mem).elim h.unlisted absent
  noDetails := by
    rw [get?_trackAll, if_neg (fun new => absent new.1)]
    exact h.noDetails

end Lacks
end KeyringState

/-! ### What can bring an account in -/

namespace Call

/-- The device gives an account to a call at this keyring that adds accounts. -/
def Derives (d : Device σ) (k : Keyring σ) (a : Address) : Call → Prop
  | .addAccounts count =>
    k.state.unlockedAccount.toNat + count ≤ Keyring.indexLimit ∧
      ∃ found w, found.length ≤ count ∧
        d.Derives k.state.hdPath k.state.unlockedAccount.toNat k.device found w ∧ a ∈ found
  | _ => False

/-- A call that neither adds accounts nor takes over a state brings no account in. -/
theorem Change.lacks {call : Call} {s s' : KeyringState}
    (own : ∀ serialized, call ≠ .deserialize serialized) (adds : ∀ count, call ≠ .addAccounts count)
    (step : call.Change d kind s s') (h : s.Lacks a) : s'.Lacks a := by
  cases step with
  | restored => exact absurd rfl (own _)
  | unlocked _ path => exact h.setRoot path
  | started => exact h.congr rfl rfl
  | tracked => exact absurd rfl (adds _)
  | paged => exact h.congr rfl rfl
  | removed => exact h.forget _
  | rooted _ path => exact h.setRoot path
  | forgotten => exact .new _ _

end Call

namespace Keyring

variable {k k' : Keyring σ}

/-- An account that the device does not give is not added. -/
theorem addAccounts_lacks {count : Nat} (unseen : ¬ (Call.addAccounts count).Derives d k a)
    (h : k.state.Lacks a) : (k.addAccounts d count).2.state.Lacks a := by
  rcases addAccounts_leaves d k count with same | ⟨inRange, found, v, w, fits, derived, left⟩
  · rw [same]
    exact h
  · rw [left]
    apply h.trackAll
    intro mem
    exact unseen ⟨inRange, found, v, fits, derived, mem⟩

/-- A call that reads no state and is not given the account leaves it gone. -/
theorem invoke_lacks {call : Call} (own : ∀ serialized, call ≠ .deserialize serialized)
    (unseen : ¬ call.Derives d k a) (h : k.state.Lacks a) : (call.invoke d k).2.state.Lacks a := by
  by_cases adds : ∃ count, call = .addAccounts count
  · obtain ⟨count, rfl⟩ := adds
    exact addAccounts_lacks unseen h
  · apply (invoke_changes d k call).keeps (P := fun s => s.Lacks a) ?_ h
    intro s s' step
    apply step.lacks own
    rintro count rfl
    exact adds ⟨count, rfl⟩

/-- In a run of calls, none that adds accounts is given this one by the device. -/
def NeverDerives (d : Device σ) (a : Address) : Keyring σ → List Call → Prop
  | _, [] => True
  | k, call :: rest => ¬ call.Derives d k a ∧ NeverDerives d a (call.invoke d k).2 rest

/-- Calls that read no state and are never given the account leave it gone. -/
theorem after_lacks {calls : List Call} (own : ∀ call ∈ calls, ∀ serialized, call ≠ .deserialize serialized)
    (never : k.NeverDerives d a calls) (h : k.state.Lacks a) : (k.after d calls).state.Lacks a := by
  induction calls generalizing k with
  | nil => exact h
  | cons call rest ih =>
    obtain ⟨unseen, never⟩ := never
    apply ih
    · intro call mem
      exact own call (List.mem_cons_of_mem _ mem)
    · exact never
    · exact invoke_lacks (own call List.mem_cons_self) unseen h

/-! ### Accounts that are unknown -/

/-- A keyring rejects everything that is asked for an account, because it does not know it. Neither the
keyring changes by that nor is the device asked. -/
structure Disowns (d : Device σ) (k : Keyring σ) (a : Address) : Prop where
  transaction : ∀ tx, k.signTransaction d a tx = (.error (.unknownAddress a), k)
  message : ∀ message, k.signMessage d a message = (.error (.unknownAddress a), k)
  removal : k.removeAccount a = (.error (.unknownAddress a), k)

/-- For an account without details nothing is signed, and the device is not asked. -/
theorem signWith_of_lacks {ask : String → σ → Except DeviceError Signature × σ} {hash : Hash32}
    (h : k.state.Lacks a) : k.signWith ask hash a = (.error (.unknownAddress a), k) := by
  have unknown : k.state.pathOf? a = none := by rw [KeyringState.pathOf?, h.noDetails]; rfl
  rw [signWith, unknown]

theorem disowns_of_lacks (h : k.state.Lacks a) : k.Disowns d a where
  transaction tx := by
    rw [signTransaction, signWith_of_lacks h]
    rfl
  message message := signWith_of_lacks h
  removal := by rw [removeAccount, if_neg (mt KeyringState.contains_iff.1 h.unlisted)]

/-- An account can be removed exactly if it is listed. -/
theorem removeAccount_eq_ok_iff :
    k.removeAccount a = (.ok (), k') ↔
      a ∈ k.state.accounts ∧ k' = { k with state := k.state.forget a } := by
  rw [removeAccount, ← KeyringState.contains_iff]
  split
  · next used => simp [used, eq_comm]
  · next unused => simp [unused]

/-- An account that was removed is gone from the list and from the details, and nothing else is. In every
later run in which no state is taken over and the device does not give the account to a call that adds
accounts, it stays unknown. -/
theorem removed_stays_unknown (d : Device σ) (removed : k.removeAccount a = (.ok (), k')) :
    k.state.Loses a k'.state ∧
      ∀ later, (∀ call ∈ later, ∀ serialized, call ≠ .deserialize serialized) →
        k'.NeverDerives d a later → (k'.after d later).Disowns d a := by
  obtain ⟨-, rfl⟩ := removeAccount_eq_ok_iff.1 removed
  have loses := k.state.loses_forget a
  refine ⟨loses, ?_⟩
  intro later own never
  apply disowns_of_lacks
  exact after_lacks own never loses.lacks

end Keyring

/-- An account that is derived is at the path of one of the indices. -/
theorem Call.Derives.exists_index {k : Keyring σ} {count : Nat}
    (derives : (Call.addAccounts count).Derives d k a) :
    ∃ i < count, ∃ u,
      (d.address (accountPath k.state.hdPath (k.state.unlockedAccount.toNat + i)) u).1 = .ok a := by
  obtain ⟨-, found, w, fits, derived, mem⟩ := derives
  obtain ⟨i, before, there⟩ := List.mem_iff_getElem.1 mem
  obtain ⟨u, answer⟩ := derived.exists_answer (List.getElem?_eq_some_iff.2 ⟨before, there⟩)
  exact ⟨i, Nat.lt_of_lt_of_le before fits, u, answer⟩

/-- A keyring whose state lists one account twice and has the details of another one that it does not
list. -/
def untidyKeyring : Keyring Unit where
  kind := .trezor
  state :=
    { KeyringState.new bip44Path with
      accounts := [echoedAt 1, echoedAt 0, echoedAt 1]
      accountDetails :=
        (AddressMap.empty.insert (echoedAt 1) ⟨accountPath bip44Path 1, 1⟩).insert (echoedAt 3)
          ⟨accountPath bip44Path 3, 3⟩ }
  device := ()

/-- A run that adds the account before the one that is gone, and accounts under another root. -/
def busyRun : List Call :=
  [.addAccounts 1, .removeAccount (echoedAt 3), .setHdPath "m", .addAccounts 2, .forgetDevice]

/-- The echoing device gives those accounts only whose paths end in their addresses. -/
theorem not_derives_echoing {k : Keyring Unit} {count : Nat}
    (others : ∀ i < count, .lastBytes 20 (Hex.utf8
      (accountPath k.state.hdPath (k.state.unlockedAccount.toNat + i)).toList) ≠ a) :
    ¬ (Call.addAccounts count).Derives .echoing k a := by
  intro derives
  obtain ⟨i, before, u, answer⟩ := derives.exists_index
  exact others i before (Except.ok.inj answer)

/-- While three accounts are added around it, the one that was removed stays unknown. -/
theorem removed_stays_unknown_busyRun :
    ∃ k', untidyKeyring.removeAccount (echoedAt 1) = (.ok (), k') ∧
      k'.state.accounts = [echoedAt 0] ∧
      (k'.after .echoing (busyRun.take 4)).state.accounts.length = 3 ∧
      (k'.after .echoing busyRun).Disowns .echoing (echoedAt 1) := by
  let k' : Keyring Unit := { untidyKeyring with state := untidyKeyring.state.forget (echoedAt 1) }
  have removed : untidyKeyring.removeAccount (echoedAt 1) = (.ok (), k') :=
    Keyring.removeAccount_eq_ok_iff.2 ⟨List.mem_cons_self, rfl⟩
  have own : ∀ call ∈ busyRun, ∀ serialized, call ≠ .deserialize serialized := by simp [busyRun]
  have never : k'.NeverDerives .echoing (echoedAt 1) busyRun := by
    refine ⟨not_derives_echoing ?_, id, id, not_derives_echoing ?_, id, trivial⟩
    all_goals decide +kernel
  obtain ⟨-, later⟩ := Keyring.removed_stays_unknown .echoing removed
  exact ⟨k', removed, by decide +kernel, by decide +kernel, later busyRun own never⟩

/-! ### Several removals -/

namespace KeyringState

variable {s s' : KeyringState} {as bs : List Address}

def forgetAll (s : KeyringState) (as : List Address) : KeyringState :=
  as.foldl forget s

theorem forgetAll_cons (s : KeyringState) (a : Address) (as : List Address) :
    s.forgetAll (a :: as) = (s.forget a).forgetAll as := rfl

/-- The list without the accounts that were taken out of use. -/
theorem accounts_forgetAll (s : KeyringState) (as : List Address) :
    (s.forgetAll as).accounts = s.accounts.filter fun b => decide (b ∉ as) := by
  induction as generalizing s with
  | nil => exact (List.filter_eq_self.2 fun b _ => by simp).symm
  | cons a as ih =>
    rw [forgetAll_cons, ih]
    show (s.accounts.filter _).filter _ = _
    rw [List.filter_filter]
    apply List.filter_congr
    intro b _
    by_cases same : b = a <;> simp [same]

/-- The details without those of the accounts that were taken out of use. -/
theorem get?_forgetAll (s : KeyringState) (as : List Address) (b : Address) :
    (s.forgetAll as).accountDetails.get? b =
      if b ∈ as then none else s.accountDetails.get? b := by
  induction as generalizing s with
  | nil => simp [forgetAll]
  | cons a as ih =>
    rw [forgetAll_cons, ih, get?_forget]
    by_cases same : b = a <;> simp [same]

/-- Removals are about the accounts alone. -/
theorem forgetAll_frame (s : KeyringState) (as : List Address) :
    (s.forgetAll as).hdPath = s.hdPath ∧ (s.forgetAll as).page = s.page ∧
      (s.forgetAll as).unlockedAccount = s.unlockedAccount := by
  induction as generalizing s with
  | nil => exact ⟨rfl, rfl, rfl⟩
  | cons a as ih => exact ih (s.forget a)

/-- A state is what can be looked up in it. -/
theorem eq_of_get? (accounts : s.accounts = s'.accounts)
    (details : ∀ a, s.accountDetails.get? a = s'.accountDetails.get? a)
    (frame : s.hdPath = s'.hdPath ∧ s.page = s'.page ∧ s.unlockedAccount = s'.unlockedAccount) :
    s = s' := by
  obtain ⟨hdPath, page, unlockedAccount⟩ := frame
  have details : s.accountDetails = s'.accountDetails := AddressMap.ext_get? details
  cases s
  cases s'
  simp_all

/-- It only matters which accounts are removed. -/
theorem forgetAll_congr (same : ∀ a, a ∈ as ↔ a ∈ bs) : s.forgetAll as = s.forgetAll bs := by
  apply eq_of_get?
  · simp only [accounts_forgetAll, same]
  · intro a
    simp only [get?_forgetAll, same]
  · obtain ⟨root, page, start⟩ := s.forgetAll_frame as
    obtain ⟨root', page', start'⟩ := s.forgetAll_frame bs
    exact ⟨root.trans root'.symm, page.trans page'.symm, start.trans start'.symm⟩

/-- Without the accounts that are new, the state is what it was before they were added. -/
theorem forgetAll_trackAll {found new : List Address} (index : Nat)
    (listed : ∀ a, (s.accountDetails.get? a).isSome → a ∈ s.accounts)
    (mem_new : ∀ a, a ∈ new ↔ a ∈ found ∧ a ∉ s.accounts) :
    (s.trackAll index found).forgetAll new = s := by
  apply eq_of_get?
  · -- The list goes on where it ended before, and all that follows is new.
    rw [accounts_forgetAll, accounts_trackAll, List.filter_append]
    have old : s.accounts.filter (fun b => decide (b ∉ new)) = s.accounts := by
      apply List.filter_eq_self.2
      intro a mem
      simp [mem_new, mem]
    have gone : (found.removeAll s.accounts).eraseDups.filter (fun b => decide (b ∉ new)) = [] := by
      apply List.filter_eq_nil_iff.2
      intro a mem
      have unused : a ∈ found ∧ a ∉ s.accounts := by
        simpa [List.mem_eraseDups, List.removeAll] using mem
      simp [mem_new, unused]
    rw [old, gone, List.append_nil]
  · intro a
    rw [get?_forgetAll, get?_trackAll]
    by_cases new : a ∈ found ∧ a ∉ s.accounts
    · -- There were no details of a new account, since it was not in the list.
      have none : s.accountDetails.get? a = none := by
        rw [← Option.not_isSome_iff_eq_none]
        exact mt (listed a) new.2
      rw [if_pos ((mem_new a).2 new), none]
    · rw [if_neg (mt (mem_new a).1 new), if_neg new]
  · obtain ⟨root, page, start⟩ := (s.trackAll index found).forgetAll_frame new
    exact ⟨root.trans (s.hdPath_trackAll index found), page.trans (s.page_trackAll index found),
      start.trans (s.unlockedAccount_trackAll index found)⟩

end KeyringState

namespace Keyring

variable {k k' : Keyring σ} {as bs : List Address} {count : Nat} {accounts : List Address}

def removeEach (k : Keyring σ) : List Address → Result σ Unit
  | [] => (.ok (), k)
  | a :: as =>
    match k.removeAccount a with
    | (.error e, k) => (.error e, k)
    | (.ok (), k) => k.removeEach as

/-- Accounts can be removed one after another exactly if they are different ones that are all listed. -/
theorem removeEach_eq_ok_iff :
    k.removeEach as = (.ok (), k') ↔
      as.Nodup ∧ (∀ a ∈ as, a ∈ k.state.accounts) ∧ k' = { k with state := k.state.forgetAll as } := by
  induction as generalizing k with
  | nil => simp [removeEach, KeyringState.forgetAll, eq_comm]
  | cons a as ih =>
    rw [removeEach, List.nodup_cons]
    constructor
    · intro h
      split at h
      · cases h
      · next removed =>
        obtain ⟨used, rfl⟩ := removeAccount_eq_ok_iff.1 removed
        obtain ⟨nodup, rest, rfl⟩ := ih.1 h
        -- What is removed later is still in use after the first removal, so it is another account.
        have other (b : Address) (mem : b ∈ as) := KeyringState.mem_accounts_forget.1 (rest b mem)
        refine ⟨⟨fun mem => (other a mem).2 rfl, nodup⟩, ?_, rfl⟩
        intro b mem
        rcases List.mem_cons.1 mem with rfl | mem
        · exact used
        · exact (other b mem).1
    · rintro ⟨⟨fresh, nodup⟩, used, rfl⟩
      have removed : k.removeAccount a = (.ok (), { k with state := k.state.forget a }) :=
        removeAccount_eq_ok_iff.2 ⟨used a List.mem_cons_self, rfl⟩
      rw [removed]
      refine ih.2 ⟨nodup, ?_, rfl⟩
      intro b mem
      apply KeyringState.mem_accounts_forget.2
      exact ⟨used b (List.mem_cons_of_mem a mem), fun same => fresh (same ▸ mem)⟩

/-- The order of removals does not matter. -/
theorem removeEach_perm (perm : as.Perm bs) (removed : k.removeEach as = (.ok (), k')) :
    k.removeEach bs = (.ok (), k') := by
  obtain ⟨nodup, used, rfl⟩ := removeEach_eq_ok_iff.1 removed
  apply removeEach_eq_ok_iff.2
  refine ⟨perm.nodup_iff.1 nodup, ?_, ?_⟩
  · intro a mem
    exact used a (perm.mem_iff.2 mem)
  · rw [KeyringState.forgetAll_congr fun a => perm.mem_iff]

/-- Accounts that were added can be removed, in any order. -/
theorem removeEach_added (listed : ∀ a, (k.state.accountDetails.get? a).isSome → a ∈ k.state.accounts)
    (added : k.addAccounts d count = (.ok accounts, k')) {new : List Address} (nodup : new.Nodup)
    (mem_new : ∀ a, a ∈ new ↔ a ∈ accounts ∧ a ∉ k.state.accounts) :
    k'.removeEach new = (.ok (), { k' with state := k.state }) := by
  obtain ⟨-, found, w, -, -, rfl, rfl⟩ := exists_derives_of_addAccounts added
  -- The new accounts are those that were found without having been in use.
  have mem_found (a : Address) : a ∈ new ↔ a ∈ found ∧ a ∉ k.state.accounts := by
    rw [mem_new, KeyringState.mem_accounts_trackAll]
    constructor
    · rintro ⟨used | found, unused⟩
      · exact absurd used unused
      · exact ⟨found, unused⟩
    · rintro ⟨found, unused⟩
      exact ⟨.inr found, unused⟩
  apply removeEach_eq_ok_iff.2
  refine ⟨nodup, ?_, ?_⟩
  · intro a mem
    exact ((mem_new a).1 mem).1
  · rw [KeyringState.forgetAll_trackAll _ listed mem_found]

/-- Removing the accounts that a call has added succeeds in any order and leaves the state from before the
call, if no details in that state were without a place in the list. In any state, the removals of different
accounts can be exchanged. -/
theorem removal_undoes_addition
    (listed : ∀ a, (k.state.accountDetails.get? a).isSome → a ∈ k.state.accounts)
    (added : k.addAccounts d count = (.ok accounts, k')) :
    (∀ new : List Address, new.Nodup → (∀ a, a ∈ new ↔ a ∈ accounts ∧ a ∉ k.state.accounts) →
      k'.removeEach new = (.ok (), { k' with state := k.state })) ∧
    (∀ (k k₁ k₂ : Keyring σ) (a b : Address), a ≠ b →
      k.removeAccount a = (.ok (), k₁) → k.removeAccount b = (.ok (), k₂) →
      ∃ k₃, k₁.removeAccount b = (.ok (), k₃) ∧ k₂.removeAccount a = (.ok (), k₃)) ∧
    ∀ (k k' : Keyring σ) (as bs : List Address), as.Perm bs →
      k.removeEach as = (.ok (), k') → k.removeEach bs = (.ok (), k') := by
  refine ⟨fun new => removeEach_added listed added, ?_, fun _ _ _ _ => removeEach_perm⟩
  intro k k₁ k₂ a b ne first second
  obtain ⟨used, rfl⟩ := removeAccount_eq_ok_iff.1 first
  obtain ⟨used', rfl⟩ := removeAccount_eq_ok_iff.1 second
  -- What is left does not depend on the order in which accounts are taken out of use.
  have exchanged : (k.state.forget a).forget b = (k.state.forget b).forget a := by
    show k.state.forgetAll [a, b] = k.state.forgetAll [b, a]
    apply KeyringState.forgetAll_congr
    simp [or_comm]
  refine ⟨{ k with state := (k.state.forget a).forget b }, ?_, ?_⟩
  · apply removeAccount_eq_ok_iff.2
    exact ⟨KeyringState.mem_accounts_forget.2 ⟨used', ne.symm⟩, rfl⟩
  · apply removeAccount_eq_ok_iff.2
    rw [exchanged]
    exact ⟨KeyringState.mem_accounts_forget.2 ⟨used, ne⟩, rfl⟩

end Keyring

/-- The same keyring with the other account listed as well. -/
def tidiedKeyring : Keyring Unit :=
  { untidyKeyring with
    state := { untidyKeyring.state with accounts := echoedAt 3 :: untidyKeyring.state.accounts } }

theorem removal_undoes_addition_tidied :
    ∃ accounts k', tidiedKeyring.addAccounts (.withThird (.ok (echoedAt 5))) 6 = (.ok accounts, k') ∧
      accounts = [echoedAt 3, echoedAt 1, echoedAt 0, echoedAt 1, echoedAt 5, echoedAt 4] ∧
      k'.removeEach [echoedAt 4, echoedAt 5] = (.ok (), { k' with state := tidiedKeyring.state }) := by
  have listed (a : Address) (recorded : (tidiedKeyring.state.accountDetails.get? a).isSome) :
      a ∈ tidiedKeyring.state.accounts := by
    by_cases third : a = echoedAt 3
    · simp [tidiedKeyring, third]
    · by_cases first : a = echoedAt 1
      · simp [tidiedKeyring, untidyKeyring, first]
      · simp [tidiedKeyring, untidyKeyring, AddressMap.get?_insert, third, first] at recorded
  -- The third account is the sixth one, and the others with small indices are in use already.
  have derived : (Device.withThird (.ok (echoedAt 5))).Derives bip44Path 0 ()
      [echoedAt 0, echoedAt 1, echoedAt 5, echoedAt 3, echoedAt 4, echoedAt 5] () :=
    .cons rfl (.cons rfl (.cons rfl (.cons rfl (.cons rfl (.cons rfl (.nil _ _))))))
  have added := Keyring.addAccounts_of_derives (k := tidiedKeyring) (by decide) derived
  have accounts : (tidiedKeyring.state.trackAll 0
      [echoedAt 0, echoedAt 1, echoedAt 5, echoedAt 3, echoedAt 4, echoedAt 5]).accounts =
        [echoedAt 3, echoedAt 1, echoedAt 0, echoedAt 1, echoedAt 5, echoedAt 4] := by
    decide +kernel
  obtain ⟨undone, -, -⟩ := Keyring.removal_undoes_addition listed added
  refine ⟨_, _, added, accounts, undone [echoedAt 4, echoedAt 5] (by decide +kernel) ?_⟩
  intro a
  show _ ↔ a ∈ (tidiedKeyring.state.trackAll 0 _).accounts ∧ _
  rw [accounts]
  constructor
  · have new : ∀ a ∈ [echoedAt 4, echoedAt 5],
        a ∈ [echoedAt 3, echoedAt 1, echoedAt 0, echoedAt 1, echoedAt 5, echoedAt 4] ∧
          a ∉ tidiedKeyring.state.accounts := by decide +kernel
    exact new a
  · rintro ⟨mem, unused⟩
    have old : ∀ a ∈ [echoedAt 3, echoedAt 1, echoedAt 0, echoedAt 1, echoedAt 5, echoedAt 4],
        a ∈ [echoedAt 4, echoedAt 5] ∨ a ∈ tidiedKeyring.state.accounts := by decide +kernel
    exact (old a mem).resolve_right unused

end WalletRelay
