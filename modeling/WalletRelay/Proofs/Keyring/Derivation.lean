import WalletRelay.Proofs.Keyring.Changes

/-!
# Accounts that a device gives

Adding accounts and showing a page do the same thing with a device: they ask for the accounts from an
index on, one after another, up to the first that is refused. `Device.Derives` says which addresses the
device gives and in which state this leaves it. Nothing is said about other orders or a second time, so
every device either gives all the accounts that it is asked for, or refuses one of them (`exists_derives`).

Both loops are characterized by this relation: what they do if the device gives all the accounts
(`trackFrom_of_derives`, `entriesFrom_of_derives`), and if it refuses one (`trackFrom_of_refusal`,
`entriesFrom_of_refusal`). Hence what adding accounts does in these two cases
(`addAccounts_of_derives`, `addAccounts_of_refused`).
-/

namespace WalletRelay

variable {σ : Type} {d : Device σ}

/-! ### Devices -/

namespace Device

/-- The device, asked for the accounts from an index on, gives these addresses one after another, and is
in the last of the two states afterwards. -/
inductive Derives (d : Device σ) (root : String) : Nat → σ → List Address → σ → Prop
  | nil (index : Nat) (u : σ) : Derives d root index u [] u
  | cons {index : Nat} {u v w : σ} {a : Address} {as : List Address} :
      d.address (accountPath root index) u = (.ok a, v) →
      Derives d root (index + 1) v as w →
      Derives d root index u (a :: as) w

/-- However many accounts a device is asked for, it gives them all or refuses one of them. -/
theorem exists_derives (d : Device σ) (root : String) (index count : Nat) (u : σ) :
    ∃ as v, d.Derives root index u as v ∧
      (as.length = count ∨ as.length < count ∧
        ∃ e w, d.address (accountPath root (index + as.length)) v = (.error e, w)) := by
  induction count generalizing index u with
  | zero => exact ⟨[], u, .nil index u, .inl rfl⟩
  | succ count ih =>
    cases asked : d.address (accountPath root index) u with
    | mk answer v =>
      cases answer with
      -- The run of addresses ends at the first refusal, or when all of them are there.
      | error e => exact ⟨[], u, .nil index u, .inr ⟨Nat.succ_pos count, e, v, asked⟩⟩
      | ok a =>
        obtain ⟨as, w, derived, rest⟩ := ih (index + 1) v
        refine ⟨a :: as, w, .cons asked derived, ?_⟩
        rcases rest with all | ⟨fewer, refused⟩
        · exact .inl (congrArg (· + 1) all)
        · refine .inr ⟨Nat.succ_lt_succ fewer, ?_⟩
          rwa [List.length_cons, Nat.add_comm as.length, ← Nat.add_assoc]

end Device

/-! ### States -/

namespace KeyringState

/-- Take accounts into use that were found one after another from an index on. -/
def trackAll (s : KeyringState) (index : Nat) : List Address → KeyringState
  | [] => s
  | a :: as => trackAll (s.track a ⟨accountPath s.hdPath index, .ofNat index⟩) (index + 1) as

theorem hdPath_trackAll (s : KeyringState) (index : Nat) (as : List Address) :
    (s.trackAll index as).hdPath = s.hdPath := by
  induction as generalizing s index with
  | nil => rfl
  | cons a as ih =>
    rw [trackAll, ih, hdPath_track]

end KeyringState

/-- The rows of accounts that were found one after another from an index on. -/
def PageEntry.rows (index : Nat) : List Address → List PageEntry
  | [] => []
  | a :: as => ⟨a, .ofNat index⟩ :: rows (index + 1) as

/-! ### The two loops -/

namespace Keyring

variable {k : Keyring σ} {index count : Nat} {as : List Address} {u v w : σ} {e : DeviceError}

/-- Up to the limit an index is stored as it is. -/
theorem toNat_ofNat_of_le_indexLimit (le : index ≤ indexLimit) : (UInt64.ofNat index).toNat = index :=
  UInt64.toNat_ofNat_of_lt' (Nat.lt_of_le_of_lt le (by decide))

/-- The keyring passes on the address that the device gives. -/
theorem addressAt_of_ok {a : Address}
    (asked : d.address (accountPath k.state.hdPath index) k.device = (.ok a, u)) :
    k.addressAt d index = (.ok a, { k with device := u }) := by
  rw [addressAt, asked]

/-- The keyring passes on the refusal of the device. -/
theorem addressAt_of_error
    (asked : d.address (accountPath k.state.hdPath index) k.device = (.error e, u)) :
    k.addressAt d index = (.error (.device e), { k with device := u }) := by
  rw [addressAt, asked]

/-- Taking accounts into use can be cut in two; the first refusal ends both parts. -/
theorem trackFrom_add (d : Device σ) (index first second : Nat) (k : Keyring σ) :
    trackFrom d index (first + second) k =
      match trackFrom d index first k with
      | (.error e, k) => (.error e, k)
      | (.ok (), k) => trackFrom d (index + first) second k := by
  induction first generalizing index k with
  | zero => rw [Nat.zero_add, trackFrom, Nat.add_zero]
  | succ first ih =>
    -- Both sides begin with the same account. If it is refused, neither goes on.
    rw [Nat.succ_add, trackFrom, trackFrom]
    cases k.addressAt d index with
    | mk answer k' =>
      cases answer with
      | error e => rfl
      | ok a =>
        have rest := ih (index + 1)
          { k' with state := k'.state.track a ⟨accountPath k'.state.hdPath index, .ofNat index⟩ }
        rw [Nat.add_right_comm] at rest
        exact rest

/-- If the device gives all addresses, all accounts are taken into use. -/
theorem trackFrom_of_derives (derived : d.Derives k.state.hdPath index k.device as w) :
    trackFrom d index as.length k =
      (.ok (), { k with state := k.state.trackAll index as, device := w }) := by
  induction as generalizing index k with
  | nil =>
    cases derived
    rfl
  | cons a as ih =>
    cases derived with
    | cons asked rest =>
      rw [List.length_cons, trackFrom, addressAt_of_ok asked]
      -- The accounts that follow are looked for under the same root.
      refine ih ?_
      rw [KeyringState.hdPath_track]
      exact rest

/-- If the device refuses one, the accounts before it have been taken into use. -/
theorem trackFrom_of_refusal (derived : d.Derives k.state.hdPath index k.device as v)
    (fewer : as.length < count)
    (refused : d.address (accountPath k.state.hdPath (index + as.length)) v = (.error e, w)) :
    trackFrom d index count k =
      (.error (.device e), { k with state := k.state.trackAll index as, device := w }) := by
  obtain ⟨rest, rfl⟩ := Nat.exists_eq_add_of_lt fewer
  rw [Nat.add_assoc, trackFrom_add, trackFrom_of_derives derived]
  -- What is left begins with the account that is refused.
  have stopped := addressAt_of_error (d := d)
    (k := { k with state := k.state.trackAll index as, device := v })
    (by rw [KeyringState.hdPath_trackAll]; exact refused)
  simp only [trackFrom, stopped]

/-- If the device gives all addresses, the entries are there and the state is the same. -/
theorem entriesFrom_of_derives (derived : d.Derives k.state.hdPath index k.device as w) :
    entriesFrom d index as.length k = (.ok (PageEntry.rows index as), { k with device := w }) := by
  induction as generalizing index k with
  | nil =>
    cases derived
    rfl
  | cons a as ih =>
    cases derived with
    | @cons _ _ u _ _ _ asked rest =>
      have following := ih (k := { k with device := u }) rest
      rw [List.length_cons, entriesFrom, addressAt_of_ok asked]
      simp only [following, PageEntry.rows]

/-- If the device refuses one, there are no entries, and the state is the same. -/
theorem entriesFrom_of_refusal (derived : d.Derives k.state.hdPath index k.device as v)
    (fewer : as.length < count)
    (refused : d.address (accountPath k.state.hdPath (index + as.length)) v = (.error e, w)) :
    entriesFrom d index count k = (.error (.device e), { k with device := w }) := by
  -- On the addresses before the refusal: the loop gets as far as they do.
  induction as generalizing index count k with
  | nil =>
    cases derived
    cases count with
    | zero => cases fewer
    | succ count =>
      have stopped : k.addressAt d index = (.error (.device e), { k with device := w }) :=
        addressAt_of_error refused
      rw [entriesFrom, stopped]
  | cons a as ih =>
    cases derived with
    | @cons _ _ u _ _ _ asked derived =>
      cases count with
      | zero => cases fewer
      | succ count =>
        rw [List.length_cons, ← Nat.succ_add_eq_add_succ] at refused
        have following := ih (k := { k with device := u }) derived (Nat.lt_of_succ_lt_succ fewer) refused
        rw [entriesFrom, addressAt_of_ok asked]
        simp only [following]

/-! ### Adding accounts -/

/-- Accounts within range whose addresses the device gives are added. -/
theorem addAccounts_of_derives
    (inRange : k.state.unlockedAccount.toNat + as.length ≤ indexLimit)
    (derived : d.Derives k.state.hdPath k.state.unlockedAccount.toNat k.device as w) :
    k.addAccounts d as.length =
      (.ok (k.state.trackAll k.state.unlockedAccount.toNat as).accounts,
        { k with state := k.state.trackAll k.state.unlockedAccount.toNat as, device := w }) := by
  simp only [addAccounts, checkRange_eq_ok_iff.2 inRange, trackFrom_of_derives derived]

/-- Adding accounts stops at the first that the device refuses; those before it stay. -/
theorem addAccounts_of_refused
    (inRange : k.state.unlockedAccount.toNat + count ≤ indexLimit)
    (derived : d.Derives k.state.hdPath k.state.unlockedAccount.toNat k.device as v)
    (fewer : as.length < count)
    (refused : d.address
      (accountPath k.state.hdPath (k.state.unlockedAccount.toNat + as.length)) v = (.error e, w)) :
    k.addAccounts d count =
      (.error (.device e),
        { k with state := k.state.trackAll k.state.unlockedAccount.toNat as, device := w }) := by
  simp only [addAccounts, checkRange_eq_ok_iff.2 inRange,
    trackFrom_of_refusal derived fewer refused]

/-- Whatever becomes of the call, it leaves the state as it was, or takes into use what the device has given
before it refused an account. -/
theorem addAccounts_leaves (d : Device σ) (k : Keyring σ) (count : Nat) :
    (k.addAccounts d count).2 = k ∨
      k.state.unlockedAccount.toNat + count ≤ indexLimit ∧
      ∃ as v w, as.length ≤ count ∧
        d.Derives k.state.hdPath k.state.unlockedAccount.toNat k.device as v ∧
        (k.addAccounts d count).2 =
          { k with state := k.state.trackAll k.state.unlockedAccount.toNat as, device := w } := by
  by_cases inRange : k.state.unlockedAccount.toNat + count ≤ indexLimit
  · refine .inr ⟨inRange, ?_⟩
    obtain ⟨as, v, derived, all | ⟨fewer, e, w, refused⟩⟩ :=
      d.exists_derives k.state.hdPath k.state.unlockedAccount.toNat count k.device
    · subst all
      refine ⟨as, v, v, Nat.le_refl _, derived, ?_⟩
      rw [addAccounts_of_derives inRange derived]
    · refine ⟨as, v, w, Nat.le_of_lt fewer, derived, ?_⟩
      rw [addAccounts_of_refused inRange derived fewer refused]
  · refine .inl ?_
    have tooFar : checkRange k.state.unlockedAccount.toNat count ≠ .ok () :=
      mt checkRange_eq_ok_iff.1 inRange
    simp only [addAccounts]
    split
    · rfl
    · next checked => exact absurd checked tooFar

end Keyring
end WalletRelay
