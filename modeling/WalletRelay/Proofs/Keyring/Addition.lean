import WalletRelay.Proofs.Keyring.Derivation
import WalletRelay.Proofs.Keyring.Tracking

/-!
# Adding accounts

What a call to add accounts does is settled by the addresses that the device gives: those that are not in
use yet are appended in the order in which they came, each once, and get the details of the place where they
came first (`addAccounts_gains`).

It follows that the call can be cut anywhere (`addAccounts_in_parts`). If the device refuses an account, the
call has done what a shorter call does, and a second call does the rest. A call that is repeated does
nothing. And a call for many accounts is two calls for fewer, with the unlock index moved in between.
-/

namespace WalletRelay

variable {σ τ : Type} {d : Device σ}

/-- Where both devices give an address at a path, it is the same. -/
def Device.AgreesWith (d' : Device τ) (d : Device σ) (path : String) : Prop :=
  ∀ v u a b, (d'.address path v).1 = .ok a → (d.address path u).1 = .ok b → a = b

/-- Every address that was found is an answer to the request for its path. -/
theorem Device.Derives.exists_answer {root : String} {index i : Nat} {u v : σ} {as : List Address}
    {a : Address} (derived : d.Derives root index u as v) (there : as[i]? = some a) :
    ∃ u, (d.address (accountPath root (index + i)) u).1 = .ok a := by
  induction derived generalizing i with
  | nil => cases there
  | @cons index u _ _ _ _ asked _ ih =>
    cases i with
    | zero =>
      cases there
      exact ⟨u, congrArg Prod.fst asked⟩
    | succ i =>
      obtain ⟨v, answer⟩ := ih there
      rw [Nat.add_right_comm] at answer
      exact ⟨v, answer⟩

/-! ### Lists without some of their items -/

theorem removeAll_append_singleton (as old : List Address) (a : Address) :
    as.removeAll (old ++ [a]) = (as.removeAll old).filter fun b => !b == a := by
  simp only [List.removeAll, List.filter_filter]
  apply List.filter_congr
  intro b _
  by_cases eq : b = a <;> simp [eq]

namespace KeyringState

variable {s s' : KeyringState} {a : Address} {as bs : List Address}

theorem track_of_mem (used : a ∈ s.accounts) (details : AccountDetails) : s.track a details = s := by
  rw [track, if_pos (contains_iff.2 used)]

theorem track_of_not_mem (unused : a ∉ s.accounts) (details : AccountDetails) :
    s.track a details =
      { s with accounts := s.accounts ++ [a], accountDetails := s.accountDetails.insert a details } := by
  rw [track, if_neg (mt contains_iff.1 unused)]

/-- Taking an account into use leaves it open whether another one is. -/
theorem mem_accounts_track_of_ne {b : Address} (ne : a ≠ b) (details : AccountDetails) :
    a ∈ (s.track b details).accounts ↔ a ∈ s.accounts := by
  unfold track
  split
  · rfl
  · simp [ne]

/-- Taking an account into use leaves the details of the others. -/
theorem get?_track_of_ne {b : Address} (ne : a ≠ b) (details : AccountDetails) :
    (s.track b details).accountDetails.get? a = s.accountDetails.get? a := by
  unfold track
  split
  · rfl
  · rw [AddressMap.get?_insert, if_neg ne]

/-- The unlock index is of no use to an account. -/
theorem track_withUnlocked (s : KeyringState) (start : UInt64) (a : Address) (details : AccountDetails) :
    ({ s with unlockedAccount := start } : KeyringState).track a details =
      { s.track a details with unlockedAccount := start } := by
  by_cases used : a ∈ s.accounts
  · rw [track_of_mem used, track_of_mem (s := { s with unlockedAccount := start }) used]
  · rw [track_of_not_mem used, track_of_not_mem (s := { s with unlockedAccount := start }) used]

/-! ### Many accounts -/

theorem page_trackAll (s : KeyringState) (index : Nat) (as : List Address) :
    (s.trackAll index as).page = s.page := by
  induction as generalizing s index with
  | nil => rfl
  | cons a as ih =>
    rw [trackAll, ih, track]
    split <;> rfl

theorem unlockedAccount_trackAll (s : KeyringState) (index : Nat) (as : List Address) :
    (s.trackAll index as).unlockedAccount = s.unlockedAccount := by
  induction as generalizing s index with
  | nil => rfl
  | cons a as ih =>
    rw [trackAll, ih, track]
    split <;> rfl

/-- Accounts can be taken into use in two runs. -/
theorem trackAll_append (s : KeyringState) (index : Nat) (as bs : List Address) :
    s.trackAll index (as ++ bs) = (s.trackAll index as).trackAll (index + as.length) bs := by
  induction as generalizing s index with
  | nil => rfl
  | cons a as ih =>
    rw [List.cons_append, trackAll, ih, trackAll, List.length_cons, Nat.add_assoc, Nat.add_comm 1]

/-- The accounts that are not in use yet follow those that are, each where it was found first. -/
theorem accounts_trackAll (s : KeyringState) (index : Nat) (as : List Address) :
    (s.trackAll index as).accounts = s.accounts ++ (as.removeAll s.accounts).eraseDups := by
  induction as generalizing s index with
  | nil => simp [trackAll, List.removeAll]
  | cons a as ih =>
    rw [trackAll, ih]
    by_cases used : a ∈ s.accounts
    · have skipped : (a :: as).removeAll s.accounts = as.removeAll s.accounts := by
        simp [List.removeAll, used]
      rw [track_of_mem used, skipped]
    · have first : (a :: as).removeAll s.accounts = a :: as.removeAll s.accounts := by
        simp [List.removeAll, used]
      -- From now on the account is in use, so it is skipped where it is found again.
      rw [track_of_not_mem used, first, List.eraseDups_cons, removeAll_append_singleton,
        List.append_assoc, List.singleton_append]

/-- What is in use afterwards was in use before or has been found. -/
theorem mem_accounts_trackAll {index : Nat} :
    a ∈ (s.trackAll index as).accounts ↔ a ∈ s.accounts ∨ a ∈ as := by
  rw [accounts_trackAll]
  by_cases used : a ∈ s.accounts <;> simp [List.mem_eraseDups, List.removeAll, used]

/-- A new account has the details of the place where it was found first; other details stay. -/
theorem get?_trackAll (s : KeyringState) (index : Nat) (as : List Address) (a : Address) :
    (s.trackAll index as).accountDetails.get? a =
      if a ∈ as ∧ a ∉ s.accounts then
        some ⟨accountPath s.hdPath (index + as.idxOf a), .ofNat (index + as.idxOf a)⟩
      else s.accountDetails.get? a := by
  induction as generalizing s index with
  | nil => simp [trackAll]
  | cons b as ih =>
    rw [trackAll, ih, hdPath_track]
    by_cases eq : a = b
    · -- Once it is in use, the account keeps its details, wherever else it is found.
      subst eq
      by_cases used : a ∈ s.accounts
      · simp [track_of_mem used, used]
      · simp [track_of_not_mem used, used, AddressMap.get?_insert]
    · have shift : index + 1 + as.idxOf a = index + (b :: as).idxOf a := by
        rw [List.idxOf_cons, beq_false_of_ne (Ne.symm eq), cond_false]
        omega
      simp only [shift, mem_accounts_track_of_ne eq, get?_track_of_ne eq, List.mem_cons, eq, false_or]

/-- Accounts in use are not added again. -/
theorem trackAll_of_subset {index : Nat} (used : ∀ a ∈ as, a ∈ s.accounts) :
    s.trackAll index as = s := by
  induction as generalizing index with
  | nil => rfl
  | cons a as ih =>
    rw [trackAll, track_of_mem (used a List.mem_cons_self)]
    exact ih fun b mem => used b (List.mem_cons_of_mem a mem)

/-- Some of the accounts may have been added before, under the same indices. -/
theorem trackAll_trackAll_append (s : KeyringState) (index : Nat) (as bs : List Address) :
    (s.trackAll index as).trackAll index (as ++ bs) = s.trackAll index (as ++ bs) := by
  have again : (s.trackAll index as).trackAll index as = s.trackAll index as := by
    apply trackAll_of_subset
    intro a mem
    exact mem_accounts_trackAll.2 (.inr mem)
  rw [trackAll_append, again, trackAll_append]

/-! ### What a call adds -/

/-- One state comes from another by taking accounts into use that were found one after another from the
unlock index on. -/
structure Gains (s : KeyringState) (found : List Address) (s' : KeyringState) : Prop where
  /-- The accounts that were not in use follow the others, in the order in which they were found first. -/
  accounts : s'.accounts = s.accounts ++ (found.removeAll s.accounts).eraseDups
  /-- A new account is where it was found first. -/
  details_new : ∀ a ∈ found, a ∉ s.accounts → ∃ details, s'.accountDetails.get? a = some details ∧
    details.index.toNat = s.unlockedAccount.toNat + found.idxOf a ∧
    details.hdPath = accountPath s.hdPath (s.unlockedAccount.toNat + found.idxOf a)
  details_old : ∀ a, a ∈ s.accounts ∨ a ∉ found → s'.accountDetails.get? a = s.accountDetails.get? a
  /-- An account that was in use keeps its place in the list. -/
  place : ∀ (i : Nat) a, s.accounts[i]? = some a → s'.accounts[i]? = some a
  hdPath : s'.hdPath = s.hdPath
  page : s'.page = s.page
  unlockedAccount : s'.unlockedAccount = s.unlockedAccount

/-- Accounts that are found within range are gained as `Gains` says. -/
theorem gains_trackAll {found : List Address}
    (inRange : s.unlockedAccount.toNat + found.length ≤ Keyring.indexLimit) :
    s.Gains found (s.trackAll s.unlockedAccount.toNat found) where
  accounts := s.accounts_trackAll _ found
  details_new a mem unused := by
    let index := s.unlockedAccount.toNat + found.idxOf a
    refine ⟨⟨accountPath s.hdPath index, .ofNat index⟩, ?_, ?_, rfl⟩
    · rw [get?_trackAll, if_pos ⟨mem, unused⟩]
    -- The index is below the limit, so nothing is lost by putting it into a word.
    · have before : found.idxOf a < found.length := List.idxOf_lt_length_of_mem mem
      apply Keyring.toNat_ofNat_of_le_indexLimit
      omega
  details_old a old := by
    rw [get?_trackAll, if_neg]
    rintro ⟨mem, unused⟩
    exact old.elim unused fun absent => absent mem
  place i a there := by
    obtain ⟨before, -⟩ := List.getElem?_eq_some_iff.1 there
    rw [accounts_trackAll, List.getElem?_append_left before]
    exact there
  hdPath := s.hdPath_trackAll _ found
  page := s.page_trackAll _ found
  unlockedAccount := s.unlockedAccount_trackAll _ found

end KeyringState

namespace Keyring

variable {k k' : Keyring σ} {found : List Address} {count : Nat} {w : σ}

/-- If the device gives all the accounts that a call is to add, the call adds those that are not in use
yet, each once and as it was found first, and answers with all accounts that are in use then. -/
theorem addAccounts_gains
    (inRange : k.state.unlockedAccount.toNat + found.length ≤ indexLimit)
    (derived : d.Derives k.state.hdPath k.state.unlockedAccount.toNat k.device found w) :
    ∃ k', k.addAccounts d found.length = (.ok k'.state.accounts, k') ∧
      k'.kind = k.kind ∧ k.state.Gains found k'.state := by
  let final : Keyring σ :=
    { k with state := k.state.trackAll k.state.unlockedAccount.toNat found, device := w }
  have added : k.addAccounts d found.length = (.ok final.state.accounts, final) :=
    addAccounts_of_derives inRange derived
  exact ⟨final, added, rfl, KeyringState.gains_trackAll inRange⟩

/-! ### Calls in parts -/

def atDevice (k : Keyring σ) (v : τ) : Keyring τ :=
  ⟨k.kind, k.state, v⟩

/-- A call to add accounts can be cut in parts and repeated. -/
structure AddsInParts (d : Device σ) (k : Keyring σ) (count : Nat) : Prop where
  /-- If the device refuses an account, the call leaves what a call for the accounts before it leaves. A
  second call, at any device that gives these again and then the others, ends as a call does that is not
  interrupted. -/
  interrupted : ∀ {found : List Address} {v w : σ} {e : DeviceError},
    d.Derives k.state.hdPath k.state.unlockedAccount.toNat k.device found v →
    found.length < count →
    d.address (accountPath k.state.hdPath (k.state.unlockedAccount.toNat + found.length)) v =
      (.error e, w) →
    ∃ part, k.addAccounts d found.length = (.ok part.state.accounts, part) ∧
      k.addAccounts d count = (.error (.device e), { part with device := w }) ∧
      ∀ {τ : Type} (d' : Device τ) (v' w' : τ) (others : List Address),
        d'.Derives k.state.hdPath k.state.unlockedAccount.toNat v' (found ++ others) w' →
        found.length + others.length = count →
        ∃ whole, (k.atDevice v').addAccounts d' count = (.ok whole.state.accounts, whole) ∧
          (part.atDevice v').addAccounts d' count = (.ok whole.state.accounts, whole)
  /-- After a call that has succeeded, a call for no more accounts changes nothing, whether it succeeds or
  the device refuses something, as long as the device gives no other addresses than before. If the
  addresses depend on the path alone, it succeeds. -/
  repeated : ∀ {accounts : List Address} {k' : Keyring σ},
    k.addAccounts d count = (.ok accounts, k') → ∀ again ≤ count,
    (∀ {τ : Type} (d' : Device τ) (v : τ),
      (∀ i < again,
        d'.AgreesWith d (accountPath k.state.hdPath (k.state.unlockedAccount.toNat + i))) →
      ∃ answer v', (k'.atDevice v).addAccounts d' again = (answer, k'.atDevice v') ∧
        (answer = .ok accounts ∨ ∃ e, answer = .error (.device e))) ∧
    (d.AnswersByPath →
      ∃ w, k'.addAccounts d again = (.ok accounts, { k' with device := w }))
  /-- Two calls, with the unlock index moved in between, do what one call for all accounts does. -/
  extended : ∀ more, k.state.unlockedAccount.toNat + (count + more) ≤ indexLimit →
    k.addAccounts d (count + more) =
      match k.addAccounts d count with
      | (.error e, k') => (.error e, k')
      | (.ok _, k') =>
        let next := k'.setAccountToUnlock (.ofNat (k.state.unlockedAccount.toNat + count))
        let (answer, k'') := next.addAccounts d more
        (answer, k''.setAccountToUnlock k.state.unlockedAccount)

/-! ### Why calls can be cut -/

/-- A call that succeeds was given all its accounts. -/
theorem exists_derives_of_addAccounts {accounts : List Address}
    (added : k.addAccounts d count = (.ok accounts, k')) :
    k.state.unlockedAccount.toNat + count ≤ indexLimit ∧
      ∃ found w, found.length = count ∧
        d.Derives k.state.hdPath k.state.unlockedAccount.toNat k.device found w ∧
        accounts = k'.state.accounts ∧
        k' = { k with state := k.state.trackAll k.state.unlockedAccount.toNat found, device := w } := by
  have inRange : k.state.unlockedAccount.toNat + count ≤ indexLimit := by
    apply checkRange_eq_ok_iff.1
    simp only [addAccounts] at added
    split at added
    · cases added
    · assumption
  refine ⟨inRange, ?_⟩
  -- A run that ends with a refusal would not have succeeded.
  obtain ⟨found, v, derived, all | ⟨fewer, e, w, refused⟩⟩ :=
    d.exists_derives k.state.hdPath k.state.unlockedAccount.toNat count k.device
  · subst all
    rw [addAccounts_of_derives inRange derived] at added
    cases added
    exact ⟨found, v, rfl, derived, rfl, rfl⟩
  · rw [addAccounts_of_refused inRange derived fewer refused] at added
    cases added

/-- After some of its accounts have been added, a call ends as it would have ended before. -/
theorem addAccounts_resumed {others : List Address}
    (inRange : k.state.unlockedAccount.toNat + (found ++ others).length ≤ indexLimit)
    (derived : d.Derives k.state.hdPath k.state.unlockedAccount.toNat k.device (found ++ others) w) :
    ({ k with state := k.state.trackAll k.state.unlockedAccount.toNat found } : Keyring σ).addAccounts d
      (found ++ others).length = k.addAccounts d (found ++ others).length := by
  let part : Keyring σ := { k with state := k.state.trackAll k.state.unlockedAccount.toNat found }
  have root : part.state.hdPath = k.state.hdPath := k.state.hdPath_trackAll _ found
  have start : part.state.unlockedAccount = k.state.unlockedAccount :=
    k.state.unlockedAccount_trackAll _ found
  have resumed : part.addAccounts d (found ++ others).length = _ :=
    addAccounts_of_derives (by rwa [start]) (by rwa [root, start])
  -- The accounts of the first part are in use, so they are passed over.
  have again : part.state.trackAll part.state.unlockedAccount.toNat (found ++ others) =
      k.state.trackAll k.state.unlockedAccount.toNat (found ++ others) := by
    rw [start]
    exact k.state.trackAll_trackAll_append _ found others
  rw [again] at resumed
  rw [addAccounts_of_derives inRange derived]
  exact resumed

/-- If all accounts that the device gives are in use, a call changes nothing. -/
theorem addAccounts_of_used (inRange : k.state.unlockedAccount.toNat + count ≤ indexLimit)
    (used : ∀ i < count, ∀ u a,
      (d.address (accountPath k.state.hdPath (k.state.unlockedAccount.toNat + i)) u).1 = .ok a →
      a ∈ k.state.accounts) :
    ∃ found v, d.Derives k.state.hdPath k.state.unlockedAccount.toNat k.device found v ∧
      ((found.length = count ∧
        k.addAccounts d count = (.ok k.state.accounts, { k with device := v })) ∨
      (found.length < count ∧ ∃ e w,
        d.address (accountPath k.state.hdPath (k.state.unlockedAccount.toNat + found.length)) v =
          (.error e, w) ∧
        k.addAccounts d count = (.error (.device e), { k with device := w }))) := by
  obtain ⟨found, v, derived, rest⟩ :=
    d.exists_derives k.state.hdPath k.state.unlockedAccount.toNat count k.device
  have upTo : found.length ≤ count := by
    rcases rest with all | ⟨fewer, -⟩
    · exact Nat.le_of_eq all
    · exact Nat.le_of_lt fewer
  -- Whatever the device gives is in use, so the state does not change.
  have same : k.state.trackAll k.state.unlockedAccount.toNat found = k.state := by
    apply KeyringState.trackAll_of_subset
    intro a mem
    obtain ⟨i, before, there⟩ := List.mem_iff_getElem.1 mem
    obtain ⟨u, answer⟩ := derived.exists_answer (List.getElem?_eq_some_iff.2 ⟨before, there⟩)
    exact used i (Nat.lt_of_lt_of_le before upTo) u a answer
  refine ⟨found, v, derived, ?_⟩
  rcases rest with all | ⟨fewer, e, w, refused⟩
  · subst all
    have added := addAccounts_of_derives inRange derived
    rw [same] at added
    exact .inl ⟨rfl, added⟩
  · have stopped := addAccounts_of_refused inRange derived fewer refused
    rw [same] at stopped
    exact .inr ⟨fewer, e, w, refused, stopped⟩

/-- The unlock index is of no use to the accounts that are added. -/
theorem trackFrom_setAccountToUnlock (d : Device σ) (k : Keyring σ) (start : UInt64)
    (index count : Nat) :
    trackFrom d index count (k.setAccountToUnlock start) =
      ((trackFrom d index count k).1, (trackFrom d index count k).2.setAccountToUnlock start) := by
  induction count generalizing index k with
  | zero => rfl
  | succ count ih =>
    -- The loop is given its index and never looks at the one in the state.
    have asked : (k.setAccountToUnlock start).addressAt d index =
        ((k.addressAt d index).1, (k.addressAt d index).2.setAccountToUnlock start) := by
      simp only [addressAt_eq, setAccountToUnlock]
    rw [trackFrom, trackFrom, asked]
    cases k.addressAt d index with
    | mk answer k' =>
      cases answer with
      | error e => rfl
      | ok a =>
        let details : AccountDetails := ⟨accountPath k'.state.hdPath index, .ofNat index⟩
        have rest := ih { k' with state := k'.state.track a details } (index + 1)
        rw [setAccountToUnlock, ← KeyringState.track_withUnlocked] at rest
        exact rest

/-- Adding accounts leaves the index from which they are added. -/
theorem unlockedAccount_trackFrom (d : Device σ) (index count : Nat) (k : Keyring σ) :
    (trackFrom d index count k).2.state.unlockedAccount = k.state.unlockedAccount := by
  have same := trackFrom_setAccountToUnlock d k k.state.unlockedAccount index count
  have itself : k.setAccountToUnlock k.state.unlockedAccount = k := rfl
  rw [itself] at same
  rw [same]
  rfl

/-- What a call that succeeds was given is in use afterwards. -/
theorem exists_answer_of_addAccounts {accounts : List Address}
    (added : k.addAccounts d count = (.ok accounts, k')) {i : Nat} (before : i < count) :
    ∃ u a,
      (d.address (accountPath k.state.hdPath (k.state.unlockedAccount.toNat + i)) u).1 = .ok a ∧
      a ∈ k'.state.accounts := by
  obtain ⟨-, found, w, rfl, derived, -, rfl⟩ := exists_derives_of_addAccounts added
  obtain ⟨u, answer⟩ := derived.exists_answer (List.getElem?_eq_getElem before)
  exact ⟨u, _, answer, KeyringState.mem_accounts_trackAll.2 (.inr (List.getElem_mem before))⟩

/-- After a call that succeeds, another device with the same accounts has none to add. -/
theorem addAccounts_again {accounts : List Address} {again : Nat}
    (added : k.addAccounts d count = (.ok accounts, k')) (fewer : again ≤ count)
    {d' : Device τ} (v : τ)
    (agrees : ∀ i < again,
      d'.AgreesWith d (accountPath k.state.hdPath (k.state.unlockedAccount.toNat + i))) :
    (∃ w, (k'.atDevice v).addAccounts d' again = (.ok accounts, k'.atDevice w)) ∨
      ∃ i < again, ∃ e u w,
        d'.address (accountPath k.state.hdPath (k.state.unlockedAccount.toNat + i)) u = (.error e, w) ∧
        (k'.atDevice v).addAccounts d' again = (.error (.device e), k'.atDevice w) := by
  have answers {i : Nat} := exists_answer_of_addAccounts (i := i) added
  obtain ⟨inRange, found, w, -, -, rfl, left⟩ := exists_derives_of_addAccounts added
  have root : k'.state.hdPath = k.state.hdPath := by
    rw [left]
    exact k.state.hdPath_trackAll _ found
  have start : k'.state.unlockedAccount = k.state.unlockedAccount := by
    rw [left]
    exact k.state.unlockedAccount_trackAll _ found
  rw [← root, ← start] at agrees answers ⊢
  have inRange' : k'.state.unlockedAccount.toNat + again ≤ indexLimit := by
    rw [start]
    omega
  -- The other device agrees with the first one, which has given this address for this index.
  have used : ∀ i < again, ∀ u a,
      (d'.address (accountPath k'.state.hdPath (k'.state.unlockedAccount.toNat + i)) u).1 = .ok a →
      a ∈ k'.state.accounts := by
    intro i before u a answer
    obtain ⟨u', b, given, mem⟩ := answers (Nat.lt_of_lt_of_le before fewer)
    rw [agrees i before u u' a b answer given]
    exact mem
  obtain ⟨found', v', -, ⟨-, done⟩ | ⟨stopped, e, w', refused, done⟩⟩ :=
    addAccounts_of_used (k := k'.atDevice v) inRange' used
  · exact .inl ⟨v', done⟩
  · exact .inr ⟨found'.length, stopped, e, v', w', refused, done⟩

/-- A call for many accounts is two calls for fewer. -/
theorem addAccounts_add (d : Device σ) (k : Keyring σ) {count more : Nat}
    (inRange : k.state.unlockedAccount.toNat + (count + more) ≤ indexLimit) :
    k.addAccounts d (count + more) =
      match k.addAccounts d count with
      | (.error e, k') => (.error e, k')
      | (.ok _, k') =>
        let next := k'.setAccountToUnlock (.ofNat (k.state.unlockedAccount.toNat + count))
        let (answer, k'') := next.addAccounts d more
        (answer, k''.setAccountToUnlock k.state.unlockedAccount) := by
  have whole := checkRange_eq_ok_iff.2 inRange
  have first : checkRange k.state.unlockedAccount.toNat count = .ok () :=
    checkRange_eq_ok_iff.2 (by omega)
  simp only [addAccounts, whole, first, trackFrom_add]
  cases part : trackFrom d k.state.unlockedAccount.toNat count k with
  | mk answer k' =>
    cases answer with
    | error e => rfl
    | ok _ =>
      have moved : (k'.setAccountToUnlock
          (.ofNat (k.state.unlockedAccount.toNat + count))).state.unlockedAccount.toNat =
            k.state.unlockedAccount.toNat + count := by
        apply toNat_ofNat_of_le_indexLimit
        omega
      have second : checkRange (k.state.unlockedAccount.toNat + count) more = .ok () :=
        checkRange_eq_ok_iff.2 (by omega)
      -- Neither part has changed the unlock index, so moving it back leaves no trace.
      have kept : k'.state.unlockedAccount = k.state.unlockedAccount := by
        have same := unlockedAccount_trackFrom d k.state.unlockedAccount.toNat count k
        rwa [part] at same
      have back := unlockedAccount_trackFrom d (k.state.unlockedAccount.toNat + count) more k'
      rw [kept] at back
      simp only [moved, second, trackFrom_setAccountToUnlock]
      cases rest : trackFrom d (k.state.unlockedAccount.toNat + count) more k' with
      | mk answer k'' =>
        rw [rest] at back
        have restored (start : UInt64) :
            (k''.setAccountToUnlock start).setAccountToUnlock k.state.unlockedAccount = k'' := by
          rw [← back]
          rfl
        cases answer with
        | error e => exact congrArg _ (restored _).symm
        | ok _ => exact congrArg _ (restored _).symm

/-- A call to add accounts that stay below the limit can be cut in parts and repeated: what it leaves when
the device refuses an account is what a shorter call leaves, and a second call does the rest; a call that
was made before has nothing left to do; and two calls in a row do what one call does. -/
theorem addAccounts_in_parts (inRange : k.state.unlockedAccount.toNat + count ≤ indexLimit) :
    k.AddsInParts d count where
  interrupted := by
    intro found v w e derived fewer refused
    let part : Keyring σ :=
      { k with state := k.state.trackAll k.state.unlockedAccount.toNat found, device := v }
    have added : k.addAccounts d found.length = (.ok part.state.accounts, part) :=
      addAccounts_of_derives (by omega) derived
    have stopped := addAccounts_of_refused inRange derived fewer refused
    refine ⟨part, added, stopped, ?_⟩
    intro τ d' v' w' others derived' total
    rw [← List.length_append] at total
    subst total
    let final : Keyring τ :=
      { k.atDevice v' with
        state := k.state.trackAll k.state.unlockedAccount.toNat (found ++ others), device := w' }
    have whole : (k.atDevice v').addAccounts d' (found ++ others).length =
        (.ok final.state.accounts, final) := addAccounts_of_derives inRange derived'
    have resumed := addAccounts_resumed (k := k.atDevice v') inRange derived'
    exact ⟨final, whole, resumed.trans whole⟩
  repeated := by
    intro accounts k' added again fewer
    constructor
    · intro τ d' v agrees
      obtain ⟨w, done⟩ | ⟨_, -, e, _, w, -, done⟩ := addAccounts_again added fewer v agrees
      · exact ⟨_, w, done, .inl rfl⟩
      · exact ⟨_, w, done, .inr ⟨e, rfl⟩⟩
    · intro byPath
      have agrees (path : String) : d.AgreesWith d path := by
        intro v u a b answer given
        rw [byPath path v u, given] at answer
        exact (Except.ok.inj answer).symm
      obtain ⟨w, done⟩ | ⟨i, before, e, v, w, refused, -⟩ :=
        addAccounts_again added fewer k'.device fun i _ => agrees _
      · exact ⟨w, done⟩
      · -- The device has given this account before.
        obtain ⟨u, a, given, -⟩ := exists_answer_of_addAccounts added (Nat.lt_of_lt_of_le before fewer)
        rw [byPath _ u v, refused] at given
        cases given
  extended := by
    intro more inRange'
    exact addAccounts_add d k inRange'

end Keyring

/-! ### Accounts that come twice, and accounts that are refused -/

def echoedAt (index : Nat) : Address :=
  .lastBytes 20 (Hex.utf8 (accountPath bip44Path index).toList)

/-- The device whose third account is refused or is another one; the others are those of the echoing
device. -/
def Device.withThird (third : Except DeviceError Address) : Device Unit where
  isConnected u := (true, u)
  address path u :=
    if path = accountPath bip44Path 2 then (third, u)
    else (.ok (.lastBytes 20 (Hex.utf8 path.toList)), u)
  signTransaction _ _ u := (.error .userRejected, u)
  signMessage _ _ u := (.error .userRejected, u)
  forget u := u

/-- A keyring whose state lists the second account twice and has no details of it. -/
def carelessKeyring : Keyring Unit where
  kind := .trezor
  state := { KeyringState.new bip44Path with accounts := [echoedAt 1, echoedAt 1] }
  device := ()

/-- An address that is given twice is listed once, and one that is listed twice before stays so. -/
theorem addAccounts_gains_twice :
    ∃ k', carelessKeyring.addAccounts (.withThird (.ok (echoedAt 0))) 4 =
        (.ok k'.state.accounts, k') ∧
      carelessKeyring.state.Gains [echoedAt 0, echoedAt 1, echoedAt 0, echoedAt 3] k'.state ∧
      k'.state.accounts = [echoedAt 1, echoedAt 1, echoedAt 0, echoedAt 3] := by
  have derived : (Device.withThird (.ok (echoedAt 0))).Derives bip44Path 0 ()
      [echoedAt 0, echoedAt 1, echoedAt 0, echoedAt 3] () :=
    .cons rfl (.cons rfl (.cons rfl (.cons rfl (.nil _ _))))
  obtain ⟨k', added, -, gains⟩ :=
    Keyring.addAccounts_gains (k := carelessKeyring) (by decide) derived
  refine ⟨k', added, gains, ?_⟩
  rw [gains.accounts]
  decide +kernel

/-- A refusal of the third account, another try with a willing device, and a needless third one. -/
theorem addAccounts_in_parts_third :
    ∃ part whole again,
      (Keyring.new .trezor ()).addAccounts (.withThird (.error .locked)) 3 =
        (.error (.device .locked), part) ∧
      part.addAccounts .echoing 3 = (.ok [echoedAt 0, echoedAt 1, echoedAt 2], whole) ∧
      (Keyring.new .trezor ()).addAccounts .echoing 3 =
        (.ok [echoedAt 0, echoedAt 1, echoedAt 2], whole) ∧
      whole.addAccounts .echoing 2 = (.ok [echoedAt 0, echoedAt 1, echoedAt 2], again) ∧
      again.state = whole.state := by
  have locked : (Keyring.new .trezor ()).AddsInParts (.withThird (.error .locked)) 3 :=
    Keyring.addAccounts_in_parts (by decide)
  have willing : (Keyring.new .trezor ()).AddsInParts .echoing 3 :=
    Keyring.addAccounts_in_parts (by decide)
  have derived : (Device.withThird (.error .locked)).Derives bip44Path 0 ()
      [echoedAt 0, echoedAt 1] () := .cons rfl (.cons rfl (.nil _ _))
  have refused : (Device.withThird (.error .locked)).address (accountPath bip44Path 2) () =
      (.error .locked, ()) := rfl
  obtain ⟨part, -, stopped, resumed⟩ := locked.interrupted derived (by decide) refused
  obtain ⟨whole, uninterrupted, done⟩ := resumed .echoing () () [echoedAt 2]
    (.cons rfl (.cons rfl (.cons rfl (.nil _ _)))) rfl
  obtain ⟨w, again⟩ := (willing.repeated uninterrupted 2 (by decide)).2 fun _ _ _ => rfl
  -- Two of the three accounts were listed by the first try.
  have accounts : whole.state.accounts = [echoedAt 0, echoedAt 1, echoedAt 2] := by
    have same := congrArg (·.2.state.accounts) uninterrupted
    rw [← same]
    decide +kernel
  rw [accounts] at uninterrupted done again
  exact ⟨part, whole, _, stopped, done, uninterrupted, again, rfl⟩

end WalletRelay
