import WalletRelay.Keyring.State
import WalletRelay.Proofs.Except
import WalletRelay.Proofs.Hex

/-!
# Serialized states

A keyring state that is written is read back as it was, whatever is in it: accounts may come twice,
details may be there for other addresses than those of the accounts, and numbers may be as large as
their type allows. The root path stands in the written form, so the default one does not matter.

    ofJson_toJson : KeyringState.ofJson defaultPath s.toJson = .ok s
-/

namespace WalletRelay

/-! ### Addresses and numbers -/

/-- An address is read back from its serialized form. -/
theorem Address.ofText_toText (a : Address) : Address.ofText a.toText = .ok a := by
  have read := Hex.decodeFixed_encodePrefixed a.toList
  rw [a.length_toList] at read
  rw [ofText, toText, read]
  exact dif_pos a.length_toList

/-- Different addresses have different serialized forms. -/
theorem Address.toText_injective {a b : Address} (h : a.toText = b.toText) : a = b := by
  have read := Address.ofText_toText a
  rw [h, Address.ofText_toText b] at read
  cases read
  rfl

namespace Json

theorem addressOfText_toText (a : Address) : addressOfText a.toText = .ok a := by
  rw [addressOfText, Address.ofText_toText]

/-- An address is read back from its serialized form. -/
theorem asAddress_toText (a : Address) : (Json.string a.toText).asAddress = .ok a := by
  rw [asAddress, addressOfText_toText]

/-- A word is read back from its number. -/
theorem asIndex_ofNat (n : UInt64) : (Json.ofNat n.toNat).asIndex = .ok n := by
  have range : (0 : Int) ≤ n.toNat ∧ (n.toNat : Int) < UInt64.size := by
    have := n.toNat_lt_size
    omega
  rw [asIndex, ofNat, asNatBelow, if_pos range]
  simp [Except.map]

/-- A list is read back if each of its items is. -/
theorem asList_map {α : Type} {write : α → Json} {read : Json → Decoded α}
    (item : ∀ x, read (write x) = .ok x) (xs : List α) :
    (Json.array (xs.map write)).asList read = .ok xs := by
  rw [asList, asItems, Except.bind]
  induction xs with
  | nil => rfl
  | cons x xs ih => simp [List.mapM_cons, item x, ih, bind, Except.bind, pure, Except.pure]

end Json

/-! ### Details of the accounts -/

namespace AddressMap

variable {α : Type}

/-- When entries with different addresses are put in one after another, each of them is found. -/
theorem get?_foldl_insert {l : List (Address × α)} (distinct : l.Pairwise fun e f => e.1 ≠ f.1)
    (m : AddressMap α) (a : Address) :
    (l.foldl (fun m e => m.insert e.1 e.2) m).get? a = (find? a l).or (m.get? a) := by
  induction l generalizing m with
  | nil => rfl
  | cons e rest ih =>
    obtain ⟨k, v⟩ := e
    obtain ⟨others, distinct⟩ := List.pairwise_cons.1 distinct
    rw [List.foldl_cons, ih distinct, find?, get?_insert]
    by_cases same : a = k
    · subst same
      -- No later entry takes the place of this one.
      rw [find?_eq_none others, if_pos rfl, if_pos rfl]
      rfl
    · rw [if_neg same, if_neg same]

/-- A map is made of its entries. -/
theorem foldl_insert_entries (m : AddressMap α) :
    m.entries.foldl (fun n e => n.insert e.1 e.2) empty = m := by
  have distinct : m.entries.Pairwise fun e f => e.1 ≠ f.1 := by
    refine m.sorted.imp fun lt same => ?_
    rw [same] at lt
    exact Nat.lt_irrefl _ lt
  apply ext_get?
  intro a
  rw [get?_foldl_insert distinct, get?_empty, Option.or_none, get?]

end AddressMap

namespace AccountDetails

theorem visit_hdPath (draft : Draft) (path : String) :
    draft.visit "hdPath" (.string path) = .ok { draft with hdPath := some path } := rfl

theorem visit_index (draft : Draft) (n : UInt64) :
    draft.visit "index" (.ofNat n.toNat) = .ok { draft with index := some n } := by
  rw [Draft.visit, if_neg (by decide), if_pos rfl, Json.asIndex_ofNat]
  rfl

theorem ofJson_toJson (d : AccountDetails) : ofJson d.toJson = .ok d := by
  have visited : [("hdPath", .string d.hdPath), ("index", Json.ofNat d.index.toNat)].foldlM
      (fun draft f => Draft.visit draft f.1 f.2) ⟨none, none⟩ = .ok ⟨some d.hdPath, some d.index⟩ := by
    simp only [List.foldlM_cons, List.foldlM_nil, visit_hdPath, visit_index, Except.ok_bind, pure,
      Except.pure]
  rw [ofJson, toJson, Json.visitFields, visited]
  rfl

/-- The details of an address are read back into the map. -/
theorem visitEntry_toJson (details : AddressMap AccountDetails) (a : Address) (d : AccountDetails) :
    visitEntry details a.toText d.toJson = .ok (details.insert a d) := by
  rw [visitEntry, Json.addressOfText_toText, ofJson_toJson]
  rfl

/-- The details of all accounts are read back. -/
theorem allOfJson_entries (details : AddressMap AccountDetails) :
    allOfJson (.object (details.entries.map fun e => (e.1.toText, e.2.toJson))) = .ok details := by
  have read (l : List (Address × AccountDetails)) (m : AddressMap AccountDetails) :
      (l.map fun e => (e.1.toText, e.2.toJson)).foldlM (fun m f => visitEntry m f.1 f.2) m =
        .ok (l.foldl (fun m e => m.insert e.1 e.2) m) := by
    induction l generalizing m with
    | nil => rfl
    | cons e rest ih =>
      rw [List.map_cons, List.foldlM_cons, visitEntry_toJson, List.foldl_cons, ← ih]
      rfl
  rw [allOfJson, read, AddressMap.foldl_insert_entries]

end AccountDetails

/-! ### States -/

namespace KeyringState

section Visit

variable (draft : Draft)

theorem visit_hdPath (path : String) :
    draft.visit "hdPath" (.string path) = .ok { draft with hdPath := some path } := rfl

/-- The list of accounts is read back. -/
theorem visit_accounts (accounts : List Address) :
    draft.visit "accounts" (.array (accounts.map fun a => .string a.toText)) =
      .ok { draft with accounts := some accounts } := by
  rw [Draft.visit, if_neg (by decide), if_pos rfl, Json.asList_map Json.asAddress_toText]
  rfl

/-- The details of all accounts are read back. -/
theorem visit_accountDetails (details : AddressMap AccountDetails) :
    draft.visit "accountDetails"
        (.object (details.entries.map fun e => (e.1.toText, e.2.toJson))) =
      .ok { draft with accountDetails := some details } := by
  rw [Draft.visit, if_neg (by decide), if_neg (by decide), if_pos rfl,
    AccountDetails.allOfJson_entries]
  rfl

theorem visit_page (page : UInt64) :
    draft.visit "page" (.ofNat page.toNat) = .ok { draft with page := some page } := by
  rw [Draft.visit, if_neg (by decide), if_neg (by decide), if_neg (by decide), if_pos rfl,
    Json.asIndex_ofNat]
  rfl

theorem visit_unlockedAccount (index : UInt64) :
    draft.visit "unlockedAccount" (.ofNat index.toNat) =
      .ok { draft with unlockedAccount := some index } := by
  rw [Draft.visit, if_neg (by decide), if_neg (by decide), if_neg (by decide), if_neg (by decide),
    if_pos rfl, Json.asIndex_ofNat]
  rfl

end Visit

/-- A state is read back from its serialized form. -/
theorem ofJson_toJson (defaultPath : String) (s : KeyringState) :
    ofJson defaultPath s.toJson = .ok s := by
  have named : withDefaultRoot defaultPath s.toJson = s.toJson := rfl
  have visited : [("accountDetails",
        .object (s.accountDetails.entries.map fun e => (e.1.toText, e.2.toJson))),
      ("accounts", .array (s.accounts.map fun a => .string a.toText)), ("hdPath", .string s.hdPath),
      ("page", Json.ofNat s.page.toNat), ("unlockedAccount", .ofNat s.unlockedAccount.toNat)].foldlM
      (fun draft f => Draft.visit draft f.1 f.2) ⟨none, none, none, none, none⟩ =
      .ok ⟨some s.hdPath, some s.accounts, some s.accountDetails, some s.page,
        some s.unlockedAccount⟩ := by
    simp only [List.foldlM_cons, List.foldlM_nil, visit_hdPath, visit_accounts, visit_accountDetails,
      visit_page, visit_unlockedAccount, Except.ok_bind, pure, Except.pure]
  rw [ofJson, named, toJson, Json.visitFields, visited]
  rfl

end KeyringState
end WalletRelay
