import Mathlib.Logic.Basic
import WalletRelay.Proofs.Relay.Rejection

/-!
# States that are not objects

A serialized state is meant to be an object. But every record may be written as the list of its fields, and
a state is no exception: `KeyringState.IsListedBy` says which lists are read as which state, and
`ofJson_iff_listsState` that nothing else can stand in place of an object.

So a relay takes over some values that are not objects, whether they come with a request or are the argument
of `deserialize`. It rejects all others as invalid states, and keeps its keyrings as they are
(`foreign_state_rejected_iff_unlisted`).
-/

namespace WalletRelay

namespace Json

def IsObject : Json → Prop
  | .object _ => True
  | _ => False

/-- Read an item that may be missing at the end of a list. -/
def itemOr {α : Type} (decode : Json → Decoded α) (default : α) (item : Option Json) : Decoded α :=
  (item.mapM decode).map (·.getD default)

end Json

/-! ### Lists of fields -/

namespace KeyringState

/-- The items are the fields of a state in their declared order. The last ones may be missing where the
state has the default values, but the root path is there. -/
structure IsListedBy (s : KeyringState) (items : List Json) : Prop where
  length_le : items.length ≤ fieldNames.length
  hdPath : items[0]? = some (.string s.hdPath)
  accounts : Json.itemOr (·.asList Json.asAddress) [] items[1]? = .ok s.accounts
  accountDetails : Json.itemOr AccountDetails.allOfJson .empty items[2]? = .ok s.accountDetails
  page : Json.itemOr Json.asIndex 0 items[3]? = .ok s.page
  unlockedAccount : Json.itemOr Json.asIndex 0 items[4]? = .ok s.unlockedAccount

variable {s : KeyringState} {defaultPath : String} {items : List Json}

/-- Take in the item at the place of a field, if there is one. -/
def Draft.visitItem (draft : Draft) (name : String) : Option Json → Decoded Draft
  | none => .ok draft
  | some j => draft.visit name j

/-- The items meet the names of the fields one by one; where there are no more items, nothing is changed. -/
theorem Draft.visits_cons (draft : Draft) (name : String) (names : List String) (items : List Json) :
    ((name :: names).zip items).foldlM (fun draft f => Draft.visit draft f.1 f.2) draft =
      draft.visitItem name items[0]? >>= fun draft =>
        (names.zip items.tail).foldlM (fun draft f => Draft.visit draft f.1 f.2) draft := by
  cases items with
  | nil =>
    rw [List.zip_nil_right, List.tail_nil, List.zip_nil_right]
    rfl
  | cons j items => rfl

/-- An item is read into a field that nothing has been found for yet. -/
theorem Draft.visitItem_eq_ok_iff {α : Type} {draft draft' : Draft} {name : String}
    {decode : Json → Decoded α} {item : Option Json} (put : Option α → Draft)
    (reads : ∀ j, draft.visit name j = (decode j).map fun v => put (some v))
    (missing : put none = draft) :
    draft.visitItem name item = .ok draft' ↔
      ∃ found, item.mapM decode = .ok found ∧ put found = draft' := by
  cases item with
  | none =>
    constructor
    · intro visited
      cases visited
      exact ⟨none, rfl, missing⟩
    · rintro ⟨found, nothing, rfl⟩
      cases nothing
      exact congrArg Except.ok missing.symm
  | some j =>
    rw [visitItem, reads, Except.map_eq_ok_iff]
    constructor
    · rintro ⟨v, read, rfl⟩
      refine ⟨some v, ?_, rfl⟩
      rw [Option.mapM_some, read]
      rfl
    · rintro ⟨found, read, rfl⟩
      change (decode j).map some = .ok found at read
      obtain ⟨v, decoded, rfl⟩ := Except.map_eq_ok_iff.1 read
      exact ⟨v, decoded, rfl⟩

section Fields

variable {hdPath : Option String} {accounts : Option (List Address)}
  {details : Option (AddressMap AccountDetails)} {page unlocked : Option UInt64} {draft : Draft}
  {item : Option Json}

theorem visitItem_hdPath :
    Draft.visitItem ⟨none, accounts, details, page, unlocked⟩ "hdPath" item = .ok draft ↔
      ∃ found, item.mapM Json.asText = .ok found ∧ ⟨found, accounts, details, page, unlocked⟩ = draft :=
  Draft.visitItem_eq_ok_iff (fun found => ⟨found, accounts, details, page, unlocked⟩) (fun _ => rfl) rfl

theorem visitItem_accounts :
    Draft.visitItem ⟨hdPath, none, details, page, unlocked⟩ "accounts" item = .ok draft ↔
      ∃ found, item.mapM (·.asList Json.asAddress) = .ok found ∧
        ⟨hdPath, found, details, page, unlocked⟩ = draft :=
  Draft.visitItem_eq_ok_iff (fun found => ⟨hdPath, found, details, page, unlocked⟩) (fun _ => rfl) rfl

theorem visitItem_accountDetails :
    Draft.visitItem ⟨hdPath, accounts, none, page, unlocked⟩ "accountDetails" item = .ok draft ↔
      ∃ found, item.mapM AccountDetails.allOfJson = .ok found ∧
        ⟨hdPath, accounts, found, page, unlocked⟩ = draft :=
  Draft.visitItem_eq_ok_iff (fun found => ⟨hdPath, accounts, found, page, unlocked⟩) (fun _ => rfl) rfl

theorem visitItem_page :
    Draft.visitItem ⟨hdPath, accounts, details, none, unlocked⟩ "page" item = .ok draft ↔
      ∃ found, item.mapM Json.asIndex = .ok found ∧
        ⟨hdPath, accounts, details, found, unlocked⟩ = draft :=
  Draft.visitItem_eq_ok_iff (fun found => ⟨hdPath, accounts, details, found, unlocked⟩) (fun _ => rfl) rfl

theorem visitItem_unlockedAccount :
    Draft.visitItem ⟨hdPath, accounts, details, page, none⟩ "unlockedAccount" item = .ok draft ↔
      ∃ found, item.mapM Json.asIndex = .ok found ∧ ⟨hdPath, accounts, details, page, found⟩ = draft :=
  Draft.visitItem_eq_ok_iff (fun found => ⟨hdPath, accounts, details, page, found⟩) (fun _ => rfl) rfl

end Fields

/-- Each field is read from the item at its place. -/
theorem visits_eq_ok_iff {draft : Draft} :
    (fieldNames.zip items).foldlM (fun draft f => Draft.visit draft f.1 f.2)
        (⟨none, none, none, none, none⟩ : Draft) = .ok draft ↔
      items[0]?.mapM Json.asText = .ok draft.hdPath ∧
      items[1]?.mapM (·.asList Json.asAddress) = .ok draft.accounts ∧
      items[2]?.mapM AccountDetails.allOfJson = .ok draft.accountDetails ∧
      items[3]?.mapM Json.asIndex = .ok draft.page ∧
      items[4]?.mapM Json.asIndex = .ok draft.unlockedAccount := by
  simp only [fieldNames, Draft.visits_cons, Except.bind_eq_ok_iff, List.getElem?_tail, List.zip_nil_left,
    List.foldlM_nil, visitItem_hdPath, visitItem_accounts, visitItem_accountDetails, visitItem_page,
    visitItem_unlockedAccount, exists_exists_and_eq_and, pure, Except.pure, Except.ok.injEq]
  -- Each step fixes one field of the draft, and the last draft is all of them.
  constructor
  · rintro ⟨_, hdPath, _, accounts, _, details, _, page, _, unlocked, rfl⟩
    exact ⟨hdPath, accounts, details, page, unlocked⟩
  · rintro ⟨hdPath, accounts, details, page, unlocked⟩
    exact ⟨_, hdPath, _, accounts, _, details, _, page, _, unlocked, rfl⟩

/-- A list is read if its items are, they are not more than there are fields, and the root path is there. -/
theorem ofJson_array_iff_visits :
    ofJson defaultPath (.array items) = .ok s ↔
      ∃ draft : Draft,
        (fieldNames.zip items).foldlM (fun draft f => Draft.visit draft f.1 f.2)
          (⟨none, none, none, none, none⟩ : Draft) = .ok draft ∧
        items.length ≤ fieldNames.length ∧ draft.hdPath = some s.hdPath ∧
        draft.accounts.getD [] = s.accounts ∧ draft.accountDetails.getD .empty = s.accountDetails ∧
        draft.page.getD 0 = s.page ∧ draft.unlockedAccount.getD 0 = s.unlockedAccount := by
  have kept : withDefaultRoot defaultPath (.array items) = .array items := rfl
  rw [ofJson, kept, Json.visitFields]
  cases visited : (fieldNames.zip items).foldlM (fun draft f => Draft.visit draft f.1 f.2)
      (⟨none, none, none, none, none⟩ : Draft) with
  | error e => simp [bind, Except.bind]
  | ok draft =>
    -- Of the values that are left out, only the root path has no default.
    by_cases long : fieldNames.length < items.length
    · simp [long, Nat.not_le.2 long, bind, Except.bind]
    · obtain ⟨root, accounts, accountDetails, page, unlockedAccount⟩ := s
      simp only [long, if_false, Except.ok_bind, Except.ok.injEq, exists_eq_left', Nat.not_lt.1 long,
        true_and]
      cases draft.hdPath with
      | none => simp [Json.Fields.require, bind, Except.bind]
      | some path => simp [Json.Fields.require, Except.ok_bind, pure, Except.pure]

/-- A root path that is found is a text. -/
theorem mapM_asText_eq_some_iff {item : Option Json} {path : String} :
    item.mapM Json.asText = .ok (some path) ↔ item = some (.string path) := by
  cases item with
  | none => constructor <;> nofun
  | some j =>
    show (j.asText).map some = .ok (some path) ↔ _
    rw [Except.map_eq_ok_iff]
    constructor
    · rintro ⟨v, read, same⟩
      cases same
      rw [Call.asText_eq_ok_iff.1 read]
    · intro same
      cases same
      exact ⟨path, rfl, rfl⟩

/-- A list is read as the state whose fields it lists, whatever the default path. -/
theorem ofJson_array_iff : ofJson defaultPath (.array items) = .ok s ↔ s.IsListedBy items := by
  rw [ofJson_array_iff_visits]
  constructor
  · rintro ⟨draft, visited, length, root, accounts, details, page, unlocked⟩
    obtain ⟨root', accounts', details', page', unlocked'⟩ := visits_eq_ok_iff.1 visited
    -- The root path is required, so it was found among the items.
    rw [root] at root'
    exact ⟨length, mapM_asText_eq_some_iff.1 root', Except.map_eq_ok_iff.2 ⟨_, accounts', accounts⟩,
      Except.map_eq_ok_iff.2 ⟨_, details', details⟩, Except.map_eq_ok_iff.2 ⟨_, page', page⟩,
      Except.map_eq_ok_iff.2 ⟨_, unlocked', unlocked⟩⟩
  · intro listed
    obtain ⟨_, accounts, accounts'⟩ := Except.map_eq_ok_iff.1 listed.accounts
    obtain ⟨_, details, details'⟩ := Except.map_eq_ok_iff.1 listed.accountDetails
    obtain ⟨_, page, page'⟩ := Except.map_eq_ok_iff.1 listed.page
    obtain ⟨_, unlocked, unlocked'⟩ := Except.map_eq_ok_iff.1 listed.unlockedAccount
    have root := mapM_asText_eq_some_iff.2 listed.hdPath
    exact ⟨⟨_, _, _, _, _⟩, visits_eq_ok_iff.2 ⟨root, accounts, details, page, unlocked⟩,
      listed.length_le, rfl, accounts', details', page', unlocked'⟩

end KeyringState

/-- A value lists the fields of a state. -/
def Json.ListsState (v : Json) (s : KeyringState) : Prop :=
  ∃ items, v = .array items ∧ s.IsListedBy items

namespace KeyringState

variable {v : Json}

/-- Of the values that are not objects, those are read as states that list the fields of one. -/
theorem ofJson_iff_listsState {s : KeyringState} {defaultPath : String} (foreign : ¬ v.IsObject) :
    ofJson defaultPath v = .ok s ↔ v.ListsState s := by
  cases v with
  | object fields => exact absurd trivial foreign
  | array items =>
    constructor
    · intro read
      exact ⟨items, rfl, ofJson_array_iff.1 read⟩
    · rintro ⟨_, same, listed⟩
      cases same
      exact ofJson_array_iff.2 listed
  -- Nothing else is read into fields at all.
  | null | bool | number | string =>
    constructor
    · intro read
      cases read
    · rintro ⟨_, same, -⟩
      cases same

/-- A value that is neither an object nor such a list is not read at all. -/
theorem exists_ofJson_eq_error (foreign : ¬ v.IsObject) (unlisted : ∀ s, ¬ v.ListsState s)
    (defaultPath : String) : ∃ cause, ofJson defaultPath v = .error cause := by
  cases read : ofJson defaultPath v with
  | error cause => exact ⟨cause, rfl⟩
  | ok s => exact absurd ((ofJson_iff_listsState foreign).1 read) (unlisted s)

end KeyringState

/-! ### Requests that hand such a value over -/

namespace Relay

variable {σ : Type} {ds : ByKind (Device σ)} {r : Relay σ} {q : CallRequest} {kind : KeyringKind}
  {method : Method} {start : Keyring σ} {v : Json} {s : KeyringState} {cause : DecodeError}

/-- A request is rejected for an invalid state, with `left` as the state of its keyring, and touches no
other keyring. -/
def RejectsState (ds : ByKind (Device σ)) (r : Relay σ) (q : CallRequest) (kind : KeyringKind)
    (left : KeyringState) : Prop :=
  ∃ cause r', r.execute ds q = (.error (.keyring (.invalidState cause)), r') ∧
    r.process ds q =
      (some (.reject q.promiseId ("Invalid keyring state: " ++ cause.message)), r') ∧
    (r'.keyring kind).state = left ∧ ∀ other, other ≠ kind → r'.AgreesAt other r

/-- What is rejected in focus for an invalid state is rejected with the text of the decoder. -/
theorem RejectsState.of_execute (focused : r.gate.isFocused = true) {k : Keyring σ}
    (rejected : r.execute ds q = (.error (.keyring (.invalidState cause)), r.setKeyring kind k)) :
    r.RejectsState ds q kind k.state := by
  refine ⟨cause, _, rejected, ?_, ?_, ?_⟩
  · rw [process_of_focused focused, rejected, outcomeOf, RelayError.reason_failure]
    rfl
  · rw [keyring_setKeyring]
  · intro other ne
    exact setKeyring_agreesAt_of_ne ne r k

section Brought

variable (found : Method.resolve q.type q.method = .ok (kind, method)) (given : q.prevState ≠ .null)

include found given

/-- A state that comes with a request is taken over if it can be read. -/
theorem takesOver_of_prevState (read : KeyringState.ofJson kind.defaultPath q.prevState = .ok s) :
    r.TakesOver q kind { r.keyring kind with state := s } := by
  rw [← kind_keyring r kind] at read
  refine ⟨⟨method, found⟩, ?_⟩
  rw [Keyring.adopt_of_ne_null given, Keyring.restore, read]

/-- If it cannot, the keyring keeps the state that it has. -/
theorem rejectsState_of_prevState (focused : r.gate.isFocused = true)
    (unread : KeyringState.ofJson kind.defaultPath q.prevState = .error cause) :
    r.RejectsState ds q kind (r.keyring kind).state := by
  rw [← kind_keyring r kind] at unread
  have performed : (r.keyring kind).perform (ds.get kind) method q.args q.prevState =
      (.error (.keyring (.invalidState cause)), r.keyring kind) :=
    Keyring.perform_of_unreadable given unread
  have rejected : r.execute ds q =
      (.error (.keyring (.invalidState cause)), r.setKeyring kind (r.keyring kind)) := by
    simp only [execute, found, performed]
  exact .of_execute focused rejected

end Brought

section Asked

variable (found : Method.resolve q.type q.method = .ok (kind, .deserialize))
  (adopted : (r.keyring kind).adopt q.prevState = (.ok (), start))
  (present : q.args[0]? = some v) (given : v ≠ .null)

include found adopted present given

/-- A request to read a state answers as reading it does. -/
theorem execute_of_argument (ds : ByKind (Device σ)) :
    r.execute ds q =
      match start.restore v with
      | (.error e, k) => (.error (.keyring e), r.setKeyring kind k)
      | (.ok (), k) => (.ok (k.state, .null), r.setKeyring kind k) := by
  have required : Call.required q.args .ok 0 = .ok v :=
    Call.required_eq_ok_iff.2 ⟨v, present, given, rfl⟩
  have parsed : Call.parse .deserialize q.args = .ok (.deserialize v) := by
    rw [Call.parse, required]
    rfl
  simp only [execute, found, Keyring.perform, adopted, parsed, Call.invoke, Call.respond]
  obtain ⟨answer, k⟩ := start.restore v
  cases answer <;> rfl

/-- A state that is the argument of such a request is taken over if it can be read. -/
theorem execute_of_readable_argument (ds : ByKind (Device σ))
    (read : KeyringState.ofJson start.kind.defaultPath v = .ok s) :
    r.execute ds q = (.ok (s, .null), r.setKeyring kind { start with state := s }) := by
  rw [execute_of_argument found adopted present given, Keyring.restore, read]

/-- If it cannot, the keyring has the state in which the call began. -/
theorem rejectsState_of_argument (focused : r.gate.isFocused = true)
    (unread : KeyringState.ofJson start.kind.defaultPath v = .error cause) :
    r.RejectsState ds q kind start.state := by
  have rejected : r.execute ds q =
      (.error (.keyring (.invalidState cause)), r.setKeyring kind start) := by
    rw [execute_of_argument found adopted present given, Keyring.restore, unread]
  exact .of_execute focused rejected

end Asked

/-- A value that is not an object is read as a state exactly if it lists the fields of one, under every
default path. When it comes with a request in focus, or is the argument of a call to read it, it is then taken
over; if it lists nothing, the request is rejected for an invalid state, and the state of the keyring is the
one that it had, or that came with the request. -/
theorem foreign_state_rejected_iff_unlisted (v : Json) (foreign : ¬ v.IsObject) :
    (∀ defaultPath s, KeyringState.ofJson defaultPath v = .ok s ↔ v.ListsState s) ∧
    ∀ (ds : ByKind (Device σ)) (r : Relay σ) (q : CallRequest) (kind : KeyringKind) (method : Method),
      r.gate.isFocused = true → Method.resolve q.type q.method = .ok (kind, method) → v ≠ .null →
      (q.prevState = v →
        (∀ s, v.ListsState s → r.TakesOver q kind { r.keyring kind with state := s }) ∧
        ((∀ s, ¬ v.ListsState s) → r.RejectsState ds q kind (r.keyring kind).state)) ∧
      ∀ start, method = .deserialize → q.args[0]? = some v →
        (r.keyring kind).adopt q.prevState = (.ok (), start) →
        (∀ s, v.ListsState s →
          r.execute ds q = (.ok (s, .null), r.setKeyring kind { start with state := s })) ∧
        ((∀ s, ¬ v.ListsState s) → r.RejectsState ds q kind start.state) := by
  refine ⟨fun _ _ => KeyringState.ofJson_iff_listsState foreign, ?_⟩
  intro ds r q kind method focused found given
  -- Both ways lead to the same decoder, and it does not look at the default path.
  have read {s : KeyringState} (listed : v.ListsState s) (defaultPath : String) :
      KeyringState.ofJson defaultPath v = .ok s := (KeyringState.ofJson_iff_listsState foreign).2 listed
  constructor
  · rintro rfl
    constructor
    · intro s listed
      exact takesOver_of_prevState found given (read listed _)
    · intro unlisted
      obtain ⟨cause, unread⟩ := KeyringState.exists_ofJson_eq_error foreign unlisted kind.defaultPath
      exact rejectsState_of_prevState found given focused unread
  · rintro start rfl present adopted
    constructor
    · intro s listed
      exact execute_of_readable_argument found adopted present given ds (read listed _)
    · intro unlisted
      obtain ⟨cause, unread⟩ :=
        KeyringState.exists_ofJson_eq_error foreign unlisted start.kind.defaultPath
      exact rejectsState_of_argument found adopted present given focused unread

def numbersAsState : Json :=
  .array [.ofNat 1, .ofNat 2]

/-- The first item would have to be a text. -/
theorem foreign_state_rejected_iff_unlisted_numbers :
    ¬ numbersAsState.IsObject ∧
    usedRelay.RejectsState (.const .echoing) ⟨"trezor", "getAccounts", [], numbersAsState, "a"⟩ .trezor
      (usedRelay.keyring .trezor).state ∧
    usedRelay.RejectsState (.const .echoing) ⟨"trezor", "deserialize", [numbersAsState], .null, "b"⟩
      .trezor (usedRelay.keyring .trezor).state := by
  have foreign : ¬ numbersAsState.IsObject := id
  have unlisted (s : KeyringState) : ¬ numbersAsState.ListsState s := by
    rintro ⟨_, same, listed⟩
    cases same
    cases listed.hdPath
  have onRelay := (foreign_state_rejected_iff_unlisted numbersAsState foreign).2 (.const .echoing)
    usedRelay
  refine ⟨foreign, ?_, ?_⟩
  · exact ((onRelay _ .trezor .getAccounts rfl rfl nofun).1 rfl).2 unlisted
  · exact ((onRelay _ .trezor .deserialize rfl rfl nofun).2 _ rfl rfl rfl).2 unlisted

/-- The list of a root path alone is read as a state, and a relay takes it over in both ways. -/
theorem exists_foreign_state :
    let v := Json.array [.string "m"]
    ¬ v.IsObject ∧ KeyringState.ofJson bip44Path v = .ok (.new "m") ∧
    ((usedRelay.process (.const .echoing) ⟨"trezor", "getAccounts", [], v, "a"⟩).1.map
      (·.isResolved)) = some true ∧
    ((usedRelay.process (.const .echoing) ⟨"trezor", "deserialize", [v], .null, "b"⟩).1.map
      (·.isResolved)) = some true ∧
    ((usedRelay.process (.const .echoing) ⟨"trezor", "deserialize", [v], .null, "b"⟩).2.keyring
      .trezor).state = .new "m" := by
  intro v
  exact ⟨id, rfl, rfl, rfl, rfl⟩

end Relay
end WalletRelay
