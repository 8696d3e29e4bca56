import WalletRelay.Proofs.Keyring.Codec

/-!
# Serialized states with missing or unknown fields

A caller need not write a whole state. A field that is not there counts as empty, a root path that is not
there as the default one, and a field of another name means nothing, whatever it holds. None of this
depends on the order of the fields.

`KeyringState.IsWrittenBy` says which objects write a state in this way, and `ofJson_of_isWrittenBy` what is
read from them. Taking fields out of a serialized state and putting others in gives such an object, so

    ofJson defaultPath ((s.toJson.withoutFields omitted).withFields extra) =
      .ok (s.resetFields defaultPath omitted)

for all states, and the state itself if nothing is omitted (`ofJson_partial`).
-/

namespace WalletRelay

/-! ### Changing an object -/

namespace Json

def withoutFields (names : List String) : Json → Json
  | .object fields => .object (fields.filter fun f => decide (f.1 ∉ names))
  | j => j

def withFields (extra : List (String × Json)) : Json → Json
  | .object fields => .object (extra.foldl (fun acc f => insertField f.1 f.2 acc) fields)
  | j => j

/-- The fields of an object with one more are this one and the fields before. -/
theorem mem_insertField {name : String} {value : Json} {f : String × Json}
    {fields : List (String × Json)} (h : f ∈ insertField name value fields) :
    f = (name, value) ∨ f ∈ fields := by
  induction fields with
  | nil => simpa [insertField] using h
  | cons g rest ih =>
    obtain ⟨k, v⟩ := g
    rw [insertField] at h
    split at h
    · simpa using h
    · split at h
      · rcases List.mem_cons.1 h with h | h
        · exact .inl h
        · exact .inr (List.mem_cons_of_mem _ h)
      · rcases List.mem_cons.1 h with h | h
        · exact .inr (h ▸ List.mem_cons_self)
        · exact (ih h).imp_right (List.mem_cons_of_mem _)

/-- Putting a field in adds its name and takes none away. -/
theorem mem_names_insertField {name other : String} {value : Json} {fields : List (String × Json)} :
    other ∈ (insertField name value fields).map (·.1) ↔ other = name ∨ other ∈ fields.map (·.1) := by
  induction fields with
  | nil => simp [insertField]
  | cons g rest ih =>
    obtain ⟨k, v⟩ := g
    rw [insertField]
    split
    · simp
    · split
      · next same => simp [same]
      · rw [List.map_cons, List.mem_cons, ih, List.map_cons, List.mem_cons]
        exact or_left_comm

/-- The fields of an object with more of them are these and the fields before. -/
theorem mem_foldl_insertField {f : String × Json} {extra fields : List (String × Json)}
    (h : f ∈ extra.foldl (fun acc f => insertField f.1 f.2 acc) fields) : f ∈ extra ∨ f ∈ fields := by
  induction extra generalizing fields with
  | nil => exact .inr h
  | cons g extra ih =>
    rcases ih h with h | h
    · exact .inl (List.mem_cons_of_mem _ h)
    · rcases mem_insertField h with rfl | h
      · exact .inl List.mem_cons_self
      · exact .inr h

/-- The names in an object with more fields are theirs and the names before. -/
theorem mem_names_foldl_insertField {name : String} {extra fields : List (String × Json)} :
    name ∈ (extra.foldl (fun acc f => insertField f.1 f.2 acc) fields).map (·.1) ↔
      name ∈ extra.map (·.1) ∨ name ∈ fields.map (·.1) := by
  induction extra generalizing fields with
  | nil => simp
  | cons g extra ih =>
    rw [List.foldl_cons, ih, mem_names_insertField, List.map_cons, List.mem_cons, or_assoc,
      or_left_comm]

/-- A field is found exactly if its name is there. -/
theorem isSome_lookup_iff {name : String} {fields : List (String × Json)} :
    (fields.lookup name).isSome = true ↔ name ∈ fields.map (·.1) := by
  induction fields with
  | nil => simp
  | cons f rest ih =>
    obtain ⟨k, v⟩ := f
    rw [List.lookup_cons, List.map_cons, List.mem_cons]
    by_cases same : name = k
    · simp [same]
    · have other : (name == k) = false := by simpa using same
      simp [other, same, ih]

end Json

namespace KeyringState

/-! ### Objects that write a state -/

/-- A state with the default values in some of its fields. -/
def resetFields (s : KeyringState) (defaultPath : String) (omitted : List String) : KeyringState where
  hdPath := if "hdPath" ∈ omitted then defaultPath else s.hdPath
  accounts := if "accounts" ∈ omitted then [] else s.accounts
  accountDetails := if "accountDetails" ∈ omitted then .empty else s.accountDetails
  page := if "page" ∈ omitted then 0 else s.page
  unlockedAccount := if "unlockedAccount" ∈ omitted then 0 else s.unlockedAccount

/-- Of the fields of a state, all but the omitted ones are there, with what is serialized for them. There
may be fields of other names. -/
structure IsWrittenBy (s : KeyringState) (omitted : List String) (fields : List (String × Json)) :
    Prop where
  own : ∀ f ∈ fields, f.1 ∈ fieldNames → s.toJson.field? f.1 = some f.2
  mem_names_iff : ∀ name ∈ fieldNames, name ∈ fields.map (·.1) ↔ name ∉ omitted

/-! ### Reading them -/

/-- A draft with what a state has in some of its fields. -/
def Draft.fill (s : KeyringState) (draft : Draft) (names : List String) : Draft where
  hdPath := if "hdPath" ∈ names then some s.hdPath else draft.hdPath
  accounts := if "accounts" ∈ names then some s.accounts else draft.accounts
  accountDetails := if "accountDetails" ∈ names then some s.accountDetails else draft.accountDetails
  page := if "page" ∈ names then some s.page else draft.page
  unlockedAccount := if "unlockedAccount" ∈ names then some s.unlockedAccount else draft.unlockedAccount

variable {s : KeyringState}

theorem ite_mem_cons {α : Type} {field name : String} {names : List String} {a b : α} :
    (if field ∈ name :: names then a else b) =
      if field ∈ names then a else if field ∈ [name] then a else b := by
  by_cases later : field ∈ names
  · rw [if_pos later, if_pos (List.mem_cons_of_mem name later)]
  · have first : (field ∈ name :: names) = (field ∈ [name]) := by
      rw [List.mem_cons, List.mem_singleton, or_iff_left later]
    simp only [first, if_neg later]

/-- Filling in fields one after another. -/
theorem Draft.fill_cons (draft : Draft) (name : String) (names : List String) :
    draft.fill s (name :: names) = (draft.fill s [name]).fill s names := by
  unfold fill
  congr 1 <;> exact ite_mem_cons

/-- A field is read by itself: what it holds is taken into the draft, and an unknown one is passed over. -/
theorem Draft.visit_eq_fill (draft : Draft) {name : String} {value : Json}
    (own : name ∈ fieldNames → s.toJson.field? name = some value) :
    draft.visit name value = .ok (draft.fill s [name]) := by
  -- Fields of other names are passed over.
  by_cases known : name ∈ fieldNames
  · have value_eq := own known
    simp only [fieldNames, List.mem_cons, List.not_mem_nil, or_false] at known
    rcases known with rfl | rfl | rfl | rfl | rfl
    · obtain rfl : .string s.hdPath = value := Option.some.inj value_eq
      exact visit_hdPath draft s.hdPath
    · obtain rfl := Option.some.inj value_eq
      exact visit_accounts draft s.accounts
    · obtain rfl := Option.some.inj value_eq
      exact visit_accountDetails draft s.accountDetails
    · obtain rfl := Option.some.inj value_eq
      exact visit_page draft s.page
    · obtain rfl := Option.some.inj value_eq
      exact visit_unlockedAccount draft s.unlockedAccount
  · simp only [fieldNames, List.mem_cons, List.not_mem_nil, or_false, not_or] at known
    obtain ⟨hdPath, accounts, accountDetails, page, unlockedAccount⟩ := known
    simp [visit, fill, hdPath, accounts, accountDetails, page, unlockedAccount, Ne.symm hdPath,
      Ne.symm accounts, Ne.symm accountDetails, Ne.symm page, Ne.symm unlockedAccount]

/-- Visiting fields of a state fills in those that are there, in whatever order. -/
theorem Draft.foldlM_visit {fields : List (String × Json)}
    (own : ∀ f ∈ fields, f.1 ∈ fieldNames → s.toJson.field? f.1 = some f.2) (draft : Draft) :
    fields.foldlM (fun draft f => draft.visit f.1 f.2) draft =
      .ok (draft.fill s (fields.map (·.1))) := by
  induction fields generalizing draft with
  | nil => rfl
  | cons f fields ih =>
    have later := ih (fun g mem => own g (List.mem_cons_of_mem _ mem)) (draft.fill s [f.1])
    rw [List.foldlM_cons, draft.visit_eq_fill (own f List.mem_cons_self), Except.ok_bind, later,
      List.map_cons, ← fill_cons]

/-- An object with a root path is read field by field. -/
theorem ofJson_of_root {fields : List (String × Json)} (defaultPath : String)
    (own : ∀ f ∈ fields, f.1 ∈ fieldNames → s.toJson.field? f.1 = some f.2)
    (root : "hdPath" ∈ fields.map (·.1)) :
    ofJson defaultPath (.object fields) = .ok {
      hdPath := s.hdPath
      accounts := if "accounts" ∈ fields.map (·.1) then s.accounts else []
      accountDetails := if "accountDetails" ∈ fields.map (·.1) then s.accountDetails else .empty
      page := if "page" ∈ fields.map (·.1) then s.page else 0
      unlockedAccount := if "unlockedAccount" ∈ fields.map (·.1) then s.unlockedAccount else 0 } := by
  have named : withDefaultRoot defaultPath (.object fields) = .object fields :=
    if_pos (Json.isSome_lookup_iff.2 root)
  rw [ofJson, named, Json.visitFields, Draft.foldlM_visit own]
  simp only [Except.ok_bind, Draft.fill, root, if_true, Json.Fields.require, pure, Except.pure]
  congr 2 <;> exact apply_ite (Option.getD · _) _ _ _

/-- Without a root path, an object is read as if the default one stood in it. -/
theorem ofJson_of_no_root {fields : List (String × Json)} (defaultPath : String)
    (missing : "hdPath" ∉ fields.map (·.1)) :
    ofJson defaultPath (.object fields) =
      ofJson defaultPath (.object (Json.insertField "hdPath" (.string defaultPath) fields)) := by
  have put : withDefaultRoot defaultPath (.object fields) =
      .object (Json.insertField "hdPath" (.string defaultPath) fields) :=
    if_neg (mt Json.isSome_lookup_iff.1 missing)
  have kept : withDefaultRoot defaultPath
        (.object (Json.insertField "hdPath" (.string defaultPath) fields)) =
      .object (Json.insertField "hdPath" (.string defaultPath) fields) :=
    if_pos (by rw [Json.lookup_insertField_self]; rfl)
  rw [ofJson, ofJson, put, kept]

/-- An object that writes a state without some of its fields is read as the state with the default values
there. -/
theorem ofJson_of_isWrittenBy {omitted : List String} {fields : List (String × Json)}
    (h : s.IsWrittenBy omitted fields) (defaultPath : String) :
    ofJson defaultPath (.object fields) = .ok (s.resetFields defaultPath omitted) := by
  have names := h.mem_names_iff
  simp only [fieldNames, List.forall_mem_cons] at names
  obtain ⟨hdPath, accounts, accountDetails, page, unlockedAccount, -⟩ := names
  by_cases root : "hdPath" ∈ omitted
  · have missing : "hdPath" ∉ fields.map (·.1) := fun mem => hdPath.1 mem root
    -- With the default root path put in, the fields are those of a state with this root path.
    have own : ∀ f ∈ Json.insertField "hdPath" (.string defaultPath) fields, f.1 ∈ fieldNames →
        ({ s with hdPath := defaultPath } : KeyringState).toJson.field? f.1 = some f.2 := by
      intro f mem known
      rcases Json.mem_insertField mem with rfl | mem
      · rfl
      · have other : f.1 ≠ "hdPath" := fun same => missing (same ▸ List.mem_map_of_mem mem)
        have same := h.own f mem known
        simp only [toJson, Json.field?, List.lookup_cons] at same ⊢
        grind
    rw [ofJson_of_no_root defaultPath missing,
      ofJson_of_root defaultPath own (Json.mem_names_insertField.2 (.inl rfl))]
    simp [resetFields, Json.mem_names_insertField, root, accounts, accountDetails, page,
      unlockedAccount]
  · rw [ofJson_of_root defaultPath h.own (hdPath.2 root)]
    simp only [resetFields, root, accounts, accountDetails, page, unlockedAccount, ite_not, if_false]

/-! ### Serialized states -/

/-- A serialized state is an object with all fields of a state. -/
theorem exists_fields_toJson (s : KeyringState) :
    ∃ fields, s.toJson = .object fields ∧ (∀ f ∈ fields, s.toJson.field? f.1 = some f.2) ∧
      ∀ name ∈ fieldNames, name ∈ fields.map (·.1) := by
  refine ⟨_, rfl, ?_, ?_⟩
  · simp [toJson, Json.field?, List.lookup_cons]
  · simp [fieldNames]

/-- The serialized state with fields left out and others put in is still written by the state. -/
theorem isWrittenBy_of_toJson (s : KeyringState) (omitted : List String)
    {extra : List (String × Json)} (unknown : ∀ f ∈ extra, f.1 ∉ fieldNames) :
    ∃ fields, (s.toJson.withoutFields omitted).withFields extra = .object fields ∧
      s.IsWrittenBy omitted fields := by
  obtain ⟨fields, written, own, all⟩ := s.exists_fields_toJson
  rw [written]
  refine ⟨_, rfl, ?_, ?_⟩
  · intro f mem known
    rcases Json.mem_foldl_insertField mem with mem | mem
    · exact absurd known (unknown f mem)
    · exact own f (List.mem_filter.1 mem).1
  -- Of the names of a state, those are there that are not left out: the fields put in have other names.
  · intro name known
    rw [Json.mem_names_foldl_insertField]
    constructor
    · rintro (named | named)
      · obtain ⟨f, mem, rfl⟩ := List.mem_map.1 named
        exact absurd known (unknown f mem)
      · obtain ⟨f, mem, rfl⟩ := List.mem_map.1 named
        simpa using (List.mem_filter.1 mem).2
    · intro kept
      obtain ⟨f, mem, rfl⟩ := List.mem_map.1 (all name known)
      exact .inr (List.mem_map_of_mem (List.mem_filter.2 ⟨mem, by simpa using kept⟩))

/-- A serialized state is read back with the default values in the fields that were left out, whatever was
put in under other names, and as it was if nothing was left out. -/
theorem ofJson_partial (s : KeyringState) (defaultPath : String) (omitted : List String)
    {extra : List (String × Json)} (unknown : ∀ f ∈ extra, f.1 ∉ fieldNames) :
    ofJson defaultPath ((s.toJson.withoutFields omitted).withFields extra) =
        .ok (s.resetFields defaultPath omitted) ∧
      ofJson defaultPath (s.toJson.withFields extra) = .ok s := by
  have read (omitted : List String) :
      ofJson defaultPath ((s.toJson.withoutFields omitted).withFields extra) =
        .ok (s.resetFields defaultPath omitted) := by
    obtain ⟨fields, same, written⟩ := s.isWrittenBy_of_toJson omitted unknown
    rw [same]
    exact ofJson_of_isWrittenBy written defaultPath
  refine ⟨read omitted, ?_⟩
  -- Omitting nothing leaves the serialized state as it is.
  exact read []

/-- A state in which an account comes twice and no details are there. -/
def repeatedState : KeyringState :=
  ⟨"m//", [.lastBytes 20 [1], .lastBytes 20 [1]], .empty, 7, .ofNat (UInt64.size - 1)⟩

theorem ofJson_partial_repeatedState :
    let noted := [("label", Json.null), ("label", .string "mine")]
    (repeatedState.toJson.withoutFields ["hdPath", "page"]).withFields noted =
      .object [("accountDetails", .object []),
        ("accounts", .ofTexts (repeatedState.accounts.map (·.toText))), ("label", .string "mine"),
        ("unlockedAccount", .ofNat (UInt64.size - 1))] ∧
    ofJson "m" ((repeatedState.toJson.withoutFields ["hdPath", "page"]).withFields noted) =
      .ok { repeatedState with hdPath := "m", page := 0 } ∧
    ofJson "m" (repeatedState.toJson.withFields noted) = .ok repeatedState := by
  intro noted
  have unknown : ∀ f ∈ noted, f.1 ∉ fieldNames := by decide
  obtain ⟨cut, whole⟩ := repeatedState.ofJson_partial "m" ["hdPath", "page"] unknown
  exact ⟨rfl, cut, whole⟩

end KeyringState
end WalletRelay
