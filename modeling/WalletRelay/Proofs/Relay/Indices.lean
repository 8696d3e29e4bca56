import WalletRelay.Proofs.Keyring.Addition
import WalletRelay.Proofs.Keyring.Range
import WalletRelay.Proofs.Relay.Rejection

/-!
# Indices that a request leads to

Whatever state comes with a request, or is there already, the device is only asked for accounts with indices
below the hardened ones, and for a hundred of them at most. Which requests to add accounts or to turn a page
are rejected because their indices are out of range is settled by the exact numbers. That words of 64 bits
are used for them makes no difference (`indices_within_limits`).

What is said of keyrings in general (`Keyring.invoke_asks`, `Keyring.invoke_of_outOfRange`) holds of a
request if it reaches its keyring (`Reaches`). A request that does not has no part in this: it leaves all
devices as they are (`reaches_or_rejected`).
-/

namespace WalletRelay

variable {σ τ : Type} {ds : ByKind (Device σ)}

/-- A state is taken over in the same way at any device. -/
theorem Keyring.adopt_atDevice (k : Keyring σ) (v : τ) (prevState : Json) :
    (k.atDevice v).adopt prevState = ((k.adopt prevState).1, (k.adopt prevState).2.atDevice v) := by
  unfold adopt restore
  split
  · rfl
  · simp only [atDevice]
    split <;> rfl

namespace Relay

variable {r : Relay σ} {q : CallRequest} {kind : KeyringKind} {start : Keyring σ} {call : Call}

/-- A request becomes a call to a keyring, which has taken over the state that comes with the request. -/
structure Reaches (r : Relay σ) (q : CallRequest) (kind : KeyringKind) (start : Keyring σ) (call : Call) :
    Prop where
  found : Method.resolve q.type q.method = .ok (kind, call.method)
  adopted : (r.keyring kind).adopt q.prevState = (.ok (), start)
  parsed : Call.parse call.method q.args = .ok call

/-! ### The call -/

/-- A request that becomes a call leaves what the call does. -/
theorem Reaches.execute_snd (reaches : r.Reaches q kind start call) :
    (r.execute ds q).2 = r.setKeyring kind (call.invoke (ds.get kind) start).2 := by
  simp only [execute, reaches.found, Keyring.perform, reaches.adopted, reaches.parsed]
  split
  · next h => rw [h]
  · next h => rw [h]

/-- A request that becomes a call fails with the errors of the call. -/
theorem Reaches.failed_iff (reaches : r.Reaches q kind start call) {e : KeyringError} :
    (r.execute ds q).1 = .error (.keyring e) ↔ (call.invoke (ds.get kind) start).1 = .error e := by
  simp only [execute, reaches.found, Keyring.perform, reaches.adopted, reaches.parsed]
  split
  · next h => simp [h]
  · next h => simp [h]

/-- A request that does not become a call is rejected, and no device has a part in it. -/
theorem reaches_or_rejected (r : Relay σ) (q : CallRequest) :
    (∃ kind start call, r.Reaches q kind start call) ∨
      ∀ ds, (r.execute ds q).2.devices = r.devices ∧ ∃ e, (r.execute ds q).1 = .error e := by
  cases found : Method.resolve q.type q.method with
  | error e => exact .inr fun ds => by simp [execute, found]
  | ok target =>
    obtain ⟨kind, method⟩ := target
    -- The three steps before the call do not need the device.
    have kept := Keyring.device_adopt (r.keyring kind) q.prevState
    cases adopted : (r.keyring kind).adopt q.prevState with
    | mk answer start =>
      rw [adopted] at kept
      cases answer with
      | error e =>
        refine .inr fun ds => ⟨?_, .keyring e, ?_⟩
        · simp only [execute, found, Keyring.perform, adopted]
          exact devices_setKeyring kept
        · simp only [execute, found, Keyring.perform, adopted]
      | ok _ =>
        cases parsed : Call.parse method q.args with
        | error e =>
          refine .inr fun ds => ⟨?_, e, ?_⟩
          · simp only [execute, found, Keyring.perform, adopted, parsed]
            exact devices_setKeyring kept
          · simp only [execute, found, Keyring.perform, adopted, parsed]
        | ok call =>
          obtain rfl := Call.method_of_parse parsed
          exact .inl ⟨kind, start, call, found, adopted, parsed⟩

/-! ### Notes -/

/-- The paths whose addresses the device of a kind is asked for while a request is carried out. -/
def pathsAsked (ds : ByKind (Device σ)) (r : Relay σ) (q : CallRequest) (kind : KeyringKind) :
    List String :=
  Device.pathsAsked ((r.recorded.execute (recordingDevices ds) q).2.devices.get kind).2

/-- A keyring at a device of a relay that notes its requests and has none noted yet. -/
abbrev noting (r : Relay σ) (kind : KeyringKind) (k : Keyring σ) : Keyring (σ × List Device.Request) :=
  k.atDevice ((r.keyring kind).device, [])

/-- The relay that notes requests has the keyrings of the relay, with their notes. -/
theorem keyring_recorded (r : Relay σ) (kind : KeyringKind) :
    r.recorded.keyring kind = r.noting kind (r.keyring kind) := by
  unfold noting keyring recorded
  simp only [ByKind.get_ofFn]
  split <;> rfl

/-- A request becomes the same call when requests are noted. -/
theorem Reaches.recorded (reaches : r.Reaches q kind start call) :
    r.recorded.Reaches q kind (r.noting kind start) call where
  found := reaches.found
  adopted := by rw [keyring_recorded, Keyring.adopt_atDevice, reaches.adopted]
  parsed := reaches.parsed

/-- A request that becomes a call while requests are noted does so without the notes. -/
theorem Reaches.of_recorded {start : Keyring (σ × List Device.Request)}
    (reaches : r.recorded.Reaches q kind start call) : ∃ start, r.Reaches q kind start call := by
  have adopted := reaches.adopted
  rw [keyring_recorded, Keyring.adopt_atDevice] at adopted
  obtain ⟨taken, -⟩ := Prod.mk.inj adopted
  exact ⟨_, reaches.found, Prod.ext taken rfl, reaches.parsed⟩

/-- The paths that are asked for are those of the call. -/
theorem Reaches.pathsAsked_eq (reaches : r.Reaches q kind start call) :
    r.pathsAsked ds q kind =
      Device.pathsAsked (call.invoke (ds.get kind).recording (r.noting kind start)).2.device.2 := by
  rw [pathsAsked, reaches.recorded.execute_snd, recordingDevices, ByKind.get_ofFn, setKeyring,
    ByKind.get_set_self]

/-- Noting the requests does not change whether a call fails. -/
theorem Reaches.failed_iff_noting (reaches : r.Reaches q kind start call) {e : KeyringError} :
    (r.execute ds q).1 = .error (.keyring e) ↔
      (call.invoke (ds.get kind).recording (r.noting kind start)).1 = .error e := by
  rw [← execute_recorded, reaches.recorded.failed_iff, recordingDevices, ByKind.get_ofFn]

/-- A request whose indices are within range asks for them in order, up to the first that is refused. -/
theorem Reaches.asks (ds : ByKind (Device σ)) (reaches : r.Reaches q kind start call)
    (inRange : (call.wanted start.state).1 + (call.wanted start.state).2 ≤ Keyring.indexLimit) :
    Keyring.AsksInTurn ((List.range' (call.wanted start.state).1 (call.wanted start.state).2).map
      (accountPath ((r.execute ds q).2.keyring kind).state.hdPath)) []
      (call.invoke (ds.get kind).recording (r.noting kind start)) := by
  have root : ((r.execute ds q).2.keyring kind).state.hdPath =
      call.rootAfter start.kind start.state.hdPath := by
    rw [reaches.execute_snd, keyring_setKeyring]
    exact Keyring.hdPath_invoke (ds.get kind) start call
  rw [root]
  exact Keyring.invoke_asks (k := r.noting kind start) (ds.get kind) inRange

/-- A request whose indices are out of range is rejected, and its device is not asked. -/
theorem Reaches.beyond (ds : ByKind (Device σ)) (reaches : r.Reaches q kind start call)
    (beyond : Keyring.indexLimit < (call.wanted start.state).1 + (call.wanted start.state).2) :
    (r.execute ds q).1 =
      .error (.keyring (.indexOutOfRange (max (call.wanted start.state).1 Keyring.indexLimit))) ∧
    r.pathsAsked ds q kind = [] := by
  have refused : Keyring.checkRange (call.wanted start.state).1 (call.wanted start.state).2 =
      .error (.indexOutOfRange (max (call.wanted start.state).1 Keyring.indexLimit)) :=
    if_neg (Nat.not_le_of_lt beyond)
  have stopped := Keyring.invoke_of_outOfRange (ds.get kind).recording (k := r.noting kind start) refused
  rw [reaches.failed_iff_noting, reaches.pathsAsked_eq, stopped]
  exact ⟨rfl, rfl⟩

/-! ### All requests -/

/-- A request is rejected because its indices are out of range. -/
def RejectsIndex (ds : ByKind (Device σ)) (r : Relay σ) (q : CallRequest) : Prop :=
  ∃ index, (r.execute ds q).1 = .error (.keyring (.indexOutOfRange index))

/-- Whether indices are out of range is settled by the exact numbers. -/
theorem Reaches.rejectsIndex_iff (reaches : r.Reaches q kind start call) :
    r.RejectsIndex ds q ↔
      Keyring.indexLimit < (call.wanted start.state).1 + (call.wanted start.state).2 := by
  constructor
  · rintro ⟨index, rejected⟩
    by_contra within
    -- Within range, it can only be the device that refuses.
    have asks := reaches.asks ds (Nat.le_of_not_lt within)
    exact asks.inRange index (reaches.failed_iff_noting.1 rejected)
  · intro beyond
    exact ⟨_, (reaches.beyond ds beyond).1⟩

/-- Only the device of the keyring that is named is asked. -/
theorem pathsAsked_of_unnamed (unnamed : KeyringKind.ofText? q.type ≠ some kind) :
    r.pathsAsked ds q kind = [] := by
  have agrees := execute_agreesAt_self (recordingDevices ds) r.recorded unnamed
  rw [pathsAsked, agrees.device, recorded, ByKind.get_ofFn]
  rfl

/-- A request that is no call asks for nothing. -/
theorem reaches_or_asks_nothing (ds : ByKind (Device σ)) (r : Relay σ) (q : CallRequest) :
    (∃ kind start call, r.Reaches q kind start call) ∨ ∀ kind, r.pathsAsked ds q kind = [] := by
  obtain ⟨kind, start, call, reaches⟩ | rejected := reaches_or_rejected r.recorded q
  · obtain ⟨start, reaches⟩ := reaches.of_recorded
    exact .inl ⟨kind, start, call, reaches⟩
  · refine .inr fun kind => ?_
    rw [pathsAsked, (rejected (recordingDevices ds)).1, recorded, ByKind.get_ofFn]
    rfl

/-- Nothing that is asked for is within all bounds. -/
theorem bounded_nil (root : String) :
    ([] : List String).length ≤ 100 ∧ ∀ path ∈ ([] : List String),
      ∃ i < 2 ^ 31, path = accountPath root i :=
  ⟨Nat.zero_le _, nofun⟩

/-- A device is asked for a hundred addresses at most, all of them at indices below the limit. -/
theorem Reaches.bounded (ds : ByKind (Device σ)) (reaches : r.Reaches q kind start call) :
    (r.pathsAsked ds q kind).length ≤ 100 ∧ ∀ path ∈ r.pathsAsked ds q kind,
      ∃ i < 2 ^ 31, path = accountPath ((r.execute ds q).2.keyring kind).state.hdPath i := by
  rcases Nat.lt_or_ge Keyring.indexLimit
    ((call.wanted start.state).1 + (call.wanted start.state).2) with beyond | inRange
  · rw [(reaches.beyond ds beyond).2]
    exact bounded_nil _
  · obtain ⟨asked, first, notes, -⟩ := (reaches.asks ds inRange).asked
    have same : r.pathsAsked ds q kind = asked := reaches.pathsAsked_eq.trans notes
    rw [same]
    constructor
    -- The device may refuse before all indices are asked for.
    · have fewer := first.length_le
      rw [List.length_map, List.length_range'] at fewer
      exact Nat.le_trans fewer (Call.wanted_snd_le (Call.isModest_of_parse reaches.parsed))
    · intro path mem
      obtain ⟨i, wanted, rfl⟩ := List.mem_map.1 (first.subset mem)
      exact ⟨i, Nat.lt_of_lt_of_le (List.mem_range'_1.1 wanted).2 inRange, rfl⟩

/-- What can be relied on about the indices of accounts, whatever words a state has for its page and its
unlock index. -/
structure IndicesWithinLimits (ds : ByKind (Device σ)) (r : Relay σ) (q : CallRequest) : Prop where
  /-- All operations on words give words. If the indices are found to be out of range, the request is
  rejected; otherwise the device is asked for their addresses in turn, all of them unless it refuses one. -/
  reckoned : ∀ {kind : KeyringKind} {start : Keyring σ} {call : Call}, r.Reaches q kind start call →
    (∃ e, call.indices? start.state = some (.error e) ∧ (r.execute ds q).1 = .error (.keyring e)) ∨
    ∃ indices, call.indices? start.state = some (.ok indices) ∧
      let paths := indices.map fun i =>
        accountPath ((r.execute ds q).2.keyring kind).state.hdPath i.toNat
      r.pathsAsked ds q kind <+: paths ∧
        (r.pathsAsked ds q kind = paths ∨ ∃ e, (r.execute ds q).1 = .error (.keyring (.device e)))
  /-- A request asks for a hundred addresses at most, all of them below the hardened ones. -/
  bounded : ∀ kind, (r.pathsAsked ds q kind).length ≤ 100 ∧ ∀ path ∈ r.pathsAsked ds q kind,
    ∃ i < 2 ^ 31, path = accountPath ((r.execute ds q).2.keyring kind).state.hdPath i
  /-- Only the device of the keyring that is named is asked. -/
  unnamed : ∀ kind, KeyringKind.ofText? q.type ≠ some kind → r.pathsAsked ds q kind = []
  addAccounts : ∀ {kind : KeyringKind} {start : Keyring σ} {count : Nat},
    r.Reaches q kind start (.addAccounts count) →
    (r.RejectsIndex ds q ↔ (2 : Int) ^ 31 < start.state.unlockedAccount.toNat + count)
  nextPage : ∀ {kind : KeyringKind} {start : Keyring σ},
    r.Reaches q kind start .getNextPage →
    (r.RejectsIndex ds q ↔ (2 : Int) ^ 31 < 5 * max ((start.state.page.toNat : Int) + 1) 1)
  previousPage : ∀ {kind : KeyringKind} {start : Keyring σ},
    r.Reaches q kind start .getPreviousPage →
    (r.RejectsIndex ds q ↔ (2 : Int) ^ 31 < 5 * max ((start.state.page.toNat : Int) - 1) 1)
  /-- Nothing at all is asked of a device before a request is rejected because of its indices. -/
  early : r.RejectsIndex ds q → ∀ kind,
    ((r.recorded.execute (recordingDevices ds) q).2.devices.get kind).2 = []

/-- The indices of every request stay within their limits, whatever the devices do. -/
theorem indices_within_limits (ds : ByKind (Device σ)) (r : Relay σ) (q : CallRequest) :
    r.IndicesWithinLimits ds q where
  reckoned := by
    intro kind start call reaches
    rw [Call.indices?_eq (Call.isModest_of_parse reaches.parsed)]
    rcases Nat.lt_or_ge Keyring.indexLimit
      ((call.wanted start.state).1 + (call.wanted start.state).2) with beyond | inRange
    · left
      rw [Keyring.checkRange, if_neg (Nat.not_le_of_lt beyond)]
      exact ⟨_, rfl, (reaches.beyond ds beyond).1⟩
    · right
      rw [Keyring.checkRange_eq_ok_iff.2 inRange]
      refine ⟨_, rfl, ?_⟩
      obtain ⟨asked, first, notes, rest⟩ := (reaches.asks ds inRange).asked
      have same : r.pathsAsked ds q kind = asked := reaches.pathsAsked_eq.trans notes
      rw [same, Word.map_ofNat_range' _ inRange]
      simp only [reaches.failed_iff_noting]
      exact ⟨first, rest⟩
  bounded := by
    intro kind
    rcases reaches_or_asks_nothing ds r q with ⟨named, start, call, reaches⟩ | nothing
    · by_cases eq : kind = named
      · subst eq
        exact reaches.bounded ds
      -- A request names one keyring only.
      · have unnamed : KeyringKind.ofText? q.type ≠ some kind := by
          intro same
          have found := (Method.resolve_eq_ok_iff.1 reaches.found).1
          exact eq (Option.some.inj (same.symm.trans found))
        rw [pathsAsked_of_unnamed unnamed]
        exact bounded_nil _
    · rw [nothing kind]
      exact bounded_nil _
  unnamed _ := pathsAsked_of_unnamed
  addAccounts := by
    intro kind start count reaches
    rw [reaches.rejectsIndex_iff]
    simp only [Call.wanted, Keyring.indexLimit]
    omega
  nextPage := by
    intro kind start reaches
    rw [reaches.rejectsIndex_iff]
    simp only [Call.wanted, Keyring.indexLimit, Keyring.pageSize, Keyring.maxIndex, UInt64.size]
    omega
  previousPage := by
    intro kind start reaches
    rw [reaches.rejectsIndex_iff]
    simp only [Call.wanted, Keyring.indexLimit, Keyring.pageSize, Keyring.maxIndex, UInt64.size]
    omega
  early := by
    rintro ⟨index, rejected⟩
    -- The error is neither a refusal nor a mismatched signature.
    refine (notes_of_rejection (Prod.ext rejected rfl) ?_ ?_).2
    · intro cause same
      cases same
    · intro a same
      cases same

/-! ### The last page -/

/-- A state in which nothing is set but the page that was shown last. -/
def stateAtPage (page : UInt64) : KeyringState :=
  { KeyringState.new bip44Path with page }

def turnPageAfter (page : UInt64) : CallRequest where
  type := "trezor"
  method := "getNextPage"
  args := []
  prevState := (stateAtPage page).toJson
  promiseId := "a"

/-- Turning the page of such a state is a call. -/
theorem turnPageAfter_reaches (r : Relay σ) (page : UInt64) :
    r.Reaches (turnPageAfter page) .trezor { r.keyring .trezor with state := stateAtPage page }
      .getNextPage where
  found := rfl
  adopted := by
    have given : (turnPageAfter page).prevState ≠ .null := nofun
    have read : KeyringState.ofJson (r.keyring .trezor).kind.defaultPath (turnPageAfter page).prevState =
        .ok (stateAtPage page) := KeyringState.ofJson_toJson _ _
    rw [Keyring.adopt_of_ne_null given, Keyring.restore, read]
  parsed := rfl

/-- The last page whose accounts all have an index, the one after it, and the greatest number of a page. -/
theorem indices_within_limits_lastPage :
    ¬ usedRelay.RejectsIndex (.const .echoing) (turnPageAfter 429496728) ∧
      usedRelay.RejectsIndex (.const .echoing) (turnPageAfter 429496729) ∧
      usedRelay.RejectsIndex (.const .echoing) (turnPageAfter 0xffffffffffffffff) := by
  -- With the exact numbers, every page is a matter of arithmetic.
  have limit (page : UInt64) : usedRelay.RejectsIndex (.const .echoing) (turnPageAfter page) ↔
      (2 : Int) ^ 31 < 5 * max ((page.toNat : Int) + 1) 1 := by
    have reaches := turnPageAfter_reaches usedRelay page
    have rejects := (indices_within_limits (.const .echoing) usedRelay (turnPageAfter page)).nextPage reaches
    exact rejects
  simp [limit]

end Relay
end WalletRelay
