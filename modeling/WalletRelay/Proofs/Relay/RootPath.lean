import WalletRelay.Proofs.Keyring.Root
import WalletRelay.Proofs.Keyring.Tracking
import WalletRelay.Proofs.Relay.Invariants

/-!
# Root paths after a run

The root path of a keyring is the one that was written last by a request in focus: `hdPath_run` says so
for every kind, every run and all devices, with `CallRequest.rootAfter` for what one request writes.

A lattice keyring has no method to set its root path. This does not pin the path, since unlocking takes a
path as well and puts it in place of the root path. If no request hands a state over, the root path of a
lattice keyring stays the one of its kind exactly as long as no request unlocks it under another path
(`lattice_root_after`).
-/

namespace WalletRelay

variable {σ : Type} {ds : ByKind (Device σ)} {kind : KeyringKind}

/-! ### What a request writes -/

namespace CallRequest

/-- The root path with which the call of a request begins, at a keyring whose root path is `root`. There
is no call if the state that comes with the request cannot be read. -/
def rootBefore? (kind : KeyringKind) (root : String) (q : CallRequest) : Option String :=
  if q.prevState.isNull then some root
  else
    match KeyringState.ofJson kind.defaultPath q.prevState with
    | .ok s => some s.hdPath
    | .error _ => none

/-- The root path that a request leaves at the keyring of a kind, whose root path was `root`. -/
def rootAfter (kind : KeyringKind) (root : String) (q : CallRequest) : String :=
  match Method.resolve q.type q.method with
  | .error _ => root
  | .ok (named, method) =>
    if named = kind then
      match q.rootBefore? kind root with
      | none => root
      | some before =>
        match Call.parse method q.args with
        | .error _ => before
        | .ok call => call.rootAfter kind before
    else root

/-- A request asks the keyring of a kind for a call. -/
structure Calls (q : CallRequest) (kind : KeyringKind) (call : Call) : Prop where
  found : Method.resolve q.type q.method = .ok (kind, call.method)
  parsed : Call.parse call.method q.args = .ok call

/-- A request without a state writes the root path that its call writes. -/
theorem rootAfter_of_calls {q : CallRequest} {call : Call} (calls : q.Calls kind call)
    (bare : q.prevState = .null) (root : String) : q.rootAfter kind root = call.rootAfter kind root := by
  have before : q.rootBefore? kind root = some root := by
    rw [rootBefore?, bare]
    rfl
  simp only [rootAfter, calls.found, if_true, before, calls.parsed]

end CallRequest

/-! ### One request -/

namespace Keyring

/-- A call begins at the root path of the state that is given, if it can be read. -/
theorem hdPath_adopt (k : Keyring σ) (q : CallRequest) :
    (∃ e, k.adopt q.prevState = (.error e, k) ∧ q.rootBefore? k.kind k.state.hdPath = none) ∨
      ∃ start, k.adopt q.prevState = (.ok (), start) ∧ start.kind = k.kind ∧
        q.rootBefore? k.kind k.state.hdPath = some start.state.hdPath := by
  unfold adopt CallRequest.rootBefore? restore
  split
  · exact .inr ⟨k, rfl, rfl, rfl⟩
  · cases KeyringState.ofJson k.kind.defaultPath q.prevState with
    | error e => exact .inl ⟨_, rfl, rfl⟩
    | ok s => exact .inr ⟨_, rfl, rfl, rfl⟩

/-- A call leaves the root path that its request writes, also if it fails. -/
theorem hdPath_perform (d : Device σ) (k : Keyring σ) {q : CallRequest} {method : Method}
    (found : Method.resolve q.type q.method = .ok (k.kind, method)) :
    (k.perform d method q.args q.prevState).2.state.hdPath =
      q.rootAfter k.kind k.state.hdPath := by
  obtain ⟨e, adopted, before⟩ | ⟨start, adopted, same, before⟩ := hdPath_adopt k q
  · simp only [perform, CallRequest.rootAfter, found, if_true, adopted, before]
  · simp only [perform, CallRequest.rootAfter, found, if_true, adopted, before]
    cases Call.parse method q.args with
    | error e => rfl
    | ok call =>
      have left := hdPath_invoke d start call
      rw [same] at left
      -- Whether the call succeeds or not, it leaves the keyring that it returns.
      dsimp only
      split
      · next done => rwa [done] at left
      · next done => rwa [done] at left

end Keyring

namespace Relay

/-- A request leaves every keyring with the root path that it writes there. -/
theorem hdPath_execute (ds : ByKind (Device σ)) (r : Relay σ) (q : CallRequest) (kind : KeyringKind) :
    ((r.execute ds q).2.keyring kind).state.hdPath =
      q.rootAfter kind (r.keyring kind).state.hdPath := by
  cases found : Method.resolve q.type q.method with
  | error e => simp only [execute, CallRequest.rootAfter, found]
  | ok target =>
    obtain ⟨named, method⟩ := target
    by_cases same : named = kind
    · subst same
      have found' : Method.resolve q.type q.method = .ok ((r.keyring named).kind, method) := by
        rw [kind_keyring]
        exact found
      -- The request is for this keyring, which is put back as the call leaves it.
      have left := Keyring.hdPath_perform (ds.get named) (r.keyring named) found'
      rw [kind_keyring] at left
      simp only [execute, found, keyring_setKeyring]
      exact left
    · -- The request is for another keyring, and writes nothing here.
      have unnamed : KeyringKind.ofText? q.type ≠ some kind := by
        rw [(Method.resolve_eq_ok_iff.1 found).1]
        exact fun h => same (Option.some.inj h)
      rw [(execute_agreesAt_self ds r unnamed).keyring]
      simp only [CallRequest.rootAfter, found, same, if_false]

/-! ### Runs -/

/-- The root path of a keyring after a run is the one that the requests in focus have written last. -/
theorem hdPath_run (ds : ByKind (Device σ)) (r : Relay σ) (events : List RelayEvent)
    (kind : KeyringKind) :
    ((r.run ds events).2.keyring kind).state.hdPath =
      (RelayEvent.requestsInFocus r.gate.isFocused events).foldl (fun root q => q.rootAfter kind root)
        (r.keyring kind).state.hdPath := by
  induction events generalizing r with
  | nil => rfl
  | cons event events ih =>
    rw [run_cons, ih]
    cases event with
    | focus focused => rfl
    | call q =>
      rw [react, gate_process]
      -- Out of focus, a request is neither carried out nor counted.
      cases focused : r.gate.isFocused with
      | false =>
        rw [process_of_not_focused focused]
        rfl
      | true =>
        rw [process_of_focused focused, hdPath_execute, RelayEvent.requestsInFocus, if_pos rfl,
          List.foldl_cons]

end Relay

/-! ### Lattice keyrings -/

namespace RelayEvent

/-- The later requests are in focus as the earlier events have left it. -/
theorem requestsInFocus_append (focused : Bool) (before after : List RelayEvent) :
    requestsInFocus focused (before ++ after) =
      requestsInFocus focused before ++ requestsInFocus (focusAfter focused before) after := by
  induction before generalizing focused with
  | nil => rfl
  | cons event before ih =>
    cases event with
    | focus f => exact ih f
    | call q =>
      simp only [List.cons_append, requestsInFocus, focusAfter, ih]
      split <;> rfl

/-- A request in focus is one of the events, and the focus is there when it is made. -/
theorem mem_requestsInFocus {focused : Bool} {events : List RelayEvent} {q : CallRequest}
    (mem : q ∈ requestsInFocus focused events) :
    ∃ before after, events = before ++ .call q :: after ∧ focusAfter focused before = true := by
  induction events generalizing focused with
  | nil => cases mem
  | cons event events ih =>
    cases event with
    | focus f =>
      obtain ⟨before, after, rfl, inFocus⟩ := ih mem
      exact ⟨.focus f :: before, after, rfl, inFocus⟩
    | call q' =>
      -- A request that is found among the later events has one event more before it.
      have later (h : q ∈ requestsInFocus focused events) : ∃ before after,
          .call q' :: events = before ++ .call q :: after ∧ focusAfter focused before = true := by
        obtain ⟨before, after, rfl, inFocus⟩ := ih h
        exact ⟨.call q' :: before, after, rfl, inFocus⟩
      rw [requestsInFocus] at mem
      split at mem
      · next here =>
        rcases List.mem_cons.1 mem with rfl | mem
        · exact ⟨[], events, rfl, here⟩
        · exact later mem
      · exact later mem

end RelayEvent

namespace CallRequest

/-- A request hands no state over: it brings none along, and does not ask for one to be read. -/
structure HandsNothingOver (q : CallRequest) : Prop where
  bare : q.prevState = .null
  other : q.method ≠ Method.deserialize.name

/-- A lattice keyring at its own root path leaves it only by being unlocked under another one. -/
theorem rootAfter_lattice {q : CallRequest}
    (plain : KeyringKind.ofText? q.type = some .lattice → q.HandsNothingOver)
    (unlocks : ∀ path, q.Calls .lattice (.unlock (some path)) →
      path = KeyringKind.lattice.defaultPath) :
    q.rootAfter .lattice KeyringKind.lattice.defaultPath = KeyringKind.lattice.defaultPath := by
  unfold rootAfter
  split
  · rfl
  · next named method found =>
    split
    · next same =>
      subst same
      obtain ⟨named, known⟩ := Method.resolve_eq_ok_iff.1 found
      obtain ⟨has, name⟩ := Method.find?_eq_some_iff.1 known
      -- No state comes with the request, so its call begins at the present root path.
      have before : q.rootBefore? .lattice KeyringKind.lattice.defaultPath =
          some KeyringKind.lattice.defaultPath := by
        rw [rootBefore?, (plain named).bare]
        rfl
      simp only [before]
      split
      · rfl
      · next call parsed =>
        obtain rfl := Call.method_of_parse parsed
        -- Of the four calls that write a root path, one is excluded and one is not for a lattice.
        cases call with
        | deserialize serialized => exact absurd name.symm (plain named).other
        | unlock hdPath =>
          cases hdPath with
          | none => rfl
          | some path => exact unlocks path ⟨found, parsed⟩
        | setHdPath path => cases has
        | forgetDevice => rfl
        | _ => rfl
    · rfl

/-- A root path that no request moves stays. -/
theorem foldl_rootAfter_of_keeps {requests : List CallRequest} {root : String}
    (keeps : ∀ q ∈ requests, q.rootAfter kind root = root) :
    requests.foldl (fun root q => q.rootAfter kind root) root = root := by
  induction requests with
  | nil => rfl
  | cons q requests ih =>
    rw [List.foldl_cons, keeps q List.mem_cons_self]
    exact ih fun q mem => keeps q (List.mem_cons_of_mem _ mem)

end CallRequest

namespace Relay

/-- The root path of a new lattice keyring after a run is the one that was written last. If no request
for the keyring hands a state over, it is the root path of its kind after every step exactly if no
request in focus unlocks the keyring under another path. -/
theorem lattice_root_after (ds : ByKind (Device σ)) (devices : ByKind σ) (gate : FocusGate)
    (events : List RelayEvent)
    (plain : ∀ q, .call q ∈ events → KeyringKind.ofText? q.type = some .lattice →
      q.HandsNothingOver) :
    (((new devices gate).run ds events).2.keyring .lattice).state.hdPath =
      (RelayEvent.requestsInFocus gate.isFocused events).foldl
        (fun root q => q.rootAfter .lattice root) KeyringKind.lattice.defaultPath ∧
    ((∀ before after, events = before ++ after →
        (((new devices gate).run ds before).2.keyring .lattice).state.hdPath =
          KeyringKind.lattice.defaultPath) ↔
      ∀ q ∈ RelayEvent.requestsInFocus gate.isFocused events, ∀ path,
        q.Calls .lattice (.unlock (some path)) → path = KeyringKind.lattice.defaultPath) := by
  have written (events : List RelayEvent) :
      (((new devices gate).run ds events).2.keyring .lattice).state.hdPath =
        (RelayEvent.requestsInFocus gate.isFocused events).foldl
          (fun root q => q.rootAfter .lattice root) KeyringKind.lattice.defaultPath := by
    have run := hdPath_run ds (new devices gate) events .lattice
    rw [state_keyring_new] at run
    exact run
  refine ⟨written events, ?_, ?_⟩
  · intro pinned q mem path calls
    obtain ⟨before, after, rfl, inFocus⟩ := RelayEvent.mem_requestsInFocus mem
    have bare := (plain q (by simp) (Method.resolve_eq_ok_iff.1 calls.found).1).bare
    -- Right after the request, the root path is the one that it has written.
    have here := pinned (before ++ [.call q]) after (by simp)
    rw [written, RelayEvent.requestsInFocus_append, inFocus, List.foldl_append] at here
    exact (CallRequest.rootAfter_of_calls calls bare _).symm.trans here
  · rintro unlocks before after rfl
    rw [written]
    rw [RelayEvent.requestsInFocus_append] at unlocks
    apply CallRequest.foldl_rootAfter_of_keeps
    intro q mem
    refine CallRequest.rootAfter_lattice (plain q ?_) (unlocks q (List.mem_append_left _ mem))
    -- The request is made in the run, so it hands no state over.
    obtain ⟨front, rest, rfl, -⟩ := RelayEvent.mem_requestsInFocus mem
    simp

/-! ### Unlocking a lattice keyring -/

def bareRequest (type method : String) (args : List Json) : CallRequest :=
  ⟨type, method, args, .null, "1"⟩

/-- A lattice keyring is used, and unlocked under its own root path; the path of another keyring is set,
and that of the lattice keyring is asked to be. -/
def latticeRun : List RelayEvent :=
  [.call (bareRequest "lattice" "addAccounts" [.ofNat 2]),
    .call (bareRequest "Lattice Hardware" "unlock" [.string bip44Path]),
    .call (bareRequest "trezor" "setHdPath" [.string "m"]),
    .call (bareRequest "lattice" "setHdPath" [.string "m"]),
    .focus false,
    .call (bareRequest "lattice" "unlock" [.string "m"])]

/-- No request in focus unlocks the lattice keyring under another path. -/
theorem lattice_root_after_latticeRun :
    (((new (.const ()) {}).run (.const .echoing) latticeRun).2.keyring .lattice).state.accounts.length =
      2 ∧
    ∀ before after, latticeRun = before ++ after →
      (((new (.const ()) {}).run (.const .echoing) before).2.keyring .lattice).state.hdPath =
        KeyringKind.lattice.defaultPath := by
  refine ⟨by decide +kernel, (lattice_root_after _ (.const ()) {} latticeRun ?_).2.2 ?_⟩
  · intro q mem _
    simp only [latticeRun, List.mem_cons, RelayEvent.call.injEq, reduceCtorEq, List.not_mem_nil,
      or_false, false_or] at mem
    obtain rfl | rfl | rfl | rfl | rfl := mem
    all_goals exact ⟨rfl, by decide⟩
  · intro q mem path calls
    -- The last request is made out of focus; the others are looked at one by one.
    simp only [latticeRun, RelayEvent.requestsInFocus, if_true, Bool.false_eq_true, if_false,
      List.mem_cons, List.not_mem_nil, or_false] at mem
    have found := calls.found
    have parsed := calls.parsed
    obtain rfl | rfl | rfl | rfl := mem
    · cases found
    · cases parsed
      rfl
    · cases found
    · cases found

/-- Unlocking a lattice keyring under another path is resolved, and moves its root path. -/
theorem unlocking_moves_lattice_root :
    let q := bareRequest "lattice" "unlock" [.string "m/44'/60'/0'"]
    q.HandsNothingOver ∧ Method.resolve q.type q.method = .ok (.lattice, .unlock) ∧
    ((new (.const ()) {}).run (.const .echoing) [.call q]).1.map (·.isResolved) = [true] ∧
    (((new (.const ()) {}).run (.const .echoing) [.call q]).2.keyring .lattice).state.hdPath ≠
      KeyringKind.lattice.defaultPath := by
  refine ⟨⟨rfl, by decide⟩, rfl, rfl, ?_⟩
  decide +kernel

end Relay
end WalletRelay
