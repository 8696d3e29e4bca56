import WalletRelay.Proofs.Keyring.Agreement
import WalletRelay.Proofs.Keyring.Tracking
import WalletRelay.Proofs.Relay.Invariants

/-!
# Known accounts

Three kinds of requests tell whether a keyring knows an account: `getAccounts` lists it, `removeAccount`
does not disown it, and neither does signing. The first two look into the list of accounts (`lists_iff`,
`disowns_removal_iff`), signing into their details (`disowns_signing_iff`). So they are of one opinion
exactly if every keyring has details for the accounts in its list and for no others (`oneNotion_iff`).

No operation of a keyring brings the list and the details apart. But a serialized state is taken over as
it is. After a run, the three are therefore of one opinion if list and details agree in the states that
were handed over (`known_accounts`), and need not be otherwise (`not_oneNotion_of_stray`).
-/

namespace WalletRelay

variable {σ : Type} {ds : ByKind (Device σ)} {kind : KeyringKind} {a : Address}

/-! ### States that are handed over -/

/-- The states that a request hands over: the one that comes with it, and the one that `deserialize`
has as its argument. -/
inductive CallRequest.HandsOver (q : CallRequest) : KeyringState → Prop
  | before {kind : KeyringKind} {s : KeyringState} :
      KeyringKind.ofText? q.type = some kind →
      q.prevState ≠ .null →
      KeyringState.ofJson kind.defaultPath q.prevState = .ok s →
      HandsOver q s
  | argument {kind : KeyringKind} {serialized : Json} {s : KeyringState} :
      KeyringKind.ofText? q.type = some kind →
      q.method = "deserialize" →
      q.args[0]? = some serialized →
      KeyringState.ofJson kind.defaultPath serialized = .ok s →
      HandsOver q s

/-- The state that is read is the first argument. -/
theorem Call.of_parse_deserialize {args : List Json} {serialized : Json}
    (h : parse .deserialize args = .ok (.deserialize serialized)) : args[0]? = some serialized := by
  obtain ⟨j, found, same⟩ := Except.map_eq_ok_iff.1 (Except.mapError_eq_ok_iff.1 h)
  cases same
  obtain ⟨j, present, -, read⟩ := required_eq_ok_iff.1 found
  cases read
  exact present

/-- List and details do not come apart by a request, unless it hands over a state in which they are. -/
theorem CallRequest.keeps_agrees {q : CallRequest} (handed : ∀ s, q.HandsOver s → s.Agrees) :
    q.Keeps ds fun _ s => s.Agrees where
  adopted named given read := handed _ (.before named given read)
  called {kind method call s s'} named known parsed step agrees := by
    -- Of all the calls, only `deserialize` takes a state from its arguments.
    refine agrees.change ?_ step
    rintro serialized rfl start read
    obtain rfl := Call.method_of_parse parsed
    have name := (Method.find?_eq_some_iff.1 known).2
    exact handed start (.argument named name.symm (Call.of_parse_deserialize parsed) read)

/-! ### Requests for an account -/

/-- A request asks a keyring for a call, and for the present state: it brings none along. -/
structure CallRequest.AsksFor (q : CallRequest) (kind : KeyringKind) (call : Call) : Prop where
  named : KeyringKind.ofText? q.type = some kind
  known : Method.find? kind q.method = some call.method
  parsed : Call.parse call.method q.args = .ok call
  bare : q.prevState = .null

inductive Call.SignsFor (a : Address) : Call → Prop
  | transaction (tx : UnsignedTransaction) : SignsFor a (.signTransaction a tx)
  | message (message : List UInt8) : SignsFor a (.signPersonalMessage a message)

namespace Relay

/-- The answer to a request is a list in which an account stands. -/
def Lists (ds : ByKind (Device σ)) (r : Relay σ) (q : CallRequest) (a : Address) : Prop :=
  ∃ s items, (r.execute ds q).1 = .ok (s, .array items) ∧ .string a.toText ∈ items

/-- A request is rejected because the keyring does not know an account. -/
def Disowns (ds : ByKind (Device σ)) (r : Relay σ) (q : CallRequest) (a : Address) : Prop :=
  (r.execute ds q).1 = .error (.keyring (.unknownAddress a))

/-- The accounts that a keyring lists are the ones that it can remove, and the ones that it can sign
for as far as the account is concerned. -/
def OneNotion (ds : ByKind (Device σ)) (r : Relay σ) : Prop :=
  ∀ kind a call listing removal signing,
    CallRequest.AsksFor listing kind .getAccounts → CallRequest.AsksFor removal kind (.removeAccount a) →
    Call.SignsFor a call → CallRequest.AsksFor signing kind call →
    (r.Lists ds listing a ↔ ¬ r.Disowns ds removal a) ∧
    (r.Lists ds listing a ↔ ¬ r.Disowns ds signing a)

variable {r : Relay σ} {q : CallRequest} {call : Call}

/-- A request for a call at the present state has the answer of the call. -/
theorem execute_fst_of_asksFor (asked : q.AsksFor kind call) :
    (r.execute ds q).1 =
      ((call.invoke (ds.get kind) (r.keyring kind)).1.map fun response =>
        ((call.invoke (ds.get kind) (r.keyring kind)).2.state, response)).mapError .keyring := by
  have kept : (r.keyring kind).adopt q.prevState = (.ok (), r.keyring kind) := by
    rw [asked.bare]
    rfl
  -- No state comes with the request, and its keyring and method are known.
  have performed : (r.execute ds q).1 =
      ((r.keyring kind).perform (ds.get kind) call.method q.args q.prevState).1 := by
    rw [execute, Method.resolve_eq_ok_iff.2 ⟨asked.named, asked.known⟩]
  rw [performed, Keyring.perform, kept, asked.parsed]
  dsimp only
  split
  · next h => rw [h]; rfl
  · next h => rw [h]; rfl

/-- The accounts in the list are those in use. -/
theorem lists_iff (asked : q.AsksFor kind .getAccounts) :
    r.Lists ds q a ↔ a ∈ (r.keyring kind).state.accounts := by
  rw [Lists, execute_fst_of_asksFor asked]
  constructor
  · rintro ⟨s, items, answer, mem⟩
    cases answer
    obtain ⟨b, used, same⟩ := List.mem_map.1 mem
    rwa [← Address.toText_injective (Json.string.inj same)]
  · intro used
    exact ⟨_, _, rfl, List.mem_map.2 ⟨a, used, rfl⟩⟩

/-- An account is disowned exactly if the call does not know it. -/
theorem disowns_iff (asked : q.AsksFor kind call) :
    r.Disowns ds q a ↔
      (call.invoke (ds.get kind) (r.keyring kind)).1 = .error (.unknownAddress a) := by
  rw [Disowns, execute_fst_of_asksFor asked, Except.mapError_eq_error_iff]
  constructor
  · rintro ⟨e, failed, same⟩
    cases same
    exact Except.map_eq_error_iff.1 failed
  · intro failed
    exact ⟨_, Except.map_eq_error_iff.2 failed, rfl⟩

/-- An account can be removed exactly if it is in the list. -/
theorem disowns_removal_iff (asked : q.AsksFor kind (.removeAccount a)) :
    r.Disowns ds q a ↔ a ∉ (r.keyring kind).state.accounts := by
  rw [disowns_iff asked, ← KeyringState.contains_iff, Call.invoke, Keyring.removeAccount]
  split
  · next here =>
    constructor
    · intro same
      cases same
    · intro unused
      exact absurd here unused
  · next unused => exact ⟨fun _ => unused, fun _ => rfl⟩

/-- Whatever the device answers, the account is disowned only if there are no details of it. -/
theorem signWith_eq_unknownAddress_iff {ask : String → σ → Except DeviceError Signature × σ}
    {hash : Hash32} {k : Keyring σ} :
    (k.signWith ask hash a).1 = .error (.unknownAddress a) ↔
      k.state.accountDetails.get? a = none := by
  have path : k.state.pathOf? a = none ↔ k.state.accountDetails.get? a = none := by
    simp [KeyringState.pathOf?]
  rw [← path, Keyring.signWith]
  split
  · next unknown => exact ⟨fun _ => unknown, fun _ => rfl⟩
  · next path known =>
    rw [known]
    refine ⟨?_, nofun⟩
    -- The device may refuse, and its signature may be another account's; both have their own errors.
    split
    · exact nofun
    · unfold Keyring.checkSigner
      split <;> exact nofun

/-- An account can be signed for exactly if there are details of it. -/
theorem disowns_signing_iff (signs : call.SignsFor a) (asked : q.AsksFor kind call) :
    r.Disowns ds q a ↔ (r.keyring kind).state.accountDetails.get? a = none := by
  rw [disowns_iff asked]
  -- Both calls look the account up before they ask the device, in the same way.
  cases signs with
  | transaction tx =>
    simp only [Call.invoke, Call.respond, Keyring.signTransaction, Except.map_eq_error_iff]
    exact signWith_eq_unknownAddress_iff
  | message message =>
    simp only [Call.invoke, Call.respond, Keyring.signMessage, Except.map_eq_error_iff]
    exact signWith_eq_unknownAddress_iff

/-! ### One notion of an account -/

/-- Listing and removing are always of one opinion. -/
theorem lists_iff_not_disowns_removal {listing removal : CallRequest}
    (asked : listing.AsksFor kind .getAccounts) (asked' : removal.AsksFor kind (.removeAccount a)) :
    r.Lists ds listing a ↔ ¬ r.Disowns ds removal a := by
  rw [lists_iff asked, disowns_removal_iff asked', Decidable.not_not]

/-- A request by tag and name that brings no state along. -/
def plainRequest (kind : KeyringKind) (method : Method) (args : List Json) : CallRequest where
  type := kind.tag
  method := method.name
  args := args
  prevState := .null
  promiseId := "1"

/-- A plain request with the right arguments asks for its call. -/
theorem plainRequest_asksFor (args : List Json) (has : Method.isSupported kind call.method)
    (parsed : Call.parse call.method args = .ok call) :
    (plainRequest kind call.method args).AsksFor kind call where
  named := by cases kind <;> rfl
  known := Method.find?_eq_some_iff.2 ⟨has, rfl⟩
  parsed := parsed
  bare := rfl

/-- For every account of every keyring there are requests that tell whether it is known. -/
theorem exists_asksFor (kind : KeyringKind) (a : Address) :
    ∃ call listing removal signing, CallRequest.AsksFor listing kind .getAccounts ∧
      CallRequest.AsksFor removal kind (.removeAccount a) ∧ Call.SignsFor a call ∧
      CallRequest.AsksFor signing kind call := by
  -- All keyrings have all methods but one.
  have has (m : Method) (ne : m ≠ .setHdPath) : Method.isSupported kind m := by
    simp [Method.isSupported, ne]
  have removal : Call.parse .removeAccount [.string a.toText] = .ok (.removeAccount a) := by
    have account : Call.required [.string a.toText] Json.asAddress 0 = .ok a :=
      Call.required_address_eq_ok_iff.2 ⟨_, rfl, Json.asAddress_toText a⟩
    exact Except.mapError_eq_ok_iff.2 (Except.map_eq_ok_iff.2 ⟨a, account, rfl⟩)
  have signing : Call.parse .signPersonalMessage [.string a.toText, .string "0x"] =
      .ok (.signPersonalMessage a []) :=
    Call.parse_signPersonalMessage_eq_ok_iff.2
      ⟨_, [], _, a, rfl, by rfl, rfl, Json.asAddress_toText a, rfl⟩
  exact ⟨_, _, _, _, plainRequest_asksFor [] (has .getAccounts (by decide)) rfl,
    plainRequest_asksFor _ (has .removeAccount (by decide)) removal, .message [],
    plainRequest_asksFor _ (has .signPersonalMessage (by decide)) signing⟩

/-- Listing and removing look into the list, signing into the details, so the two must agree. -/
theorem oneNotion_iff : r.OneNotion ds ↔ ∀ kind, (r.keyring kind).state.Agrees := by
  constructor
  · intro one kind a
    obtain ⟨call, listing, removal, signing, asksList, asksRemoval, signs, asksSign⟩ :=
      exists_asksFor kind a
    -- For each account there is a request of every kind, so the two opinions can be compared.
    have same := (one kind a call listing removal signing asksList asksRemoval signs asksSign).2
    rw [lists_iff asksList, disowns_signing_iff signs asksSign] at same
    rw [same, Option.isSome_iff_ne_none]
  · intro agrees kind a call listing removal signing asksList asksRemoval signs asksSign
    refine ⟨lists_iff_not_disowns_removal asksList asksRemoval, ?_⟩
    rw [lists_iff asksList, disowns_signing_iff signs asksSign, agrees kind a,
      Option.isSome_iff_ne_none]

/-- After every run, an account is listed exactly if it can be removed. Signing has the same notion of an
account exactly if list and details agree in all keyrings; they do if they agree in all states that
the run has handed over. -/
theorem known_accounts (devices : ByKind σ) (gate : FocusGate) (events : List RelayEvent) :
    (∀ kind a listing removal, CallRequest.AsksFor listing kind .getAccounts →
      CallRequest.AsksFor removal kind (.removeAccount a) →
      (((new devices gate).run ds events).2.Lists ds listing a ↔
        ¬ ((new devices gate).run ds events).2.Disowns ds removal a)) ∧
    (((new devices gate).run ds events).2.OneNotion ds ↔
      ∀ kind, (((new devices gate).run ds events).2.keyring kind).state.Agrees) ∧
    ((∀ q, .call q ∈ events → ∀ s, q.HandsOver s → s.Agrees) →
      ((new devices gate).run ds events).2.OneNotion ds) := by
  refine ⟨?_, oneNotion_iff, ?_⟩
  · intro kind a listing removal asksList asksRemoval
    exact lists_iff_not_disowns_removal asksList asksRemoval
  · intro handed
    have start (kind : KeyringKind) : ((new devices gate).keyring kind).state.Agrees := by
      rw [state_keyring_new]
      exact .new _
    exact oneNotion_iff.2
      (run_keeps (fun q mem => CallRequest.keeps_agrees (handed q mem)) start)

/-! ### States that come from outside -/

/-- A request for the accounts that hands over a state. -/
def handOver (s : KeyringState) : CallRequest where
  type := "trezor"
  method := "getAccounts"
  args := []
  prevState := s.toJson
  promiseId := "a"

/-- The same state is handed over in both ways, and accounts are added. -/
def handingRun : List RelayEvent :=
  [.call (handOver echoedState),
    .call ⟨"Trezor Hardware", "deserialize", [echoedState.toJson], .null, "b"⟩,
    .call ⟨"trezor", "addAccounts", [.ofNat 2], .null, "c"⟩]

/-- The state that is handed over has details of the accounts in its list and of no others. -/
theorem known_accounts_handingRun :
    (((new (.const ()) {}).run (.const .echoing) handingRun).2.keyring .trezor).state.accounts.length =
      3 ∧
    ((new (.const ()) {}).run (.const .echoing) handingRun).2.OneNotion (.const .echoing) := by
  refine ⟨by decide +kernel, (known_accounts (.const ()) {} handingRun).2.2 ?_⟩
  intro q mem s handed
  have agrees {kind : KeyringKind}
      (read : KeyringState.ofJson kind.defaultPath echoedState.toJson = .ok s) : s.Agrees := by
    rw [KeyringState.ofJson_toJson] at read
    cases read
    exact echoedState_tracks.mem_accounts_iff
  simp only [handingRun, List.mem_cons, RelayEvent.call.injEq, List.not_mem_nil, or_false] at mem
  -- The first request hands the state over before its call, the second by its call, the third not.
  obtain rfl | rfl | rfl := mem
  · cases handed with
    | before _ _ read => exact agrees read
    | argument _ method => exact absurd method (by decide)
  · cases handed with
    | before _ given => exact absurd rfl given
    | argument _ _ present read =>
      cases present
      exact agrees read
  · cases handed with
    | before _ given => exact absurd rfl given
    | argument _ method => exact absurd method (by decide)

/-- A state with the details of an account that is not in the list. -/
def unlistedAccount : KeyringState :=
  { echoedState with accounts := [] }

/-- A state with an account in the list, and no details of it. -/
def accountWithoutDetails : KeyringState :=
  { echoedState with accountDetails := .empty }

/-- A state in which only one of the two has the account is enough. -/
theorem not_oneNotion_of_stray :
    ¬ ((new (.const ()) {}).run (.const .echoing) [.call (handOver unlistedAccount)]).2.OneNotion
        (.const .echoing) ∧
    ¬ ((new (.const ()) {}).run (.const .echoing) [.call (handOver accountWithoutDetails)]).2.OneNotion
        (.const .echoing) := by
  constructor
  all_goals
    intro one
    -- The account that the device gives for the details of the state is the stray one.
    have agrees := oneNotion_iff.1 one .trezor
      (.lastBytes 20 (Hex.utf8 echoedDetails.hdPath.toList))
    exact absurd agrees (by decide +kernel)

end Relay
end WalletRelay
