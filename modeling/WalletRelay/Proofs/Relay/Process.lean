import WalletRelay.Proofs.Relay.Call
import WalletRelay.Relay.Basic

/-!
# Requests that are resolved

A request is resolved exactly if its keyring and method are found, the state that comes with it is
taken over, its arguments are understood and the call succeeds. `Relay.Resolves` holds these steps
together with the keyrings between them; `process_resolved_iff` says that there is no other way.
-/

namespace WalletRelay

variable {σ : Type}

namespace Keyring

/-- A keyring stays of its kind. -/
theorem kind_adopt (k : Keyring σ) (prevState : Json) : (k.adopt prevState).2.kind = k.kind := by
  unfold adopt restore
  split
  · rfl
  · split <;> rfl

/-- A call succeeds exactly if its three steps do, and tells the state that it leaves. -/
theorem perform_eq_ok_iff {d : Device σ} {k k' : Keyring σ} {method : Method} {args : List Json}
    {prevState response : Json} {s : KeyringState} :
    k.perform d method args prevState = (.ok (s, response), k') ↔
      ∃ start call, k.adopt prevState = (.ok (), start) ∧ Call.parse method args = .ok call ∧
        call.invoke d start = (.ok response, k') ∧ s = k'.state := by
  unfold perform
  constructor
  · intro h
    -- The steps are taken one after another, and each failure is another answer.
    split at h
    · cases h
    · next start adopted =>
      split at h
      · cases h
      · next call parsed =>
        split at h
        · cases h
        · next answered =>
          cases h
          exact ⟨start, call, adopted, parsed, answered, rfl⟩
  · rintro ⟨start, call, adopted, parsed, answered, rfl⟩
    simp only [adopted, parsed, answered]

end Keyring

namespace Relay

/-- A request succeeds exactly if its keyring and method are found and the call succeeds. -/
theorem execute_eq_ok_iff {ds : ByKind (Device σ)} {r r' : Relay σ} {q : CallRequest}
    {s : KeyringState} {response : Json} :
    r.execute ds q = (.ok (s, response), r') ↔
      ∃ kind method k, Method.resolve q.type q.method = .ok (kind, method) ∧
        (r.keyring kind).perform (ds.get kind) method q.args q.prevState = (.ok (s, response), k) ∧
        r' = r.setKeyring kind k := by
  unfold execute
  constructor
  · intro h
    split at h
    · cases h
    · next kind method found =>
      -- The relay puts back whatever keyring the call has left.
      obtain ⟨answer, rfl⟩ := Prod.mk.inj h
      exact ⟨kind, method, _, found, Prod.ext answer rfl, rfl⟩
  · rintro ⟨kind, method, k, found, performed, rfl⟩
    simp only [found, performed]

/-- The steps of a request that is resolved: the keyring `start` has taken over the state that comes
with the request, and `final` is the keyring after the call. -/
structure Resolves (ds : ByKind (Device σ)) (r : Relay σ) (q : CallRequest) (kind : KeyringKind)
    (method : Method) (call : Call) (start final : Keyring σ) (response : Json) : Prop where
  named : KeyringKind.ofText? q.type = some kind
  known : Method.find? kind q.method = some method
  adopted : (r.keyring kind).adopt q.prevState = (.ok (), start)
  parsed : Call.parse method q.args = .ok call
  invoked : call.invoke (ds.get kind) start = (.ok response, final)

/-- The steps of a request that succeeds are the ones named in `Resolves`. -/
theorem execute_eq_ok_iff_resolves {ds : ByKind (Device σ)} {r r' : Relay σ} {q : CallRequest}
    {s : KeyringState} {response : Json} :
    r.execute ds q = (.ok (s, response), r') ↔
      ∃ kind method call start final, r.Resolves ds q kind method call start final response ∧
        s = final.state ∧ r' = r.setKeyring kind final := by
  simp only [execute_eq_ok_iff, Method.resolve_eq_ok_iff, Keyring.perform_eq_ok_iff]
  constructor
  · rintro ⟨kind, method, final, found, ⟨start, call, adopted, parsed, invoked, rfl⟩, rfl⟩
    exact ⟨kind, method, call, start, final, ⟨found.1, found.2, adopted, parsed, invoked⟩, rfl, rfl⟩
  · rintro ⟨kind, method, call, start, final, steps, rfl, rfl⟩
    exact ⟨kind, method, final, ⟨steps.named, steps.known⟩,
      ⟨start, call, steps.adopted, steps.parsed, steps.invoked, rfl⟩, rfl⟩

/-- A request is resolved exactly if it is in focus and all its steps succeed. -/
theorem process_resolved_iff {ds : ByKind (Device σ)} {r r' : Relay σ} {q : CallRequest}
    {o : CallOutcome} :
    (r.process ds q = (some o, r') ∧ o.isResolved) ↔
      r.gate.isFocused ∧ ∃ kind method call start final response,
        r.Resolves ds q kind method call start final response ∧
        o = .resolve q.promiseId final.state.toJson response ∧ r' = r.setKeyring kind final := by
  constructor
  · rintro ⟨h, resolved⟩
    unfold process at h
    split at h
    · next focused =>
      -- In focus, the outcome is that of carrying the request out.
      cases done : r.execute ds q with
      | mk answer after =>
        simp only [done] at h
        cases h
        cases answer with
        | error e => cases resolved -- a refused call is not resolved
        | ok result =>
          obtain ⟨s, response⟩ := result
          obtain ⟨kind, method, call, start, final, steps, rfl, same⟩ :=
            execute_eq_ok_iff_resolves.1 done
          exact ⟨focused, kind, method, call, start, final, response, steps, rfl, same⟩
    · cases h
  · rintro ⟨focused, kind, method, call, start, final, response, steps, rfl, rfl⟩
    have done : r.execute ds q = (.ok (final.state, response), r.setKeyring kind final) :=
      execute_eq_ok_iff_resolves.2 ⟨kind, method, call, start, final, steps, rfl, rfl⟩
    refine ⟨?_, by simp [CallOutcome.isResolved, CallOutcome.resolve]⟩
    simp [process, focused, done, outcomeOf]

end Relay
end WalletRelay
