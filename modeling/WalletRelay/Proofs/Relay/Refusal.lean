import WalletRelay.Proofs.Relay.Process

/-!
# Requests that are refused

A request that is not resolved is refused by the first of its steps that fails. `Relay.Refuses` has one
rule for each step, with the error and the relay as it is left; `execute_eq_error_iff_refuses` says that
there are no other refusals.

Errors are wrapped layer by layer on their way out. The text of a refusal is that of the error inside
all wrappings (`message_innermost`), and it always says something (`message_not_blank`), so a refusal
never falls back on the text of a cause.
-/

namespace WalletRelay

variable {σ : Type}

/-! ### Texts of errors -/

/-- An error of one of the layers, without the errors of other layers wrapped around it. -/
inductive LayerError where
  | device (e : DeviceError)
  | keyring (e : KeyringError)
  | transaction (e : TransactionError)
  | relay (e : RelayError)

def LayerError.message : LayerError → String
  | .device e => e.message
  | .keyring e => e.message
  | .transaction e => e.message
  | .relay e => e.message

/-- The error inside all wrappings. -/
def RelayError.innermost : RelayError → LayerError
  | .transaction e => .transaction e
  | .keyring (.device e) => .device e
  | .keyring e => .keyring e
  | e => .relay e

/-- Wrapping an error does not change its text. -/
theorem RelayError.message_innermost (e : RelayError) : e.innermost.message = e.message := by
  cases e with
  | keyring e => cases e <;> rfl
  | _ => rfl

theorem DeviceError.message_not_blank (e : DeviceError) : Text.isBlankText e.message = false := by
  unfold message
  cases e <;> simp [Text.isBlankText, Text.isBlank]

theorem TransactionError.message_not_blank (e : TransactionError) :
    Text.isBlankText e.message = false := by
  unfold message
  cases e <;> simp [Text.isBlankText, Text.isBlank]

theorem KeyringError.message_not_blank (e : KeyringError) : Text.isBlankText e.message = false := by
  unfold message
  cases e with
  | device e => exact e.message_not_blank
  | _ => simp [Text.isBlankText, Text.isBlank]

/-- Every text begins with words of its own, or is that of a wrapped error. -/
theorem RelayError.message_not_blank (e : RelayError) : Text.isBlankText e.message = false := by
  unfold message
  cases e with
  | transaction e => exact e.message_not_blank
  | keyring e => exact e.message_not_blank
  | _ => simp [Text.isBlankText, Text.isBlank]

/-- The text of a refusal is that of the error inside, since it is not blank. -/
theorem RelayError.reason_failure (e : RelayError) : e.failure.reason = e.innermost.message := by
  rw [Failure.reason, message_innermost]
  exact if_neg (by simp [failure, e.message_not_blank])

/-! ### The step that fails -/

namespace Keyring

/-- A call fails at the state that comes with it, at its arguments or by itself. -/
theorem perform_eq_error_iff {d : Device σ} {k k' : Keyring σ} {method : Method} {args : List Json}
    {prevState : Json} {e : RelayError} :
    k.perform d method args prevState = (.error e, k') ↔
      (∃ e', k.adopt prevState = (.error e', k') ∧ e = .keyring e') ∨
      (k.adopt prevState = (.ok (), k') ∧ Call.parse method args = .error e) ∨
      (∃ start call e', k.adopt prevState = (.ok (), start) ∧ Call.parse method args = .ok call ∧
        call.invoke d start = (.error e', k') ∧ e = .keyring e') := by
  unfold perform
  constructor
  · intro h
    -- Each step has its own error, and is only taken if those before it succeed.
    split at h
    · next e' _ adopted =>
      cases h
      exact .inl ⟨e', adopted, rfl⟩
    · next start adopted =>
      split at h
      · next parsed =>
        cases h
        exact .inr (.inl ⟨adopted, parsed⟩)
      · next call parsed =>
        split at h
        · next e' _ answered =>
          cases h
          exact .inr (.inr ⟨start, call, e', adopted, parsed, answered, rfl⟩)
        · cases h
  · rintro (⟨e', adopted, rfl⟩ | ⟨adopted, parsed⟩ | ⟨start, call, e', adopted, parsed, answered, rfl⟩)
    · simp only [adopted]
    · simp only [adopted, parsed]
    · simp only [adopted, parsed, answered]

end Keyring

namespace Relay

/-- The ways in which a request is refused, with the error and the relay that is left. -/
inductive Refuses (ds : ByKind (Device σ)) (r : Relay σ) (q : CallRequest) :
    RelayError → Relay σ → Prop
  | unknownKeyring :
      KeyringKind.ofText? q.type = none →
      Refuses ds r q (.unsupportedKeyring q.type) r
  | unknownMethod {kind : KeyringKind} :
      KeyringKind.ofText? q.type = some kind →
      Method.find? kind q.method = none →
      Refuses ds r q (.unsupportedMethod kind q.method) r
  | badState {kind : KeyringKind} {method : Method} {e : KeyringError} {k : Keyring σ} :
      KeyringKind.ofText? q.type = some kind →
      Method.find? kind q.method = some method →
      (r.keyring kind).adopt q.prevState = (.error e, k) →
      Refuses ds r q (.keyring e) (r.setKeyring kind k)
  | badArguments {kind : KeyringKind} {method : Method} {start : Keyring σ} {e : RelayError} :
      KeyringKind.ofText? q.type = some kind →
      Method.find? kind q.method = some method →
      (r.keyring kind).adopt q.prevState = (.ok (), start) →
      Call.parse method q.args = .error e →
      Refuses ds r q e (r.setKeyring kind start)
  | failed {kind : KeyringKind} {method : Method} {start final : Keyring σ} {call : Call}
      {e : KeyringError} :
      KeyringKind.ofText? q.type = some kind →
      Method.find? kind q.method = some method →
      (r.keyring kind).adopt q.prevState = (.ok (), start) →
      Call.parse method q.args = .ok call →
      call.invoke (ds.get kind) start = (.error e, final) →
      Refuses ds r q (.keyring e) (r.setKeyring kind final)

/-- There are no refusals but those of the five rules. -/
theorem execute_eq_error_iff_refuses {ds : ByKind (Device σ)} {r r' : Relay σ} {q : CallRequest}
    {e : RelayError} : r.execute ds q = (.error e, r') ↔ r.Refuses ds q e r' := by
  constructor
  · intro h
    unfold execute at h
    split at h
    · next e' unresolved =>
      cases h
      -- What is not resolved names no keyring, or a method that its keyring does not have.
      unfold Method.resolve at unresolved
      split at unresolved
      · next unknown => cases unresolved; exact .unknownKeyring unknown
      · next kind named =>
        split at unresolved
        · next unknown => cases unresolved; exact .unknownMethod named unknown
        · cases unresolved
    · next kind method found =>
      obtain ⟨named, known⟩ := Method.resolve_eq_ok_iff.1 found
      -- What is resolved is refused by the keyring, in one of its three steps.
      obtain ⟨answer, rfl⟩ := Prod.mk.inj h
      obtain ⟨_, adopted, rfl⟩ | ⟨adopted, parsed⟩ | ⟨_, _, _, adopted, parsed, answered, rfl⟩ :=
        Keyring.perform_eq_error_iff.1 (Prod.ext answer rfl)
      · exact .badState named known adopted
      · exact .badArguments named known adopted parsed
      · exact .failed named known adopted parsed answered
  · intro h
    cases h with
    | unknownKeyring unknown => simp only [execute, Method.resolve, unknown]
    | unknownMethod named unknown => simp only [execute, Method.resolve, named, unknown]
    | @badState kind method e k named known adopted =>
      have performed : (r.keyring kind).perform (ds.get kind) method q.args q.prevState =
          (.error (.keyring e), k) := Keyring.perform_eq_error_iff.2 (.inl ⟨e, adopted, rfl⟩)
      simp only [execute, Method.resolve_eq_ok_iff.2 ⟨named, known⟩, performed]
    | @badArguments kind method start e named known adopted parsed =>
      have performed : (r.keyring kind).perform (ds.get kind) method q.args q.prevState =
          (.error e, start) := Keyring.perform_eq_error_iff.2 (.inr (.inl ⟨adopted, parsed⟩))
      simp only [execute, Method.resolve_eq_ok_iff.2 ⟨named, known⟩, performed]
    | failed named known adopted parsed answered =>
      have performed :=
        Keyring.perform_eq_error_iff.2 (.inr (.inr ⟨_, _, _, adopted, parsed, answered, rfl⟩))
      simp only [execute, Method.resolve_eq_ok_iff.2 ⟨named, known⟩, performed]

end Relay
end WalletRelay
