import WalletRelay.Proofs.Keyring.Changes

/-!
# Accounts and their details

The list of accounts and the map with their details are two records of one thing. A state in which they
name the same addresses keeps this under every operation (`Agrees.change`); only a serialized state that
is handed over can do without it.
-/

namespace WalletRelay

variable {σ : Type} {d : Device σ} {kind : KeyringKind}

/-- The accounts in use are the addresses with details. -/
def KeyringState.Agrees (s : KeyringState) : Prop :=
  ∀ a, a ∈ s.accounts ↔ (s.accountDetails.get? a).isSome

namespace KeyringState.Agrees

variable {s s' : KeyringState}

theorem new (root : String) : (KeyringState.new root).Agrees := by
  simp [KeyringState.Agrees, KeyringState.new]

/-- The root, the page and the unlock index do not matter. -/
theorem congr (h : s.Agrees) (accounts : s'.accounts = s.accounts)
    (details : s'.accountDetails = s.accountDetails) : s'.Agrees := by
  intro a
  rw [accounts, details]
  exact h a

theorem setRoot (h : s.Agrees) (root : String) : (s.setRoot root).Agrees :=
  h.congr (s.accounts_setRoot root) (s.accountDetails_setRoot root)

/-- Taking an account into use puts it into the list and its details into the map. -/
theorem track (h : s.Agrees) (a : Address) (details : AccountDetails) :
    (s.track a details).Agrees := by
  unfold KeyringState.track
  split
  · exact h
  · intro b
    simp only [List.mem_append, List.mem_singleton, AddressMap.get?_insert, h b]
    by_cases eq : b = a <;> simp [eq]

/-- Taking an account out of use takes it out of the list and its details out of the map. -/
theorem forget (h : s.Agrees) (a : Address) : (s.forget a).Agrees := by
  intro b
  rw [mem_accounts_forget, get?_forget, h b]
  by_cases eq : b = a <;> simp [eq]

/-- Every step of a call keeps the agreement, unless it hands over a state without it. -/
theorem change {call : Call}
    (restored : ∀ serialized, call = .deserialize serialized →
      ∀ s, KeyringState.ofJson kind.defaultPath serialized = .ok s → s.Agrees)
    (step : call.Change d kind s s') (h : s.Agrees) : s'.Agrees := by
  cases step with
  | restored read => exact restored _ rfl _ read
  | unlocked _ path => exact h.setRoot path
  | started => exact h.congr rfl rfl
  | tracked => exact h.track _ _
  | paged => exact h.congr rfl rfl
  | removed => exact h.forget _
  | rooted _ path => exact h.setRoot path
  | forgotten => exact .new _

end KeyringState.Agrees
end WalletRelay
