import WalletRelay.Proofs.Keyring.AccountPath
import WalletRelay.Proofs.Keyring.Paging
import WalletRelay.Proofs.Keyring.Simulation

/-!
# Slashes at the end of a root path

With slashes at its end, every root path but that of Ledger Live is another spelling of itself. Keyrings
that differ in the spelling only give the same answers (`SpelledAlike.run`), so an account that is added,
listed or unlocked is the same one (`same_accounts_with_slashes`).
-/

namespace WalletRelay

variable {σ : Type}

namespace Keyring

def atRoot (k : Keyring σ) (root : String) : Keyring σ :=
  { k with state := k.state.atRoot root }

/-- Under roots with the same account paths, a keyring is spelled alike. -/
theorem spelledAlike_atRoot {root root' : String}
    (same : ∀ index, accountPath root index = accountPath root' index) (k : Keyring σ) :
    (k.atRoot root).SpelledAlike Eq (k.atRoot root') :=
  ⟨rfl, rfl, same, rfl⟩

/-- However many calls follow, the spelling of the root path stays the only difference. -/
theorem SpelledAlike.run (d : Device σ) {k l : Keyring σ} (h : k.SpelledAlike Eq l) {calls : List Call}
    (aside : ∀ call ∈ calls, call.LeavesRootAside) :
    k.answers d calls = l.answers d calls ∧
      (k.after d calls).SpelledAlike Eq (l.after d calls) := by
  induction calls generalizing k l with
  | nil => exact ⟨rfl, h⟩
  | cons call calls ih =>
    obtain ⟨same, h'⟩ := h.invoke d.simulates_self (aside call List.mem_cons_self)
    obtain ⟨others, last⟩ := ih h' fun call mem => aside call (List.mem_cons_of_mem _ mem)
    refine ⟨?_, last⟩
    rw [answers, answers, same, others]

/-- Unlocking looks for the first account under the path that it is given, whatever the state was. -/
theorem unlock_some_answer (d : Device σ) (k : Keyring σ) (root : String) :
    (k.unlock d (some root)).1 =
      ((d.address (accountPath root 0) k.device).1).mapError .device := by
  rw [unlock, addressAt_eq, setHdPath, KeyringState.hdPath_setRoot]

end Keyring

/-- Slashes at the end of a root path do not matter, unless it is the root path of Ledger Live: then every
account has another path with them than without. Where they do not matter, a device is unlocked with the
same account, and a keyring that was found with them gives the same answers as the one without and goes on to
differ in nothing else. -/
theorem same_accounts_with_slashes (root : String) (count : Nat) :
    (∀ index, accountPath (withSlashes root count) index = accountPath root index ↔
      (root = ledgerLivePath → count = 0)) ∧
    ((root = ledgerLivePath → count = 0) → ∀ (d : Device σ) (k : Keyring σ),
      (k.unlock d (some (withSlashes root count))).1 = (k.unlock d (some root)).1 ∧
      ∀ calls : List Call, (∀ call ∈ calls, call.LeavesRootAside) →
        (k.atRoot (withSlashes root count)).answers d calls = (k.atRoot root).answers d calls ∧
        ((k.atRoot (withSlashes root count)).after d calls).SpelledAlike Eq
          ((k.atRoot root).after d calls)) := by
  refine ⟨accountPath_withSlashes_iff root count, ?_⟩
  intro unchanged d k
  -- The paths are the same, and nothing else is looked at.
  have same := accountPath_withSlashes unchanged
  refine ⟨?_, ?_⟩
  · rw [Keyring.unlock_some_answer, Keyring.unlock_some_answer, same]
  · intro calls aside
    exact (Keyring.spelledAlike_atRoot same k).run d aside

def accountsRun : List Call :=
  [.addAccounts 2, .getFirstPage, .setAccountToUnlock 5, .addAccounts 1, .unlock none, .getAccounts]

/-- Two slashes at the end of the default root change nothing in a run that adds, lists and unlocks accounts.
-/
theorem same_accounts_with_slashes_bip44Path :
    ((Keyring.new .trezor ()).atRoot "m/44'/60'/0'/0//").answers .echoing accountsRun =
      (Keyring.new .trezor ()).answers .echoing accountsRun ∧
    ((Keyring.new .trezor ()).after .echoing accountsRun).state.accounts.length = 3 := by
  have other : bip44Path = ledgerLivePath → 2 = 0 := fun same => absurd same (by decide)
  have aside : ∀ call ∈ accountsRun, call.LeavesRootAside := by
    simp [accountsRun, Call.LeavesRootAside]
  have slashed : withSlashes bip44Path 2 = "m/44'/60'/0'/0//" := by decide
  obtain ⟨-, alike⟩ := same_accounts_with_slashes bip44Path 2
  rw [← slashed]
  exact ⟨((alike other .echoing (Keyring.new .trezor ())).2 accountsRun aside).1, by decide +kernel⟩

/-- The fourth account of Ledger Live is another one if a slash stands at the end of the root path. -/
theorem slash_moves_ledgerLive_account :
    accountPath (withSlashes ledgerLivePath 1) 3 = "m/44'/60'/0'/0/0/3" ∧
      accountPath ledgerLivePath 3 = "m/44'/60'/3'/0/0" := by
  decide +kernel

end WalletRelay
