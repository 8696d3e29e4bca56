import Mathlib.Data.List.TakeWhile
import WalletRelay.Proofs.Keyring.AccountPath
import WalletRelay.Proofs.Text.Numeral

/-!
# Accounts with the same path

The path of an account leads to its key, so two accounts are one if their paths are. Under one root path,
accounts with different indices have different paths. Accounts under two roots share a path in two cases
only: the index is the same and the roots differ in the slashes at their ends
(`accountPath_eq_accountPath_iff`), or one root is that of Ledger Live and the other account is the first one
under its account level (`accountPath_ledgerLivePath_eq_iff`).

Both follow from the last slash of a path: nothing behind it is a slash, so it tells the last level from what
stands before (`append_slash_inj`).
-/

namespace WalletRelay

/-! ### The last level of a path -/

/-- A written index has no slash in it. -/
theorem slash_not_mem_toString (index : Nat) : '/' ∉ (toString index).toList := by
  intro mem
  exact absurd (Numeral.isDigit_of_mem_toString mem) (by decide)

/-- A path has one last level. -/
theorem append_slash_inj {front front' level level' : List Char} (plain : '/' ∉ level)
    (plain' : '/' ∉ level') :
    front ++ '/' :: level = front' ++ '/' :: level' ↔ front = front' ∧ level = level' := by
  constructor
  · intro same
    -- The longer front would have the last slash of the other path inside its level.
    rcases List.append_eq_append_iff.1 same with ⟨more, fronts, levels⟩ | ⟨more, fronts, levels⟩
    · cases more with
      | nil =>
        rw [List.append_nil] at fronts
        exact ⟨fronts.symm, (List.cons.inj levels).2⟩
      | cons c more =>
        have inside := (List.cons.inj levels).2
        exact absurd (inside ▸ List.mem_append_right more List.mem_cons_self) plain
    · cases more with
      | nil =>
        rw [List.append_nil] at fronts
        exact ⟨fronts, (List.cons.inj levels).2.symm⟩
      | cons c more =>
        have inside := (List.cons.inj levels).2
        exact absurd (inside ▸ List.mem_append_right more List.mem_cons_self) plain'
  · rintro ⟨rfl, rfl⟩
    rfl

/-! ### Roots that differ in the slashes at their ends -/

/-- Two root paths are the same but for the slashes at their ends. -/
def SlashedAlike (root root' : String) : Prop :=
  ∃ path count count', root = withSlashes path count ∧ root' = withSlashes path count'

/-- A root is what is left of it without slashes at the end, with some slashes put back. -/
theorem exists_withSlashes (root : String) :
    ∃ count, root = withSlashes (String.ofList (dropTrailingSlashes root.toList)) count := by
  have slashes : ∀ c ∈ root.toList.reverse.takeWhile (· == '/'), c = '/' := by
    intro c mem
    simpa using List.mem_takeWhile_imp mem
  refine ⟨(root.toList.reverse.takeWhile (· == '/')).length, String.toList_inj.1 ?_⟩
  rw [toList_withSlashes, String.toList_ofList, dropTrailingSlashes, ← List.reverse_replicate,
    ← List.eq_replicate_of_mem slashes, ← List.reverse_append, List.takeWhile_append_dropWhile,
    List.reverse_reverse]

/-- Roots that are the same without the slashes at their ends differ in these only. -/
theorem dropTrailingSlashes_eq_iff {root root' : String} :
    dropTrailingSlashes root.toList = dropTrailingSlashes root'.toList ↔
      SlashedAlike root root' := by
  constructor
  · intro same
    obtain ⟨count, slashed⟩ := exists_withSlashes root
    obtain ⟨count', slashed'⟩ := exists_withSlashes root'
    rw [← same] at slashed'
    exact ⟨_, count, count', slashed, slashed'⟩
  · rintro ⟨path, count, count', rfl, rfl⟩
    rw [toList_withSlashes, toList_withSlashes, dropTrailingSlashes_append_slashes,
      dropTrailingSlashes_append_slashes]

/-! ### Accounts with the same path -/

theorem toList_accountPath_of_ne {root : String} (other : root ≠ ledgerLivePath) (index : Nat) :
    (accountPath root index).toList =
      dropTrailingSlashes root.toList ++ '/' :: (toString index).toList := by
  rw [accountPath_of_ne other, String.toList_append, String.toList_append, String.toList_ofList,
    List.append_assoc]
  rfl

/-- Accounts at two roots have the same path if they have the same index, and the roots are the same but for
the slashes at their ends. -/
theorem accountPath_eq_accountPath_iff {root root' : String} (other : root ≠ ledgerLivePath)
    (other' : root' ≠ ledgerLivePath) (index index' : Nat) :
    accountPath root index = accountPath root' index' ↔
      index = index' ∧ SlashedAlike root root' := by
  rw [← String.toList_inj, toList_accountPath_of_ne other, toList_accountPath_of_ne other',
    append_slash_inj (slash_not_mem_toString index) (slash_not_mem_toString index'),
    dropTrailingSlashes_eq_iff, String.toList_inj, Numeral.toString_inj]
  exact and_comm

/-! ### The root path of Ledger Live -/

/-- The root path whose first account is the one of Ledger Live with this index. -/
def changeLevel (index : Nat) : String :=
  "m/44'/60'/" ++ toString index ++ "'/0"

theorem toList_changeLevel (index : Nat) :
    (changeLevel index).toList =
      ("m/44'/60'/" ++ toString index).toList ++ ['\'', '/', '0'] := by
  rw [changeLevel, String.toList_append]
  rfl

/-- The third character from the end is a quote, which it is not in the root path of Ledger Live. -/
theorem changeLevel_ne_ledgerLivePath (index : Nat) : changeLevel index ≠ ledgerLivePath := by
  intro same
  have chars := congrArg String.toList same
  rw [toList_changeLevel] at chars
  have split : ledgerLivePath.toList = "m/44'/60'/0'/".toList ++ ['0', '/', '0'] := by decide
  rw [split] at chars
  exact absurd (List.append_inj_right' chars rfl) (by decide)

/-- An account of Ledger Live is the first one under a root of its own. -/
theorem accountPath_ledgerLivePath_eq (index : Nat) :
    accountPath ledgerLivePath index = accountPath (changeLevel index) 0 := by
  have kept : dropTrailingSlashes (changeLevel index).toList = (changeLevel index).toList := by
    simp [toList_changeLevel, dropTrailingSlashes]
  rw [accountPath_ledgerLivePath, accountPath_of_ne (changeLevel_ne_ledgerLivePath index), kept,
    String.ofList_toList, changeLevel, String.append_assoc, String.append_assoc, String.append_assoc]
  rfl

/-- An account of Ledger Live has the path of another account if that is the first one of its own level. -/
theorem accountPath_ledgerLivePath_eq_iff {root : String} (other : root ≠ ledgerLivePath)
    (index index' : Nat) :
    accountPath ledgerLivePath index = accountPath root index' ↔
      index' = 0 ∧ SlashedAlike (changeLevel index) root := by
  rw [accountPath_ledgerLivePath_eq,
    accountPath_eq_accountPath_iff (changeLevel_ne_ledgerLivePath index) other, eq_comm (a := 0)]

/-- Accounts of Ledger Live with different indices have different paths. -/
theorem accountPath_ledgerLivePath_inj {index index' : Nat} :
    accountPath ledgerLivePath index = accountPath ledgerLivePath index' ↔ index = index' := by
  rw [accountPath_ledgerLivePath, accountPath_ledgerLivePath, String.append_left_inj,
    String.append_right_inj, Numeral.toString_inj]

/-! ### Accounts and their paths -/

/-- Under any root path, accounts with different indices have different paths. Under two root paths other
than that of Ledger Live, accounts have the same path exactly if they have the same index and the roots are
the same but for the slashes at their ends. The path of a Ledger Live account is found under another root
path only as the first one below its own account level. -/
theorem account_of_path (root : String) :
    (∀ index index', accountPath root index = accountPath root index' ↔ index = index') ∧
    (root ≠ ledgerLivePath →
      (∀ root', root' ≠ ledgerLivePath → ∀ index index',
        accountPath root index = accountPath root' index' ↔
          index = index' ∧ SlashedAlike root root') ∧
      ∀ index index', accountPath ledgerLivePath index = accountPath root index' ↔
        index' = 0 ∧ SlashedAlike (changeLevel index) root) := by
  refine ⟨?_, ?_⟩
  · intro index index'
    -- The index stands in the account level of a Ledger Live path, and at the end of every other one.
    by_cases ledger : root = ledgerLivePath
    · rw [ledger, accountPath_ledgerLivePath_inj]
    · rw [accountPath_eq_accountPath_iff ledger ledger]
      have alike : SlashedAlike root root := dropTrailingSlashes_eq_iff.1 rfl
      exact and_iff_left alike
  · intro other
    refine ⟨?_, ?_⟩
    · intro root' other' index index'
      exact accountPath_eq_accountPath_iff other other' index index'
    · intro index index'
      exact accountPath_ledgerLivePath_eq_iff other index index'

/-- Roots that end with digits and slashes: the twelfth account under `m/1/` is the one under `m/1//`, and not
the second one under `m/1/1`. -/
theorem account_of_path_digits :
    SlashedAlike "m/1/" "m/1//" ∧ accountPath "m/1/" 12 = accountPath "m/1//" 12 ∧
      accountPath "m/1/" 12 ≠ accountPath "m/1/1" 2 := by
  have other : "m/1/" ≠ ledgerLivePath := by decide
  have shared := ((account_of_path "m/1/").2 other).1
  have alike : SlashedAlike "m/1/" "m/1//" := ⟨"m/1", 1, 2, by decide, by decide⟩
  refine ⟨alike, (shared "m/1//" (by decide) 12 12).2 ⟨rfl, alike⟩, ?_⟩
  intro same
  exact absurd ((shared "m/1/1" (by decide) 12 2).1 same).1 (by decide)

end WalletRelay
