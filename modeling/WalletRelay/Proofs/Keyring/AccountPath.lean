import Mathlib.Data.List.Basic
import WalletRelay.Keyring.State

/-!
# Paths of accounts

Slashes at the end of a root path are dropped before the index of an account is appended, so a root path
and the same with slashes at its end have the same accounts. The root path of Ledger Live is an exception:
it is recognized by its exact text. With a slash at its end it is a root path like any other, and all of
its accounts are elsewhere (`accountPath_withSlashes_iff`).
-/

namespace WalletRelay

/-! ### Slashes at the end -/

/-- A path with so many slashes at its end. -/
def withSlashes (path : String) (count : Nat) : String :=
  path ++ String.ofList (List.replicate count '/')

@[simp] theorem toList_withSlashes (path : String) (count : Nat) :
    (withSlashes path count).toList = path.toList ++ List.replicate count '/' := by
  rw [withSlashes, String.toList_append, String.toList_ofList]

@[simp] theorem withSlashes_zero (path : String) : withSlashes path 0 = path := by
  rw [withSlashes, List.replicate_zero, String.ofList_nil, String.append_empty]

/-- Slashes at the end do not count, however many there are. -/
theorem dropTrailingSlashes_append_slashes (cs : List Char) (count : Nat) :
    dropTrailingSlashes (cs ++ List.replicate count '/') = dropTrailingSlashes cs := by
  have slashes : ∀ c ∈ List.replicate count '/', (c == '/') = true := by
    intro c mem
    rw [List.eq_of_mem_replicate mem]
    rfl
  rw [dropTrailingSlashes, List.reverse_append, List.reverse_replicate,
    List.dropWhile_append_of_pos slashes, dropTrailingSlashes]

theorem getLast?_withSlashes_succ (path : String) (count : Nat) :
    (withSlashes path (count + 1)).toList.getLast? = some '/' := by
  rw [toList_withSlashes, List.replicate_succ', ← List.append_assoc, List.getLast?_concat]

/-- The root path of Ledger Live ends with a digit. -/
theorem withSlashes_succ_ne_ledgerLivePath (path : String) (count : Nat) :
    withSlashes path (count + 1) ≠ ledgerLivePath := by
  intro same
  have last := getLast?_withSlashes_succ path count
  rw [same] at last
  exact absurd last (by decide)

/-! ### The two forms -/

/-- Under the root path of Ledger Live, the index is the account level. -/
theorem accountPath_ledgerLivePath (index : Nat) :
    accountPath ledgerLivePath index = "m/44'/60'/" ++ toString index ++ "'/0/0" :=
  if_pos rfl

/-- Under any other root path, the index is the last level. -/
theorem accountPath_of_ne {root : String} (other : root ≠ ledgerLivePath) (index : Nat) :
    accountPath root index =
      String.ofList (dropTrailingSlashes root.toList) ++ "/" ++ toString index :=
  if_neg other

/-- Slashes at the end of a root change no account path, unless they hide the root of Ledger Live. -/
theorem accountPath_withSlashes {root : String} {count : Nat}
    (unchanged : root = ledgerLivePath → count = 0) (index : Nat) :
    accountPath (withSlashes root count) index = accountPath root index := by
  cases count with
  | zero => rw [withSlashes_zero]
  | succ count =>
    have other : root ≠ ledgerLivePath := fun same => nomatch unchanged same
    rw [accountPath_of_ne (withSlashes_succ_ne_ledgerLivePath root count), accountPath_of_ne other,
      toList_withSlashes, dropTrailingSlashes_append_slashes]

/-- One of the two paths has two characters more than the other. -/
theorem accountPath_ledgerLivePath_withSlashes_ne (count index : Nat) :
    accountPath (withSlashes ledgerLivePath (count + 1)) index ≠ accountPath ledgerLivePath index := by
  intro same
  have trimmed : dropTrailingSlashes ledgerLivePath.toList = ledgerLivePath.toList := by decide
  rw [accountPath_of_ne (withSlashes_succ_ne_ledgerLivePath ledgerLivePath count),
    accountPath_ledgerLivePath, toList_withSlashes, dropTrailingSlashes_append_slashes, trimmed,
    String.ofList_toList] at same
  have lengths := congrArg String.length same
  simp only [String.length_append] at lengths
  have appended : ledgerLivePath.length + "/".length = 17 := by decide
  have replaced : "m/44'/60'/".length + "'/0/0".length = 15 := by decide
  omega

/-- Slashes at the end of a root path matter for no account, unless it is the root path of Ledger Live: then
they matter for every account. -/
theorem accountPath_withSlashes_iff (root : String) (count index : Nat) :
    accountPath (withSlashes root count) index = accountPath root index ↔
      (root = ledgerLivePath → count = 0) := by
  constructor
  · rintro same rfl
    cases count with
    | zero => rfl
    | succ count => exact absurd same (accountPath_ledgerLivePath_withSlashes_ne count index)
  · intro unchanged
    exact accountPath_withSlashes unchanged index

end WalletRelay
