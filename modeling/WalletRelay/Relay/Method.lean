import WalletRelay.Keyring.Kind

/-!
# Methods

A request names a method. Every kind of keyring knows all methods, but a lattice device is meant to pin its
root path, so a lattice keyring lacks the method that sets it.
-/

namespace WalletRelay

/-- A method of a keyring that requests can name. -/
inductive Method where
  | serialize
  | deserialize
  | isUnlocked
  | unlock
  | setAccountToUnlock
  | addAccounts
  | getFirstPage
  | getNextPage
  | getPreviousPage
  | getAccounts
  | removeAccount
  | setHdPath
  | forgetDevice
  | signTransaction
  | signPersonalMessage
deriving DecidableEq, Repr

namespace Method

/-- All methods, in the order in which they are listed. -/
def all : List Method :=
  [.serialize, .deserialize, .isUnlocked, .unlock, .setAccountToUnlock, .addAccounts, .getFirstPage,
    .getNextPage, .getPreviousPage, .getAccounts, .removeAccount, .setHdPath, .forgetDevice,
    .signTransaction, .signPersonalMessage]

def name : Method → String
  | .serialize => "serialize"
  | .deserialize => "deserialize"
  | .isUnlocked => "isUnlocked"
  | .unlock => "unlock"
  | .setAccountToUnlock => "setAccountToUnlock"
  | .addAccounts => "addAccounts"
  | .getFirstPage => "getFirstPage"
  | .getNextPage => "getNextPage"
  | .getPreviousPage => "getPreviousPage"
  | .getAccounts => "getAccounts"
  | .removeAccount => "removeAccount"
  | .setHdPath => "setHdPath"
  | .forgetDevice => "forgetDevice"
  | .signTransaction => "signTransaction"
  | .signPersonalMessage => "signPersonalMessage"

def isSupported (kind : KeyringKind) (m : Method) : Bool :=
  !(kind = .lattice ∧ m = .setHdPath)

def supported (kind : KeyringKind) : List Method :=
  all.filter (isSupported kind)

/-- The method that a keyring knows by a name. -/
def find? (kind : KeyringKind) (name : String) : Option Method :=
  (supported kind).find? fun m => m.name == name

theorem mem_all (m : Method) : m ∈ all := by
  cases m <;> decide

theorem mem_supported {kind : KeyringKind} {m : Method} :
    m ∈ supported kind ↔ isSupported kind m = true := by
  simp [supported, mem_all]

end Method
end WalletRelay
