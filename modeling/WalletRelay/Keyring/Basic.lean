import WalletRelay.Crypto.Secp256k1
import WalletRelay.Keyring.Device
import WalletRelay.Keyring.State

/-!
# Keyrings

A keyring has a state and a device. Its operations ask the device and change the state; each takes the
behaviour of the device as its first argument and returns, besides its answer, the keyring as it is
afterwards, also when it fails.

Account indices stay below the hardened ones. An operation that would go beyond them fails before the
device is asked. A signature leaves the keyring only if the address of its account can be recovered
from it, whatever the device has answered.
-/

namespace WalletRelay

/-- Why an operation of a keyring fails. Every state can be written, so there is no error for a state that
cannot. -/
inductive KeyringError where
  | device (error : DeviceError)
  /-- A serialized state could not be read. -/
  | invalidState (error : DecodeError)
  /-- The indices of the accounts go beyond the last one. -/
  | indexOutOfRange (index : Nat)
  /-- The account is not one of the keyring. -/
  | unknownAddress (address : Address)
  /-- The device has signed with the key of another account. -/
  | signatureMismatch (address : Address)
deriving Repr

def KeyringError.message : KeyringError → String
  | .device e => e.message
  | .invalidState e => "Invalid keyring state: " ++ e.message
  | .indexOutOfRange index => "Account index " ++ toString index ++ " exceeds the derivation limit"
  | .unknownAddress a => "Address " ++ a.checksummed ++ " not found in this keyring"
  | .signatureMismatch a => "The signature for " ++ a.checksummed ++ " is not valid"

/-- A row of a page: an account that could be taken into use. Balances are not known to a device. -/
structure PageEntry where
  address : Address
  index : UInt64
deriving DecidableEq, Repr

def PageEntry.toJson (e : PageEntry) : Json :=
  .object [("address", .string e.address.toText), ("balance", .null), ("index", .ofNat e.index.toNat)]

structure Keyring (σ : Type) where
  kind : KeyringKind
  state : KeyringState
  /-- The state of the device. -/
  device : σ

namespace Keyring

variable {σ : Type}

/-- What an operation returns: its answer, and the keyring afterwards. -/
abbrev Result (σ α : Type) := Except KeyringError α × Keyring σ

def new (kind : KeyringKind) (device : σ) : Keyring σ :=
  ⟨kind, .new kind.defaultPath, device⟩

/-! ### The state -/

def restore (k : Keyring σ) (serialized : Json) : Result σ Unit :=
  match KeyringState.ofJson k.kind.defaultPath serialized with
  | .error e => (.error (.invalidState e), k)
  | .ok state => (.ok (), { k with state })

def setAccountToUnlock (k : Keyring σ) (index : UInt64) : Keyring σ :=
  { k with state := { k.state with unlockedAccount := index } }

def setHdPath (k : Keyring σ) (hdPath : String) : Keyring σ :=
  { k with state := k.state.setRoot hdPath }

def removeAccount (k : Keyring σ) (a : Address) : Result σ Unit :=
  if k.state.contains a then (.ok (), { k with state := k.state.forget a })
  else (.error (.unknownAddress a), k)

/-! ### Accounts of the device -/

def isUnlocked (d : Device σ) (k : Keyring σ) : Bool × Keyring σ :=
  let (answer, device) := d.isConnected k.device
  (answer, { k with device })

/-- The address of the account `index` under the root path. -/
def addressAt (d : Device σ) (k : Keyring σ) (index : Nat) : Result σ Address :=
  match d.address (accountPath k.state.hdPath index) k.device with
  | (.error e, device) => (.error (.device e), { k with device })
  | (.ok a, device) => (.ok a, { k with device })

/-- Connect to the device: the address of its first account, under a new root path if one is given. -/
def unlock (d : Device σ) (k : Keyring σ) (hdPath : Option String) : Result σ Address :=
  match hdPath with
  | none => k.addressAt d 0
  | some path => (k.setHdPath path).addressAt d 0

/-- The first hardened index; accounts have lower ones. -/
def indexLimit : Nat := 0x80000000

/-- Whether all of the `count` indices from `start` on are below the limit. -/
def checkRange (start count : Nat) : Except KeyringError Unit :=
  if start + count ≤ indexLimit then .ok () else .error (.indexOutOfRange (max start indexLimit))

/-- Take into use the `count` accounts from `index` on, up to the first that the device refuses. -/
def trackFrom (d : Device σ) (index : Nat) : (count : Nat) → Keyring σ → Result σ Unit
  | 0, k => (.ok (), k)
  | count + 1, k =>
    match k.addressAt d index with
    | (.error e, k) => (.error e, k)
    | (.ok a, k) =>
      let details : AccountDetails := ⟨accountPath k.state.hdPath index, .ofNat index⟩
      trackFrom d (index + 1) count { k with state := k.state.track a details }

/-- Take into use the `count` accounts from the unlock index on. The answer is all accounts in use. -/
def addAccounts (d : Device σ) (k : Keyring σ) (count : Nat) : Result σ (List Address) :=
  let start := k.state.unlockedAccount.toNat
  match checkRange start count with
  | .error e => (.error e, k)
  | .ok () =>
    match trackFrom d start count k with
    | (.error e, k) => (.error e, k)
    | (.ok (), k) => (.ok k.state.accounts, k)

/-! ### Pages -/

def pageSize : Nat := 5

/-- The entries of the `count` accounts from `index` on. -/
def entriesFrom (d : Device σ) (index : Nat) : (count : Nat) → Keyring σ → Result σ (List PageEntry)
  | 0, k => (.ok [], k)
  | count + 1, k =>
    match k.addressAt d index with
    | (.error e, k) => (.error e, k)
    | (.ok a, k) =>
      match entriesFrom d (index + 1) count k with
      | (.error e, k) => (.error e, k)
      | (.ok entries, k) => (.ok (⟨a, .ofNat index⟩ :: entries), k)

/-- The largest index that a state can hold; arithmetic on pages stops there. -/
def maxIndex : Nat := UInt64.size - 1

/-- Show a page, counted from one. It becomes the page shown last once all its entries are there. -/
def showPage (d : Device σ) (k : Keyring σ) (page : Nat) : Result σ (List PageEntry) :=
  let start := min ((page - 1) * pageSize) maxIndex
  match checkRange start pageSize with
  | .error e => (.error e, k)
  | .ok () =>
    match entriesFrom d start pageSize k with
    | (.error e, k) => (.error e, k)
    | (.ok entries, k) => (.ok entries, { k with state := { k.state with page := .ofNat page } })

/-- Show the first page. Even if it cannot be shown, the page shown last is forgotten. -/
def firstPage (d : Device σ) (k : Keyring σ) : Result σ (List PageEntry) :=
  showPage d { k with state := { k.state with page := 0 } } 1

def nextPage (d : Device σ) (k : Keyring σ) : Result σ (List PageEntry) :=
  showPage d k (min (k.state.page.toNat + 1) maxIndex)

/-- Show the page before the one shown last, or the first page again. -/
def previousPage (d : Device σ) (k : Keyring σ) : Result σ (List PageEntry) :=
  showPage d k (max (k.state.page.toNat - 1) 1)

/-- Make the device end its pairing, and start anew. -/
def forgetDevice (d : Device σ) (k : Keyring σ) : Keyring σ :=
  new k.kind (d.forget k.device)

/-! ### Signing -/

/-- Let a signature pass only if the address can be recovered from it. -/
def checkSigner (g : Signature) (hash : Hash32) (a : Address) : Except KeyringError Signature :=
  if Secp256k1.recover? g hash = some a then .ok g else .error (.signatureMismatch a)

/-- Sign with the key of an account: `ask` makes the device sign at a path, and what it returns has to be
the account's signature of the hash. -/
def signWith (ask : String → σ → Except DeviceError Signature × σ) (hash : Hash32) (k : Keyring σ)
    (a : Address) : Result σ Signature :=
  match k.state.pathOf? a with
  | none => (.error (.unknownAddress a), k)
  | some path =>
    match ask path k.device with
    | (.error e, device) => (.error (.device e), { k with device })
    | (.ok g, device) => (checkSigner g hash a, { k with device })

def signTransaction (d : Device σ) (k : Keyring σ) (a : Address) (tx : UnsignedTransaction) :
    Result σ SignedTransaction :=
  let (answer, k) := k.signWith (d.signTransaction · tx) tx.signatureHash a
  (answer.map tx.withSignature, k)

def signMessage (d : Device σ) (k : Keyring σ) (a : Address) (message : List UInt8) :
    Result σ Signature :=
  k.signWith (d.signMessage · message) (messageHash message) a

end Keyring
end WalletRelay
