import WalletRelay.Json.Decode
import WalletRelay.Keyring.AddressMap
import WalletRelay.Keyring.Kind

/-!
# Keyring states

The state of a keyring says where its accounts are looked for and which of them are in use. It is
held by the caller, who hands it back with every call, so it has a serialized form.

The path of an account is made from the root path and the index of the account. Under the Ledger Live
root the index replaces the account level; under any other root it is appended.

A serialized state is an object; missing fields have defaults, the root path that of the kind.
-/

namespace WalletRelay

/-- The characters of a path without the slashes at its end. -/
def dropTrailingSlashes (cs : List Char) : List Char :=
  (cs.reverse.dropWhile (· == '/')).reverse

/-- The path of the account `index` under the root `root`. -/
def accountPath (root : String) (index : Nat) : String :=
  if root = ledgerLivePath then "m/44'/60'/" ++ toString index ++ "'/0/0"
  else String.ofList (dropTrailingSlashes root.toList) ++ "/" ++ toString index

/-- Where an account in use lives on its device. -/
structure AccountDetails where
  hdPath : String
  index : UInt64
deriving DecidableEq, Repr

structure KeyringState where
  /-- The root path. -/
  hdPath : String
  /-- The accounts in use, in the order in which they were added. -/
  accounts : List Address
  /-- Where each account was found. -/
  accountDetails : AddressMap AccountDetails
  /-- The page shown last; zero before the first. -/
  page : UInt64
  /-- The index from which accounts are added. -/
  unlockedAccount : UInt64
deriving DecidableEq, Repr

/-! ### Details of an account -/

namespace AccountDetails

def toJson (d : AccountDetails) : Json :=
  .object [("hdPath", .string d.hdPath), ("index", .ofNat d.index.toNat)]

/-- The fields found while reading details. -/
structure Draft where
  hdPath : Option String
  index : Option UInt64

def Draft.visit (draft : Draft) (name : String) (value : Json) : Decoded Draft :=
  if name = "hdPath" then value.asText.map fun v => { draft with hdPath := some v }
  else if name = "index" then value.asIndex.map fun v => { draft with index := some v }
  else .ok draft

def ofJson (j : Json) : Decoded AccountDetails := do
  let r ← Json.visitFields "AccountDetails" ["hdPath", "index"] Draft.visit ⟨none, none⟩ j
  let hdPath ← r.require "hdPath" r.found.hdPath
  let index ← r.require "index" r.found.index
  return ⟨hdPath, index⟩

/-- Take in the details of one address. -/
def visitEntry (details : AddressMap AccountDetails) (name : String) (value : Json) :
    Decoded (AddressMap AccountDetails) := do
  let address ← Json.addressOfText name
  let d ← ofJson value
  return details.insert address d

/-- Read the details of all accounts: an object with addresses as names. Of several spellings of one
address the last counts. -/
def allOfJson : Json → Decoded (AddressMap AccountDetails)
  | .object fields => fields.foldlM (fun details f => visitEntry details f.1 f.2) .empty
  | j => .error (.invalidType j "a map")

end AccountDetails

/-! ### States -/

namespace KeyringState

def new (hdPath : String) : KeyringState :=
  ⟨hdPath, [], .empty, 0, 0⟩

def contains (s : KeyringState) (a : Address) : Bool :=
  s.accounts.contains a

def pathOf? (s : KeyringState) (a : Address) : Option String :=
  (s.accountDetails.get? a).map (·.hdPath)

/-- Take an account into use, unless it is in use already. -/
def track (s : KeyringState) (a : Address) (d : AccountDetails) : KeyringState :=
  if s.contains a then s
  else { s with accounts := s.accounts ++ [a], accountDetails := s.accountDetails.insert a d }

def forget (s : KeyringState) (a : Address) : KeyringState :=
  { s with
    accounts := s.accounts.filter fun b => decide (b ≠ a)
    accountDetails := s.accountDetails.erase a }

/-- Change the root path; a new root starts with the first page and the first account. -/
def setRoot (s : KeyringState) (hdPath : String) : KeyringState :=
  if s.hdPath = hdPath then s else { s with hdPath, page := 0, unlockedAccount := 0 }

def toJson (s : KeyringState) : Json :=
  .object
    [("accountDetails",
        .object (s.accountDetails.entries.map fun e => (e.1.toText, e.2.toJson))),
      ("accounts", .array (s.accounts.map fun a => .string a.toText)),
      ("hdPath", .string s.hdPath),
      ("page", .ofNat s.page.toNat),
      ("unlockedAccount", .ofNat s.unlockedAccount.toNat)]

/-- The fields found while reading a state. -/
structure Draft where
  hdPath : Option String
  accounts : Option (List Address)
  accountDetails : Option (AddressMap AccountDetails)
  page : Option UInt64
  unlockedAccount : Option UInt64

def Draft.visit (draft : Draft) (name : String) (value : Json) : Decoded Draft :=
  if name = "hdPath" then value.asText.map fun v => { draft with hdPath := some v }
  else if name = "accounts" then
    (value.asList Json.asAddress).map fun v => { draft with accounts := some v }
  else if name = "accountDetails" then
    (AccountDetails.allOfJson value).map fun v => { draft with accountDetails := some v }
  else if name = "page" then value.asIndex.map fun v => { draft with page := some v }
  else if name = "unlockedAccount" then
    value.asIndex.map fun v => { draft with unlockedAccount := some v }
  else .ok draft

def fieldNames : List String :=
  ["hdPath", "accounts", "accountDetails", "page", "unlockedAccount"]

/-- An object without a root path gets the default one; other values stay as they are. -/
def withDefaultRoot (defaultPath : String) : Json → Json
  | .object fields =>
    if (fields.lookup "hdPath").isSome then .object fields
    else .object (Json.insertField "hdPath" (.string defaultPath) fields)
  | j => j

/-- Read a serialized state. -/
def ofJson (defaultPath : String) (j : Json) : Decoded KeyringState := do
  let r ← Json.visitFields "KeyringState" fieldNames Draft.visit ⟨none, none, none, none, none⟩
    (withDefaultRoot defaultPath j)
  let hdPath ← r.require "hdPath" r.found.hdPath
  return {
    hdPath
    accounts := r.found.accounts.getD []
    accountDetails := r.found.accountDetails.getD .empty
    page := r.found.page.getD 0
    unlockedAccount := r.found.unlockedAccount.getD 0 }

end KeyringState
end WalletRelay
