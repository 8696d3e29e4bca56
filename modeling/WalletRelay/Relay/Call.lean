import WalletRelay.Keyring.Basic
import WalletRelay.Relay.Method
import WalletRelay.Transaction.Decode

/-!
# Calls

A call is a method together with its arguments. Arguments come as a list of JSON values; an argument
at the end of the list may be left out, and `null` counts as left out. Both signing methods look at
their second argument, what is to be signed, before their first, the account.
-/

namespace WalletRelay

inductive ArgumentError where
  | missing (position : Nat)
  /-- An argument that is there cannot be read. -/
  | unreadable (position : Nat) (cause : DecodeError)
  /-- Too many accounts are asked for at once. -/
  | tooManyAccounts
  /-- The message to sign is not hexadecimal. -/
  | messageNotHex (cause : Hex.Error)
deriving Repr

/-- Most accounts that one call may add. -/
def maxAddedAccounts : Nat := Keyring.pageSize * 20

def ArgumentError.message : ArgumentError → String
  | .missing position => "missing argument " ++ toString position
  | .unreadable position cause => "argument " ++ toString position ++ ": " ++ cause.message
  | .tooManyAccounts => "cannot add more than " ++ toString maxAddedAccounts ++ " accounts at once"
  | .messageNotHex cause => "message is not hex: " ++ cause.message

/-- Why a request is rejected. Every answer of a keyring can be written as a response, so there is no error
for one that cannot. -/
inductive RelayError where
  /-- The text names no kind of keyring. -/
  | unsupportedKeyring (name : String)
  /-- The text names no method of the keyring. -/
  | unsupportedMethod (kind : KeyringKind) (name : String)
  | invalidArguments (method : Method) (cause : ArgumentError)
  /-- What is to be signed is not a signing payload. -/
  | transaction (cause : TransactionError)
  | keyring (cause : KeyringError)
deriving Repr

def RelayError.message : RelayError → String
  | .unsupportedKeyring name => "Unsupported keyring type: " ++ name
  | .unsupportedMethod kind name =>
    "Method `" ++ name ++ "` is not supported by the " ++ kind.tag ++ " keyring"
  | .invalidArguments method cause =>
    "Invalid arguments for `" ++ method.name ++ "`: " ++ cause.message
  | .transaction cause => cause.message
  | .keyring cause => cause.message

/-- The keyring and the method that a request names. -/
def Method.resolve (kindName methodName : String) : Except RelayError (KeyringKind × Method) :=
  match KeyringKind.ofText? kindName with
  | none => .error (.unsupportedKeyring kindName)
  | some kind =>
    match Method.find? kind methodName with
    | none => .error (.unsupportedMethod kind methodName)
    | some method => .ok (kind, method)

inductive Call where
  | serialize
  | deserialize (serialized : Json)
  | isUnlocked
  | unlock (hdPath : Option String)
  | setAccountToUnlock (index : UInt64)
  | addAccounts (count : Nat)
  | getFirstPage
  | getNextPage
  | getPreviousPage
  | getAccounts
  | removeAccount (address : Address)
  | setHdPath (hdPath : String)
  | forgetDevice
  | signTransaction (address : Address) (tx : UnsignedTransaction)
  | signPersonalMessage (address : Address) (message : List UInt8)
deriving Repr

namespace Call

def method : Call → Method
  | .serialize => .serialize
  | .deserialize _ => .deserialize
  | .isUnlocked => .isUnlocked
  | .unlock _ => .unlock
  | .setAccountToUnlock _ => .setAccountToUnlock
  | .addAccounts _ => .addAccounts
  | .getFirstPage => .getFirstPage
  | .getNextPage => .getNextPage
  | .getPreviousPage => .getPreviousPage
  | .getAccounts => .getAccounts
  | .removeAccount _ => .removeAccount
  | .setHdPath _ => .setHdPath
  | .forgetDevice => .forgetDevice
  | .signTransaction .. => .signTransaction
  | .signPersonalMessage .. => .signPersonalMessage

/-! ### Arguments -/

section Arguments

variable {α : Type} (args : List Json)

def optional (decode : Json → Decoded α) (position : Nat) : Except ArgumentError (Option α) :=
  match args[position]? with
  | none => .ok none
  | some .null => .ok none
  | some j =>
    match decode j with
    | .error e => .error (.unreadable position e)
    | .ok a => .ok (some a)

def required (decode : Json → Decoded α) (position : Nat) : Except ArgumentError α :=
  match optional args decode position with
  | .error e => .error e
  | .ok none => .error (.missing position)
  | .ok (some a) => .ok a

/-- A number of accounts to add; one unless it is given. -/
def accountCount : Except ArgumentError Nat :=
  match optional args Json.asIndex 0 with
  | .error e => .error e
  | .ok none => .ok 1
  | .ok (some n) => if maxAddedAccounts < n.toNat then .error .tooManyAccounts else .ok n.toNat

/-- A message to sign, in hexadecimal between blanks. -/
def messageBytes : Except ArgumentError (List UInt8) :=
  match required args Json.asText 1 with
  | .error e => .error e
  | .ok text => (Hex.decode (Text.trim text)).mapError .messageNotHex

end Arguments

def parse (method : Method) (args : List Json) : Except RelayError Call :=
  let refuse : ArgumentError → RelayError := .invalidArguments method
  match method with
  | .serialize => .ok .serialize
  | .deserialize => ((required args .ok 0).map .deserialize).mapError refuse
  | .isUnlocked => .ok .isUnlocked
  | .unlock => ((optional args Json.asText 0).map .unlock).mapError refuse
  | .setAccountToUnlock =>
    ((required args Json.asIndex 0).map .setAccountToUnlock).mapError refuse
  | .addAccounts => ((accountCount args).map .addAccounts).mapError refuse
  | .getFirstPage => .ok .getFirstPage
  | .getNextPage => .ok .getNextPage
  | .getPreviousPage => .ok .getPreviousPage
  | .getAccounts => .ok .getAccounts
  | .removeAccount => ((required args Json.asAddress 0).map .removeAccount).mapError refuse
  | .setHdPath => ((required args Json.asText 0).map .setHdPath).mapError refuse
  | .forgetDevice => .ok .forgetDevice
  | .signTransaction => do
    let text ← (required args Json.asText 1).mapError refuse
    let address ← (required args Json.asAddress 0).mapError refuse
    let tx ← (UnsignedTransaction.ofHex text).mapError .transaction
    return .signTransaction address tx
  | .signPersonalMessage => do
    let message ← (messageBytes args).mapError refuse
    let address ← (required args Json.asAddress 0).mapError refuse
    return .signPersonalMessage address message

/-! ### Running a call -/

def addressesToJson (addresses : List Address) : Json :=
  .array (addresses.map fun a => .string a.toText)

def pageToJson (entries : List PageEntry) : Json :=
  .array (entries.map PageEntry.toJson)

/-- The answer of an operation as a response. -/
def respond {σ α : Type} (toJson : α → Json) (r : Keyring.Result σ α) : Keyring.Result σ Json :=
  (r.1.map toJson, r.2)

/-- Run a call on a keyring; the answer is the response to the caller. -/
def invoke {σ : Type} (d : Device σ) (k : Keyring σ) : Call → Keyring.Result σ Json
  | .serialize => (.ok k.state.toJson, k)
  | .deserialize serialized => respond (fun _ => .null) (k.restore serialized)
  | .isUnlocked =>
    let (answer, k) := k.isUnlocked d
    (.ok (.bool answer), k)
  | .unlock hdPath => respond (fun a => .string a.toText) (k.unlock d hdPath)
  | .setAccountToUnlock index => (.ok .null, k.setAccountToUnlock index)
  | .addAccounts count => respond addressesToJson (k.addAccounts d count)
  | .getFirstPage => respond pageToJson (k.firstPage d)
  | .getNextPage => respond pageToJson (k.nextPage d)
  | .getPreviousPage => respond pageToJson (k.previousPage d)
  | .getAccounts => (.ok (addressesToJson k.state.accounts), k)
  | .removeAccount address => respond (fun _ => .null) (k.removeAccount address)
  | .setHdPath hdPath => (.ok .null, k.setHdPath hdPath)
  | .forgetDevice => (.ok .null, k.forgetDevice d)
  | .signTransaction address tx =>
    respond (fun signed => .string signed.toHex) (k.signTransaction d address tx)
  | .signPersonalMessage address message =>
    respond (fun g => .string (Hex.encodePrefixed g.toBytes)) (k.signMessage d address message)

end Call
end WalletRelay
