import WalletRelay.Crypto.Secp256k1
import WalletRelay.Keyring.Device
import WalletRelay.Wallet.Mnemonic

/-!
# Emulated devices

An emulated device derives its keys from a recovery phrase. It keeps the keys that it has derived until
it is told to forget them; `emulatedAfresh` keeps none and answers the same.

A device fails where a path or the phrase is at fault. Signing with a key that was derived always gives a
signature: that a nonce leads to a zero, which is the only reason to refuse, is left out.
-/

namespace WalletRelay

/-- The keys that an emulated device has derived, by path. -/
abbrev DerivedKeys := List (String × Nat)

namespace Device

def malformedPath (path : String) : DeviceError :=
  .invalidPath (path ++ ": Malformatted index during derivation: " ++ path)

/-- The secret number at a path; the path is looked at before the phrase. -/
def deriveSecret (root : Except PhraseError ExtendedKey) (path : String) : Except DeviceError Nat :=
  match DerivationPath.parse? path with
  | none => .error (malformedPath path)
  | some indices =>
    match root with
    | .error e => .error (.communication e.message)
    | .ok key => .ok (key.descend indices).secret

/-- The secret number at a path, from the keys derived before if it is among them. -/
def lookUpSecret (root : Except PhraseError ExtendedKey) (path : String) (keys : DerivedKeys) :
    Except DeviceError Nat × DerivedKeys :=
  match keys.lookup path with
  | some secret => (.ok secret, keys)
  | none =>
    match deriveSecret root path with
    | .error e => (.error e, keys)
    | .ok secret => (.ok secret, (path, secret) :: keys)

def addressOfSecret (secret : Nat) : Address :=
  (Secp256k1.publicKey secret).address

/-- The device with the keys below a root key, if there is one. -/
def emulatedFrom (root : Except PhraseError ExtendedKey) : Device DerivedKeys where
  isConnected keys := (true, keys)
  address path keys :=
    let (secret, keys) := lookUpSecret root path keys
    (secret.map addressOfSecret, keys)
  signTransaction path tx keys :=
    let (secret, keys) := lookUpSecret root path keys
    (secret.map fun secret => Secp256k1.sign secret tx.signatureHash, keys)
  signMessage path message keys :=
    let (secret, keys) := lookUpSecret root path keys
    (secret.map fun secret => Secp256k1.sign secret (messageHash message), keys)
  forget _ := []

/-- The device with the keys of a recovery phrase. -/
def emulated (phrase : String) : Device DerivedKeys :=
  emulatedFrom (Mnemonic.rootKey phrase)

/-- The device with the keys below a root key that derives each key when it is needed. -/
def emulatedAfresh (root : Except PhraseError ExtendedKey) : Device Unit where
  isConnected u := (true, u)
  address path u := ((deriveSecret root path).map addressOfSecret, u)
  signTransaction path tx u :=
    ((deriveSecret root path).map fun secret => Secp256k1.sign secret tx.signatureHash, u)
  signMessage path message u :=
    ((deriveSecret root path).map fun secret => Secp256k1.sign secret (messageHash message), u)
  forget u := u

end Device
end WalletRelay
