import WalletRelay.Crypto.Secp256k1
import WalletRelay.Text.Numeral
import WalletRelay.Text.Split

/-!
# Derived keys

A wallet is a tree of keys. A step down the tree is a 32-bit index; from `2 ^ 31` on it is *hardened*,
which means that it cannot be taken with the public key alone. A path is written as its indices
between slashes; an index below `2 ^ 31` is hardened by a `'` or `h` behind it, and components that
are just `m` stand for the root and are passed over.
-/

namespace WalletRelay

def hardenedStart : Nat := 0x80000000

namespace DerivationPath

def component? (text : List Char) : Option UInt32 :=
  let (digits, hardened) : List Char × Bool := match text.getLast? with
    | some c => if c = '\'' ∨ c = 'h' then (text.dropLast, true) else (text, false)
    | none => (text, false)
  match Numeral.read UInt32.size digits with
  | .error _ => none
  | .ok n => some (UInt32.ofNat (if hardened then n + hardenedStart else n))

/-- The indices of a path. -/
def parse? (path : String) : Option (List UInt32) :=
  ((Text.splitAt '/' path.toList).filter (· ≠ ['m'])).mapM component?

end DerivationPath

/-- A key of the tree: the secret number and the code that separates its children. -/
structure ExtendedKey where
  secret : Nat
  chainCode : List UInt8
deriving DecidableEq, Repr

namespace ExtendedKey

private def ofDigest (offset : Nat) (digest : List UInt8) : ExtendedKey :=
  ⟨(BigEndian.value (digest.take 32) + offset) % Secp256k1.groupOrder, digest.drop 32⟩

def root (seed : List UInt8) : ExtendedKey :=
  ofDigest 0 (hmacSha512 (Hex.utf8 "Bitcoin seed".toList) seed)

def child (key : ExtendedKey) (index : UInt32) : ExtendedKey :=
  let data :=
    if hardenedStart ≤ index.toNat then 0 :: BigEndian.padded 32 key.secret
    else (Secp256k1.publicKey key.secret).compressed
  ofDigest key.secret (hmacSha512 key.chainCode (data ++ BigEndian.padded 4 index.toNat))

def descend (key : ExtendedKey) (path : List UInt32) : ExtendedKey :=
  path.foldl child key

end ExtendedKey
end WalletRelay
