import WalletRelay.Crypto.Sha256
import WalletRelay.Crypto.Sha512

/-!
# Keyed hashes and stretched keys

HMAC hashes the key, the message and the key again. With SHA-512 the two states after the key blocks
are kept, because stretching a pass phrase applies the same key thousands of times.
-/

namespace WalletRelay

/-- The key as one block, hashed first if it is longer, combined with a constant byte. -/
private def keyBlock (hash : List UInt8 → List UInt8) (blockSize : Nat) (key : List UInt8)
    (byte : UInt8) : List UInt8 :=
  let key := if blockSize < key.length then hash key else key
  (key ++ List.replicate (blockSize - key.length) 0).map (· ^^^ byte)

def hmacSha256 (key message : List UInt8) : List UInt8 :=
  let block := keyBlock Sha256.hash Sha256.blockSize key
  Sha256.hash (block 0x5C ++ Sha256.hash (block 0x36 ++ message))

/-- An HMAC key for SHA-512: the states after the inner and the outer key block. -/
structure HmacKey where
  inner : Sha512.State
  outer : Sha512.State
deriving DecidableEq, Repr

namespace HmacKey

/-- The state after a single whole block. -/
private def stateAfter (block : List UInt8) : Sha512.State :=
  Sha512.State.initial.compress <| (Array.range 16).map fun i =>
    ((block.drop (8 * i)).take 8).foldl (fun w b => (w <<< 8) ||| b.toUInt64) 0

def ofBytes (key : List UInt8) : HmacKey :=
  let block := keyBlock Sha512.hash Sha512.blockSize key
  ⟨stateAfter (block 0x36), stateAfter (block 0x5C)⟩

/-- The last block of a message that is one key block followed by a digest. -/
private def digestBlock (s : Sha512.State) : Array UInt64 :=
  #[s.a, s.b, s.c, s.d, s.e, s.f, s.g, s.h, 0x8000000000000000, 0, 0, 0, 0, 0, 0, 1536]

/-- The final state of the keyed hash of a message. -/
def authenticate (key : HmacKey) (message : List UInt8) : Sha512.State :=
  key.outer.compress (digestBlock (key.inner.finish Sha512.blockSize message))

/-- The final state of the keyed hash of a digest. -/
def authenticateDigest (key : HmacKey) (digest : Sha512.State) : Sha512.State :=
  key.outer.compress (digestBlock (key.inner.compress (digestBlock digest)))

end HmacKey

def hmacSha512 (key message : List UInt8) : List UInt8 :=
  ((HmacKey.ofBytes key).authenticate message).digest

private def combine (s t : Sha512.State) : Sha512.State :=
  ⟨s.a ^^^ t.a, s.b ^^^ t.b, s.c ^^^ t.c, s.d ^^^ t.d, s.e ^^^ t.e, s.f ^^^ t.f, s.g ^^^ t.g,
    s.h ^^^ t.h⟩

/-- Apply a key `rounds` times to its own result, and add up all results. -/
private def stretch (key : HmacKey) : (rounds : Nat) → (last sum : Sha512.State) → Sha512.State
  | 0, _, sum => sum
  | rounds + 1, last, sum =>
    let next := key.authenticateDigest last
    stretch key rounds next (combine sum next)

def pbkdf2Sha512 (password salt : List UInt8) (rounds : Nat) : List UInt8 :=
  let key := HmacKey.ofBytes password
  let first := key.authenticate (salt ++ [0, 0, 0, 1])
  (stretch key (rounds - 1) first first).digest

end WalletRelay
