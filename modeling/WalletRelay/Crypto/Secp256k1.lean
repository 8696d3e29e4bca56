import WalletRelay.Crypto.Hmac
import WalletRelay.Transaction.Basic

/-!
# Signatures on the curve secp256k1

The curve is `y² = x³ + 7` over the field of `fieldOrder` elements; the points that count form a
group of prime order `groupOrder` with the generator `generator`. A signature of a hash can be
recovered to the public key that made it, and so to an address.

Signing is deterministic: the nonce is drawn from the key and the hash by HMAC with SHA-256. A
signature has its `s` in the lower half of the group order.

Points are computed with in projective form `(x / z², y / z³)`, where `z = 0` is the neutral element.
-/

namespace WalletRelay.Secp256k1

def fieldOrder : Nat := 0xFFFFFFFFFFFFFFFFFFFFFFFFFFFFFFFFFFFFFFFFFFFFFFFFFFFFFFFEFFFFFC2F

def groupOrder : Nat := 0xFFFFFFFFFFFFFFFFFFFFFFFFFFFFFFFEBAAEDCE6AF48A03BBFD25E8CD0364141

/-! ### Arithmetic -/

def powMod (modulus : Nat) (base exponent : Nat) : Nat :=
  if exponent = 0 then 1
  else
    let half := powMod modulus (base * base % modulus) (exponent / 2)
    if exponent % 2 = 1 then half * base % modulus else half

def inverse (prime : Nat) (a : Nat) : Nat :=
  powMod prime a (prime - 2)

private def sub (a b : Nat) : Nat :=
  (a + fieldOrder - b) % fieldOrder

private def mul (a b : Nat) : Nat :=
  a * b % fieldOrder

/-- A point in projective form. -/
structure Point where
  x : Nat
  y : Nat
  z : Nat
deriving DecidableEq, Repr

def neutral : Point :=
  ⟨1, 1, 0⟩

def generator : Point where
  x := 0x79BE667EF9DCBBAC55A06295CE870B07029BFCDB2DCE28D959F2815B16F81798
  y := 0x483ADA7726A3C4655DA4FBFC0E1108A8FD17B448A68554199C47D08FFB10D4B8
  z := 1

namespace Point

def double (p : Point) : Point :=
  if p.z = 0 then neutral
  else
    let a := mul p.x p.x
    let b := mul p.y p.y
    let c := mul b b
    let d := 4 * mul p.x b % fieldOrder
    let e := 3 * a % fieldOrder
    let x := sub (mul e e) (2 * d % fieldOrder)
    ⟨x, sub (mul e (sub d x)) (8 * c % fieldOrder), mul (2 * p.y) p.z⟩

def add (p q : Point) : Point :=
  if p.z = 0 then q
  else if q.z = 0 then p
  else
    let pz := mul p.z p.z
    let qz := mul q.z q.z
    let u := mul p.x qz
    let v := mul q.x pz
    let s := mul p.y (mul qz q.z)
    let t := mul q.y (mul pz p.z)
    if u = v then if s = t then p.double else neutral
    else
      let h := sub v u
      let r := sub t s
      let h2 := mul h h
      let h3 := mul h h2
      let w := mul u h2
      let x := sub (sub (mul r r) h3) (2 * w % fieldOrder)
      ⟨x, sub (mul r (sub w x)) (mul s h3), mul h (mul p.z q.z)⟩

/-- `sum` plus `k` times a point. -/
def addMultiple (p : Point) (k : Nat) (sum : Point) : Point :=
  if k = 0 then sum
  else addMultiple p.double (k / 2) (if k % 2 = 1 then sum.add p else sum)
termination_by k

def multiple (p : Point) (k : Nat) : Point :=
  p.addMultiple k neutral

/-- The coordinates of a point; the neutral element has none. -/
def coordinates? (p : Point) : Option (Nat × Nat) :=
  if p.z = 0 then none
  else
    let i := inverse fieldOrder p.z
    let i2 := mul i i
    some (mul p.x i2, mul p.y (mul i2 i))

/-- The point with abscissa `x` and an ordinate of the given parity. -/
def ofAbscissa? (x : Nat) (odd : Bool) : Option Point :=
  if fieldOrder ≤ x then none
  else
    let square := (x * x * x + 7) % fieldOrder
    let root := powMod fieldOrder square ((fieldOrder + 1) / 4)
    if mul root root ≠ square then none
    else some ⟨x, if (root % 2 == 1) = odd then root else fieldOrder - root, 1⟩

end Point

/-! ### Keys -/

/-- A public key: the coordinates of a point. -/
structure PublicKey where
  x : Nat
  y : Nat
deriving DecidableEq, Repr

namespace PublicKey

/-- The 33-byte form: the parity of the ordinate and the abscissa. -/
def compressed (key : PublicKey) : List UInt8 :=
  (if key.y % 2 = 0 then 2 else 3) :: BigEndian.padded 32 key.x

/-- The address: the end of the hash of the coordinates. -/
def address (key : PublicKey) : Address :=
  FixedBytes.lastBytes 20
    (Keccak.hash (BigEndian.padded 32 key.x ++ BigEndian.padded 32 key.y))

def ofPoint? (p : Point) : Option PublicKey :=
  p.coordinates?.map fun c => ⟨c.1, c.2⟩

end PublicKey

/-- The public key of a secret number between one and the group order. -/
def publicKey (secret : Nat) : PublicKey :=
  (PublicKey.ofPoint? (generator.multiple secret)).getD ⟨0, 0⟩

/-! ### Signing -/

/-- The state from which nonces are drawn. -/
private structure Drawing where
  key : List UInt8
  value : List UInt8

private def Drawing.start (seed : List UInt8) : Drawing :=
  let v0 : List UInt8 := List.replicate 32 1
  let k1 := hmacSha256 (List.replicate 32 0) (v0 ++ [0] ++ seed)
  let v1 := hmacSha256 k1 v0
  let k2 := hmacSha256 k1 (v1 ++ [1] ++ seed)
  ⟨k2, hmacSha256 k2 v1⟩

/-- Draw nonces until one is usable; one that is not has a chance below `2 ^ -127`. -/
private def Drawing.nonce : (fuel : Nat) → Drawing → Nat
  | 0, _ => 1
  | fuel + 1, d =>
    let value := hmacSha256 d.key d.value
    let n := BigEndian.value value
    if 0 < n ∧ n < groupOrder then n
    else
      let key := hmacSha256 d.key (value ++ [0])
      Drawing.nonce fuel ⟨key, hmacSha256 key value⟩

def nonce (secret hash : Nat) : Nat :=
  Drawing.nonce 16
    (Drawing.start (BigEndian.padded 32 secret ++ BigEndian.padded 32 (hash % groupOrder)))

/-- Half of the group order; an `s` above it is replaced by its negative. -/
def halfOrder : Nat := groupOrder / 2

def sign (secret : Nat) (hash : Hash32) : Signature :=
  let z := hash.toNat
  let k := nonce secret z
  let (x, y) := (generator.multiple k).coordinates?.getD (0, 0)
  let r := x % groupOrder
  let s := inverse groupOrder k * ((z + r * secret) % groupOrder) % groupOrder
  let odd := y % 2 == 1
  if halfOrder < s then ⟨BitVec.ofNat 256 r, BitVec.ofNat 256 (groupOrder - s), !odd⟩
  else ⟨BitVec.ofNat 256 r, BitVec.ofNat 256 s, odd⟩

/-! ### Recovery -/

/-- The public key that made a signature of a hash. There is none if `r` or `s` is zero or not below
the group order, or if no point has the abscissa `r`. -/
def recoverKey? (g : Signature) (hash : Hash32) : Option PublicKey :=
  let r := g.r.toNat
  let s := g.s.toNat
  if r = 0 ∨ groupOrder ≤ r ∨ s = 0 ∨ groupOrder ≤ s then none
  else
    let (s, odd) := if halfOrder < s then (groupOrder - s, !g.yParity) else (s, g.yParity)
    match Point.ofAbscissa? r odd with
    | none => none
    | some point =>
      let i := inverse groupOrder r
      let u := groupOrder - i * (hash.toNat % groupOrder) % groupOrder
      let v := i * s % groupOrder
      PublicKey.ofPoint? ((generator.multiple u).add (point.multiple v))

/-- The address whose key made a signature of a hash. -/
def recover? (g : Signature) (hash : Hash32) : Option Address :=
  (recoverKey? g hash).map PublicKey.address

end WalletRelay.Secp256k1
