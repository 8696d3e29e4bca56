import WalletRelay.Json.Value

/-!
# Reading JSON numbers

A whole number that fits 64 bits is kept exactly. Any other number becomes a double in two roundings:
the leading digits, as many as fit an unsigned 64-bit word, are rounded to a double, and that double
is multiplied by, or divided by, the double nearest to the power of ten. A product beyond the largest
double is no number. A zero with a minus sign is a double, since whole numbers have no such zero.
-/

namespace WalletRelay.Json

def maxWord : Nat := UInt64.size - 1

def digitValue (c : Char) : Nat :=
  c.toNat - 48

/-- Leading digits and the power of ten that belongs to them. -/
structure Scaled where
  significand : Nat
  exponent : Int
deriving DecidableEq, Repr

/-- Take digits before the point while the significand fits a word; each further one scales it. -/
def takeWhole : Nat → List Char → Scaled
  | n, [] => ⟨n, 0⟩
  | n, c :: rest =>
    if 10 * n + digitValue c ≤ maxWord then takeWhole (10 * n + digitValue c) rest
    else ⟨n, rest.length + 1⟩

/-- Take digits after the point while the significand fits a word, and drop the others. -/
def takeFraction : Scaled → List Char → Scaled
  | x, [] => x
  | x, c :: rest =>
    if 10 * x.significand + digitValue c ≤ maxWord then
      takeFraction ⟨10 * x.significand + digitValue c, x.exponent - 1⟩ rest
    else x

/-- The double nearest to a power of ten that has one. -/
def powerOfTen (e : Nat) : Binary64 :=
  (Binary64.ofNat? (Nat.pow 10 e)).getD (Binary64.zero false)

/-- Divide by `10 ^ 308` until the exponent is in reach of the powers of ten. After four divisions
nothing is left of any word. -/
def scaleDown : (fuel : Nat) → Binary64 → Int → Option Binary64
  | 0, x, _ => some x
  | fuel + 1, x, e =>
    if x.isZero then some x
    else if e < -308 then
      match x.div? (powerOfTen 308) with
      | none => none
      | some y => scaleDown fuel y (e + 308)
    else x.div? (powerOfTen (-e).toNat)

/-- The double of a scaled significand; none if it is too large. -/
def Scaled.toBinary64? (x : Scaled) : Option Binary64 :=
  match Binary64.ofNat? x.significand with
  | none => none
  | some f =>
    if f.isZero then some f
    else if 308 < x.exponent then none
    else if 0 ≤ x.exponent then f.mul? (powerOfTen x.exponent.toNat)
    else scaleDown 5 f x.exponent

/-- The parts of a written number: whether it has a minus sign, its digits before the point, those
after the point and the exponent, where they are there. -/
structure WrittenNumber where
  negative : Bool
  whole : List Char
  fraction : Option (List Char)
  exponent : Option Int
deriving DecidableEq, Repr

def withSign (negative : Bool) (x : Binary64) : Binary64 :=
  { x with negative }

/-- The value of a written number; none if it is too large for a double. -/
def WrittenNumber.value? (w : WrittenNumber) : Option JsonNumber :=
  let start := takeWhole 0 w.whole
  match w.fraction, w.exponent with
  | none, none =>
    let n := start.significand
    if start.exponent = 0 then
      if !w.negative then some (.int n)
      else if 0 < n ∧ n ≤ 0x8000000000000000 then some (.int (-n))
      else start.toBinary64?.map fun x => .float (withSign true x)
    else start.toBinary64?.map fun x => .float (withSign w.negative x)
  | fraction, exponent =>
    let scaled := takeFraction start (fraction.getD [])
    let scaled := { scaled with exponent := scaled.exponent + exponent.getD 0 }
    scaled.toBinary64?.map fun x => .float (withSign w.negative x)

end WalletRelay.Json
