/-!
# Double-precision numbers

A number with a fraction or an exponent is a binary double, kept as a sign, a whole mantissa and a
power of two, so that all arithmetic on it is exact arithmetic on whole numbers followed by one
rounding. Rounding goes to the nearest double, and a tie to the one with an even mantissa.
-/

namespace WalletRelay

/-- The finite double `± mantissa * 2 ^ exponent`. The mantissa is below `2 ^ 53`, the exponent at
least `-1074`, and a mantissa below `2 ^ 52` has the least exponent. -/
structure Binary64 where
  negative : Bool
  mantissa : Nat
  exponent : Int
deriving DecidableEq, Repr

namespace Binary64

def zero (negative : Bool) : Binary64 :=
  ⟨negative, 0, -1074⟩

/-- The whole number nearest to `num / den`, of two the even one. -/
def roundDiv (num den : Nat) : Nat :=
  let q := num / den
  let r := num % den
  if 2 * r < den then q
  else if den < 2 * r then q + 1
  else if q % 2 = 0 then q else q + 1

/-- `num / den` in units of `2 ^ e`, rounded to a whole number. -/
def roundUnits (num den : Nat) (e : Int) : Nat :=
  if 0 ≤ e then roundDiv num (den * Nat.pow 2 e.toNat)
  else roundDiv (num * Nat.pow 2 (-e).toNat) den

/-- The double nearest to the quotient `num / den`; none if it lies beyond the largest double. -/
def ofQuotient? (negative : Bool) (num den : Nat) : Option Binary64 :=
  if num = 0 ∨ den = 0 then some (zero negative)
  else
    let guess : Int := (num.log2 : Int) - (den.log2 : Int) - 52
    let below := roundUnits num den guess < Nat.pow 2 52
    let e := max (if below then guess - 1 else guess) (-1074)
    let m := roundUnits num den e
    let (m, e) := if m = Nat.pow 2 53 then (Nat.pow 2 52, e + 1) else (m, e)
    if 971 < e then none else some ⟨negative, m, e⟩

def ofNat? (n : Nat) : Option Binary64 :=
  ofQuotient? false n 1

/-- The magnitude as a quotient of whole numbers. -/
def magnitude (x : Binary64) : Nat × Nat :=
  if 0 ≤ x.exponent then (x.mantissa * Nat.pow 2 x.exponent.toNat, 1)
  else (x.mantissa, Nat.pow 2 (-x.exponent).toNat)

/-- The rounded product, with the sign of `x`. -/
def mul? (x y : Binary64) : Option Binary64 :=
  let (a, b) := x.magnitude
  let (c, d) := y.magnitude
  ofQuotient? x.negative (a * c) (b * d)

/-- The rounded quotient, with the sign of `x`. -/
def div? (x y : Binary64) : Option Binary64 :=
  let (a, b) := x.magnitude
  let (c, d) := y.magnitude
  ofQuotient? x.negative (a * d) (b * c)

def isZero (x : Binary64) : Bool :=
  x.mantissa == 0

end Binary64
end WalletRelay
