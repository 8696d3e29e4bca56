import WalletRelay.Number.Binary64

/-!
# The shortest decimal of a double

A double is printed with the fewest decimal digits that read back as the same double; of several such
decimals the nearest is taken. The search tries one digit, then two, and so on: on each decimal grid
only the two neighbours of the value need to be looked at, because if any point of the grid reads
back, so does one of those.
-/

namespace WalletRelay

/-- The decimal `digits * 10 ^ exponent`. -/
structure Decimal where
  digits : Nat
  exponent : Int
deriving DecidableEq, Repr

namespace Decimal

/-- The value as a quotient of whole numbers. -/
def quotient (d : Decimal) : Nat × Nat :=
  if 0 ≤ d.exponent then (d.digits * Nat.pow 10 d.exponent.toNat, 1)
  else (d.digits, Nat.pow 10 (-d.exponent).toNat)

/-- The same value without zeros at the end of the digits; `fuel` bounds their number. -/
def normalize : (fuel : Nat) → Decimal → Decimal
  | 0, d => d
  | fuel + 1, d =>
    if d.digits ≠ 0 ∧ d.digits % 10 = 0 then normalize fuel ⟨d.digits / 10, d.exponent + 1⟩ else d

end Decimal

namespace Binary64

/-- Whether a decimal magnitude reads back as the magnitude of `x`. -/
def readsBack (x : Binary64) (d : Decimal) : Bool :=
  let (num, den) := d.quotient
  ofQuotient? x.negative num den == some x

/-- The whole part of `x / 10 ^ e` for the magnitude of `x`. -/
def gridFloor (x : Binary64) (e : Int) : Nat :=
  let (num, den) := x.magnitude
  if 0 ≤ e then num / (den * Nat.pow 10 e.toNat) else num * Nat.pow 10 (-e).toNat / den

/-- The exponent of the first decimal digit of a magnitude that is not zero. -/
def decimalExponent (x : Binary64) : Int :=
  let (num, den) := x.magnitude
  let guess : Int := (Nat.toDigits 10 num).length - (Nat.toDigits 10 den).length
  if x.gridFloor guess = 0 then guess - 1 else guess

/-- Twice the distance of `x` from the lower neighbour `d * 10 ^ e`, compared with the grid step. -/
def nearerUp (x : Binary64) (d : Nat) (e : Int) : Ordering :=
  let (num, den) := x.magnitude
  if 0 ≤ e then compare (2 * num) ((2 * d + 1) * Nat.pow 10 e.toNat * den)
  else compare (2 * num * Nat.pow 10 (-e).toNat) ((2 * d + 1) * den)

/-- The decimal with `count` digits that reads back and lies nearest, if there is one. -/
def withDigits? (x : Binary64) (count : Nat) : Option Decimal :=
  let e := x.decimalExponent - count + 1
  let d := x.gridFloor e
  let low : Decimal := ⟨d, e⟩
  let high : Decimal := ⟨d + 1, e⟩
  match x.readsBack low, x.readsBack high with
  | true, false => some low
  | false, true => some high
  | false, false => none
  | true, true =>
    match x.nearerUp d e with
    | .lt => some low
    | .gt => some high
    | .eq => some (if d % 2 = 0 then low else high)

/-- The shortest decimal that reads back as the magnitude of `x`. Seventeen digits always do. -/
def shortest (x : Binary64) : Decimal :=
  if x.isZero then ⟨0, 0⟩
  else
    let found := (List.range 17).findSome? fun i => x.withDigits? (i + 1)
    (found.getD ⟨0, 0⟩).normalize 20

/-- How a decimal is laid out. -/
structure Layout where
  /-- The least exponent of the first digit that is written without an exponent. -/
  leastPlain : Int
  /-- The greatest exponent of the first digit that is written without an exponent. -/
  greatestPlain : Int

/-- Numbers in messages and in printed values: plain from `0.00001` up to sixteen digits before the
point, otherwise with a signed exponent. -/
def messageLayout : Layout :=
  ⟨-5, 15⟩

/-- The digits of a magnitude under a layout; a plain number has at least one decimal. -/
def layOut (layout : Layout) (d : Decimal) : List Char :=
  let ds := Nat.toDigits 10 d.digits
  let first : Int := d.exponent + ds.length - 1
  if layout.leastPlain ≤ first ∧ first ≤ layout.greatestPlain then
    if 0 ≤ d.exponent then ds ++ List.replicate d.exponent.toNat '0' ++ ['.', '0']
    else if 0 ≤ first then
      ds.take (first.toNat + 1) ++ '.' :: ds.drop (first.toNat + 1)
    else ['0', '.'] ++ List.replicate (-first - 1).toNat '0' ++ ds
  else
    let mantissa := match ds with
      | [] => []
      | [c] => [c]
      | c :: rest => c :: '.' :: rest
    let sign := if first < 0 then '-' else '+'
    mantissa ++ ['e', sign] ++ Nat.toDigits 10 first.natAbs

def toText (x : Binary64) : String :=
  let body := layOut messageLayout x.shortest
  String.ofList (if x.negative then '-' :: body else body)

end Binary64
end WalletRelay
