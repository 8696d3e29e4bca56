/-!
# Punycode

A label with characters beyond ASCII is written with the letters, digits and hyphens of domain names: its
ASCII characters first, then, for every other character in the order of code points, how far to go on
from the one before. Distances are numbers of variable length whose digit thresholds adapt to the size
of the distances so far.
-/

namespace WalletRelay.Url.Punycode

def digit (value : Nat) : Char :=
  Char.ofNat (if value < 26 then 97 + value else 22 + value)

def digitValue? (c : Char) : Option Nat :=
  let n := c.toLower.toNat
  if 97 ≤ n ∧ n ≤ 122 then some (n - 97) else if 48 ≤ n ∧ n ≤ 57 then some (n - 22) else none

/-- The threshold of the digit at `place`: a digit below it is the last one. -/
def threshold (bias place : Nat) : Nat :=
  min 26 (max 1 (36 * (place + 1) - bias))

theorem threshold_pos (bias place : Nat) : 0 < threshold bias place := by
  unfold threshold; omega

/-- The digits of a distance from `place` on. -/
def distanceDigits (bias place distance : Nat) : List Char :=
  let t := threshold bias place
  if distance < t then [digit distance]
  else
    digit (t + (distance - t) % (36 - t)) ::
      distanceDigits bias (place + 1) ((distance - t) / (36 - t))
termination_by distance
decreasing_by
  have low := threshold_pos bias place
  exact Nat.lt_of_le_of_lt (Nat.div_le_self _ _) (by omega)

/-- The bias that a damped distance gives: 36 for each time it is divided by 35 until it is small, and a
share of 36 for what is left. -/
def scale (distance steps : Nat) : Nat :=
  if 455 < distance then scale (distance / 35) (steps + 1)
  else 36 * steps + 36 * distance / (distance + 38)
termination_by distance
decreasing_by exact Nat.div_lt_self (by omega) (by omega)

/-- The bias after a distance; `count` characters are in place by then. -/
def nextBias (distance count : Nat) (isFirst : Bool) : Nat :=
  let damped := if isFirst then distance / 700 else distance / 2
  scale (damped + damped / count) 0

/-! ### Writing -/

structure Writer where
  digits : List Char
  distance : Nat
  bias : Nat
  /-- How many characters are in place. -/
  count : Nat

/-- Pass a character of the label while the ones with code point `n` are put into place. -/
def Writer.pass (basic n : Nat) (w : Writer) (c : Char) : Writer :=
  if c.toNat < n then { w with distance := w.distance + 1 }
  else if c.toNat = n then
    { digits := w.digits ++ distanceDigits w.bias 0 w.distance
      distance := 0
      bias := nextBias w.distance (w.count + 1) (w.count == basic)
      count := w.count + 1 }
  else w

/-- Put the characters with the given code points into place, the next one possible being `next`. -/
def Writer.place (label : List Char) (basic : Nat) : (codes : List Nat) → (next : Nat) → Writer → Writer
  | [], _, w => w
  | n :: codes, next, w =>
    let w := { w with distance := w.distance + (n - next) * (w.count + 1) }
    let w := label.foldl (Writer.pass basic n) w
    place label basic codes (n + 1) { w with distance := w.distance + 1 }

def encode (label : List Char) : List Char :=
  let basic := label.filter fun c => decide (c.toNat < 128)
  let others := (label.map Char.toNat).filter fun n => decide (128 ≤ n)
  let codes := (others.mergeSort (· ≤ ·)).eraseDups
  let w := Writer.place label basic.length codes 128 ⟨[], 0, 72, basic.length⟩
  basic ++ (if basic.isEmpty then [] else ['-']) ++ w.digits

/-! ### Reading -/

/-- Read a distance of weight `weight` onto `sum`: the sum and the text after it. -/
def readDistance? (bias : Nat) : (place weight sum : Nat) → List Char → Option (Nat × List Char)
  | _, _, _, [] => none
  | place, weight, sum, c :: rest =>
    match digitValue? c with
    | none => none
    | some v =>
      let t := threshold bias place
      if v < t then some (sum + v * weight, rest)
      else readDistance? bias (place + 1) (weight * (36 - t)) (sum + v * weight) rest

/-- Read the characters beyond ASCII into their places; `fuel` bounds their number. -/
def readPlaces? : (fuel bias code position : Nat) → (label : List Char) → List Char → Option (List Char)
  | _, _, _, _, label, [] => some label
  | 0, _, _, _, _, _ :: _ => none
  | fuel + 1, bias, code, position, label, c :: rest =>
    match readDistance? bias 0 1 position (c :: rest) with
    | none => none
    | some (sum, rest) =>
      let count := label.length + 1
      let code := code + sum / count
      let place := sum % count
      if h : code.isValidChar then
        let label := label.take place ++ Char.ofNatAux code h :: label.drop place
        readPlaces? fuel (nextBias (sum - position) count (position == 0)) code (place + 1) label rest
      else none

/-- Read a label. A hyphen stands behind ASCII characters and not at the start. -/
def decode? (cs : List Char) : Option (List Char) :=
  match cs.reverse.span (· != '-') with
  | (_, ['-']) => none
  | (tail, front) =>
    let basic := front.tail.reverse
    if basic.all fun c => decide (c.toNat < 128) then
      readPlaces? cs.length 72 128 0 basic tail.reverse
    else none

end WalletRelay.Url.Punycode
