/-!
# Decimal numerals

Numbers in configuration values and derivation paths: an optional plus sign and ASCII digits, with no
blanks around them.
-/

namespace WalletRelay.Numeral

inductive Error where
  /-- There are no characters at all. -/
  | empty
  /-- A character is not a digit; so is a sign that stands alone. -/
  | invalidDigit
  /-- The number is too large. -/
  | tooLarge
deriving DecidableEq, Repr

def Error.message : Error → String
  | .empty => "cannot parse integer from empty string"
  | .invalidDigit => "invalid digit found in string"
  | .tooLarge => "number too large to fit in target type"

/-- Read digits into a number below `bound`. The first character that makes a difference wins: one
that is no digit, or the digit that takes the number out of range. -/
def readDigits (bound : Nat) : (value : Nat) → List Char → Except Error Nat
  | n, [] => .ok n
  | n, c :: rest =>
    if c.isDigit then
      let next := 10 * n + (c.toNat - 48)
      if bound ≤ next then .error .tooLarge else readDigits bound next rest
    else .error .invalidDigit

def read (bound : Nat) : List Char → Except Error Nat
  | [] => .error .empty
  | '+' :: [] => .error .invalidDigit
  | '+' :: digits => readDigits bound 0 digits
  | digits => readDigits bound 0 digits

end WalletRelay.Numeral
