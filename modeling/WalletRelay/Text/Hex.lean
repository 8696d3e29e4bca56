import WalletRelay.Text.Quoted

/-!
# Hexadecimal texts

Bytes travel as hexadecimal digits, two for each byte, the high half first. Writing uses lower-case
digits and no prefix; reading accepts both letter cases and one optional `0x` or `0X`.

Reading works on the UTF-8 bytes of the text, so a position in a message counts bytes after the
prefix. An odd number of bytes is reported before any character that is not a digit.
-/

namespace WalletRelay.Hex

inductive Error where
  /-- The number of digits is odd. -/
  | oddLength
  /-- The number of digits does not fit the fixed length asked for. -/
  | wrongLength
  /-- The byte at `position`, read as a Latin-1 character, is not a digit. -/
  | badDigit (byte : UInt8) (position : Nat)
deriving DecidableEq, Repr

def Error.message : Error → String
  | .oddLength => "odd number of digits"
  | .wrongLength => "invalid string length"
  | .badDigit byte position =>
    "invalid character " ++ Text.quoteChar (Char.ofNat byte.toNat) ++ " at position " ++
      toString position

/-! ### Writing -/

def digitPair (b : UInt8) : List Char :=
  [Nat.digitChar (b.toNat / 16), Nat.digitChar (b.toNat % 16)]

/-- The digits of a byte string. -/
def digits (bytes : List UInt8) : List Char :=
  bytes.flatMap digitPair

def encode (bytes : List UInt8) : String :=
  String.ofList (digits bytes)

def encodePrefixed (bytes : List UInt8) : String :=
  String.ofList ('0' :: 'x' :: digits bytes)

/-! ### Reading -/

/-- The value of an ASCII hexadecimal digit in either letter case. -/
def digitValue? (b : UInt8) : Option Nat :=
  let n := b.toNat
  if 48 ≤ n ∧ n ≤ 57 then some (n - 48)
  else if 97 ≤ n ∧ n ≤ 102 then some (n - 87)
  else if 65 ≤ n ∧ n ≤ 70 then some (n - 55)
  else none

/-- The text after its optional prefix. -/
def dropPrefix : List Char → List Char
  | '0' :: 'x' :: r => r
  | '0' :: 'X' :: r => r
  | cs => cs

def utf8 (cs : List Char) : List UInt8 :=
  cs.flatMap String.utf8EncodeChar

/-- Read pairs of digits; `position` is the place of the first of them. A last unpaired digit is
passed over: callers have refused odd lengths before. -/
def decodePairs (position : Nat) : List UInt8 → Except Error (List UInt8)
  | high :: low :: rest =>
    match digitValue? high, digitValue? low with
    | none, _ => .error (.badDigit high position)
    | some _, none => .error (.badDigit low (position + 1))
    | some h, some l => (decodePairs (position + 2) rest).map (UInt8.ofNat (16 * h + l) :: ·)
  | _ => .ok []

def decode (s : String) : Except Error (List UInt8) :=
  let bytes := utf8 (dropPrefix s.toList)
  if bytes.length % 2 = 1 then .error .oddLength else decodePairs 0 bytes

def decodeFixed (size : Nat) (s : String) : Except Error (List UInt8) :=
  let bytes := utf8 (dropPrefix s.toList)
  if bytes.length % 2 = 1 then .error .oddLength
  else if bytes.length ≠ 2 * size then .error .wrongLength
  else decodePairs 0 bytes

end WalletRelay.Hex
