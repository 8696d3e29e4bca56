import WalletRelay.Bytes

/-!
# RLP: writing

Recursive length prefix encoding writes a tree of byte strings. A byte string below `80` stands for
itself; any other item is a header with its kind and length, followed by its payload. A length below
56 is part of the header byte, a longer one is written in as few bytes as possible after it.
-/

namespace WalletRelay.Rlp

/-- The header of a payload of `length` bytes; `base` is `80` for a string and `c0` for a list. -/
def header (base : UInt8) (length : Nat) : List UInt8 :=
  if length < 56 then [base + UInt8.ofNat length]
  else
    let digits := BigEndian.minimal length
    (base + 55 + UInt8.ofNat digits.length) :: digits

def string (bytes : List UInt8) : List UInt8 :=
  match bytes with
  | [b] => if b < 0x80 then [b] else [0x81, b]
  | bytes => header 0x80 bytes.length ++ bytes

/-- A number, as the byte string of its digits without leading zeros. -/
def number (n : Nat) : List UInt8 :=
  string (BigEndian.minimal n)

/-- A list whose items are already written one after the other. -/
def list (payload : List UInt8) : List UInt8 :=
  header 0xC0 payload.length ++ payload

end WalletRelay.Rlp
