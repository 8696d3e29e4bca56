import WalletRelay.Bytes
import WalletRelay.Crypto.Keccak
import WalletRelay.Text.Hex

/-!
# Addresses and hashes

An address is twenty bytes: the end of the hash of a public key. It has two written forms. Serialized
state and responses use lower-case digits; messages use the *checksummed* form, in which the hash of
the lower-case digits decides which letters are capitals.
-/

namespace WalletRelay

abbrev Address := FixedBytes 20

abbrev Hash32 := FixedBytes 32

namespace Hash32

def keccak (message : List UInt8) : Hash32 :=
  FixedBytes.lastBytes 32 (Keccak.hash message)

/-- The written form: `0x` and 64 lower-case digits. -/
def toText (h : Hash32) : String :=
  Hex.encodePrefixed h.toList

def toNat (h : Hash32) : Nat :=
  BigEndian.value h.toList

end Hash32

namespace Address

/-- The form used in serialized values: `0x` and 40 lower-case digits. -/
def toText (a : Address) : String :=
  Hex.encodePrefixed a.toList

/-- The position of an address in the order of addresses, which is that of the bytes. -/
def toNat (a : Address) : Nat :=
  BigEndian.value a.toList

theorem toNat_injective {a b : Address} (h : a.toNat = b.toNat) : a = b :=
  FixedBytes.ext (BigEndian.eq_of_value_eq (by rw [a.length_toList, b.length_toList]) h)

/-- Make a letter a capital where the digit of the hash beside it is at least eight. -/
private def capitalize (letter hashDigit : Char) : Char :=
  if hashDigit.toNat < 56 then letter else letter.toUpper

/-- The form used in messages: the capitals are a checksum of the digits. -/
def checksummed (a : Address) : String :=
  let letters := Hex.digits a.toList
  let hash := Keccak.hash (Hex.utf8 letters)
  String.ofList ('0' :: 'x' :: List.zipWith capitalize letters (Hex.digits hash))

/-- Read a hexadecimal address in either letter case, with or without the prefix. -/
def ofText (s : String) : Except Hex.Error Address :=
  match Hex.decodeFixed 20 s with
  | .error e => .error e
  | .ok bytes => if h : bytes.length = 20 then .ok ⟨bytes, h⟩ else .error .wrongLength

end Address
end WalletRelay
