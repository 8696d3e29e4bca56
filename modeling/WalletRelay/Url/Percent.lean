import WalletRelay.Text.Hex

/-!
# Percent-encoding

A character that may not stand in a part of a URL is written as its UTF-8 bytes, each behind a percent
sign. Which ASCII characters these are depends on the part; control characters and everything beyond
ASCII are among them everywhere. A percent sign is not, so what is encoded already stays as it is.
-/

namespace WalletRelay.Url

/-- The characters that are encoded in every part. -/
def isEncodedEverywhere (c : Char) : Bool :=
  c.toNat < 0x20 || 0x7E < c.toNat

def fragmentSet : List Char :=
  [' ', '"', '<', '>', '`']

def querySet : List Char :=
  [' ', '"', '#', '<', '>']

/-- The further characters that are encoded in a query of a special scheme. -/
def specialQuerySet : List Char :=
  '\'' :: querySet

def pathSet : List Char :=
  ['#', '?', '\x7b', '\x7d'] ++ fragmentSet

def userSet : List Char :=
  ['/', ':', ';', '=', '@', '[', '\\', ']', '^', '|'] ++ pathSet

def encodedByte (b : UInt8) : List Char :=
  '%' :: (Hex.digitPair b).map Char.toUpper

/-- Encode the characters of a set and those that are encoded everywhere. -/
def percentEncode (set : List Char) (cs : List Char) : List Char :=
  cs.flatMap fun c =>
    if isEncodedEverywhere c || set.contains c then (Hex.utf8 [c]).flatMap encodedByte else [c]

/-- The bytes that a text stands for; a percent sign without two digits behind it stands for itself. -/
def percentDecode : List Char → List UInt8
  | [] => []
  | '%' :: high :: low :: rest =>
    match Hex.decodePairs 0 (Hex.utf8 [high, low]) with
    | .ok [b] => b :: percentDecode rest
    | _ => Hex.utf8 ['%'] ++ percentDecode (high :: low :: rest)
  | c :: rest => Hex.utf8 [c] ++ percentDecode rest

end WalletRelay.Url
