import WalletRelay.Wallet.WordList

/-!
# Recovery phrases

A phrase writes random bytes, the *entropy*, and the first bits of their hash as words of eleven bits
each. Reading looks up every word, cuts the entropy off and accepts the phrase only if it is the one
that the entropy writes: this checks the hash, and that no word is missing or left over.
-/

namespace WalletRelay

inductive PhraseError where
  /-- A word is not in the list. -/
  | unknownWord (word : String)
  /-- The words hold a number of bytes that no phrase has. -/
  | entropyLength (bytes : Nat)
  /-- The phrase is not the one that its entropy writes. -/
  | invalidPhrase (phrase : String)
deriving DecidableEq, Repr

def PhraseError.message : PhraseError → String
  | .unknownWord word => "the word `" ++ word ++ "` is invalid"
  | .entropyLength bytes => "the mnemonic's entropy length `" ++ toString bytes ++ "` is invalid"
  | .invalidPhrase phrase => "the phrase `" ++ phrase ++ "` is invalid"

namespace Mnemonic

/-- The words of a text: what stands between single spaces. -/
def split (phrase : String) : List String :=
  (Text.splitAt ' ' phrase.toList).map String.ofList

def index? (word : String) : Except PhraseError Nat :=
  match words.findIdx? (· == word) with
  | some i => .ok i
  | none => .error (.unknownWord word)

/-- The phrase that writes some entropy. -/
def ofEntropy (entropy : List UInt8) : String :=
  let bits := 8 * entropy.length
  let checkBits := bits / 32
  let check := BigEndian.value ((Sha256.hash entropy).take 1) / Nat.pow 2 (8 - checkBits)
  let number := BigEndian.value entropy * Nat.pow 2 checkBits + check
  let count := (bits + checkBits) / 11
  let word (i : Nat) : String := words.getD (number / Nat.pow 2048 (count - 1 - i) % 2048) ""
  " ".intercalate ((List.range count).map word)

/-- The number of entropy bytes in a phrase whose words fill `bytes` bytes. -/
def entropySize? (bytes : Nat) : Option Nat :=
  if bytes ∈ [16, 17, 20, 21, 24, 25, 28, 29, 32, 33] then some (bytes / 4 * 4) else none

def entropy (phrase : String) : Except PhraseError (List UInt8) := do
  let indices ← (split phrase).mapM index?
  let bits := 11 * indices.length
  let bytes := (bits + 7) / 8
  let number := indices.foldl (fun n i => 2048 * n + i) 0 * Nat.pow 2 (8 * bytes - bits)
  match entropySize? bytes with
  | none => .error (.entropyLength bytes)
  | some size =>
    let entropy := (BigEndian.padded bytes number).take size
    if ofEntropy entropy = phrase then .ok entropy else .error (.invalidPhrase phrase)

/-- The root key of a phrase without a pass phrase. -/
def rootKey (phrase : String) : Except PhraseError ExtendedKey :=
  match entropy phrase with
  | .error e => .error e
  | .ok _ =>
    .ok (ExtendedKey.root
      (pbkdf2Sha512 (Hex.utf8 phrase.toList) (Hex.utf8 "mnemonic".toList) 2048))

end Mnemonic
end WalletRelay
