import WalletRelay.Rlp.Decode
import WalletRelay.Text.Blank
import WalletRelay.Transaction.Basic

/-!
# Reading signing payloads

The first byte tells the two formats apart: `02` stands before a fee-market payload and a list header
begins a legacy one. A payload that carries a signature is refused as such: in a legacy payload the
two numbers after the chain id are then not both zero, and in a fee-market payload something follows
the access list.
-/

namespace WalletRelay

inductive TransactionError where
  /-- The text is not hexadecimal. -/
  | invalidHex (cause : Hex.Error)
  /-- There are no bytes. -/
  | empty
  /-- The first byte belongs to no supported format. -/
  | unsupportedType (type : UInt8)
  /-- The fields cannot be read. -/
  | malformed (cause : Rlp.Error)
  /-- Bytes follow the payload. -/
  | trailingBytes
  /-- The payload carries a signature. -/
  | alreadySigned
deriving DecidableEq, Repr

def TransactionError.message : TransactionError → String
  | .invalidHex cause => "Invalid transaction hex: " ++ cause.message
  | .empty => "Empty transaction payload"
  | .unsupportedType type => "Unsupported transaction type: " ++ Hex.encodePrefixed [type]
  | .malformed cause => "Malformed transaction: " ++ cause.message
  | .trailingBytes => "Malformed transaction: trailing bytes after transaction"
  | .alreadySigned => "Transaction payload is already signed"

/-! ### Fields -/

/-- The recipient: the empty string is contract creation. -/
def readRecipient : Rlp.Reader (Option Address) := fun bytes =>
  match bytes with
  | [] => .error .inputTooShort
  | b :: rest =>
    if b = 0x80 then .ok (none, rest)
    else (Rlp.readFixed 20 (b :: rest)).map fun r => (some r.1, r.2)

def readAccessItem : Rlp.Reader AccessItem :=
  Rlp.readRecord do
    let address ← Rlp.readFixed 20
    let storageKeys ← Rlp.readList (Rlp.readFixed 32)
    return ⟨address, storageKeys⟩

/-- The fields of a legacy transaction that is not yet bound to a chain. -/
def readLegacyFields : Rlp.Reader LegacyTransaction := do
  let nonce ← Rlp.readWord 8
  let gasPrice ← Rlp.readWord 16
  let gasLimit ← Rlp.readWord 8
  let recipient ← readRecipient
  let value ← Rlp.readAmount
  let input ← Rlp.readString
  return ⟨none, nonce, gasPrice, gasLimit, recipient, value, input⟩

def readFeeMarketFields : Rlp.Reader FeeMarketTransaction := do
  let chainId ← Rlp.readWord 8
  let nonce ← Rlp.readWord 8
  let maxPriorityFeePerGas ← Rlp.readWord 16
  let maxFeePerGas ← Rlp.readWord 16
  let gasLimit ← Rlp.readWord 8
  let recipient ← readRecipient
  let value ← Rlp.readAmount
  let input ← Rlp.readString
  let accessList ← Rlp.readList readAccessItem
  return ⟨chainId, nonce, maxPriorityFeePerGas, maxFeePerGas, gasLimit, recipient, value, input,
    accessList⟩

/-- The chain id and the two numbers after it, which a signature would fill. -/
def readChainFields : Rlp.Reader (BitVec 64 × BitVec 8 × BitVec 8) := do
  let chainId ← Rlp.readWord 8
  let r ← Rlp.readWord 1
  let s ← Rlp.readWord 1
  return (chainId, r, s)

/-! ### Payloads -/

/-- The payload of the list that makes up the whole byte string. -/
def readWholeList (bytes : List UInt8) : Except TransactionError (List UInt8) :=
  match Rlp.readListPayload bytes with
  | .error e => .error (.malformed e)
  | .ok (payload, []) => .ok payload
  | .ok (_, _ :: _) => .error .trailingBytes

def decodeLegacy (bytes : List UInt8) : Except TransactionError LegacyTransaction :=
  match readWholeList bytes with
  | .error e => .error e
  | .ok payload =>
    match readLegacyFields payload with
    | .error e => .error (.malformed e)
    | .ok (tx, []) => .ok tx
    | .ok (tx, b :: rest) =>
      match readChainFields (b :: rest) with
      | .error e => .error (.malformed e)
      | .ok ((chainId, r, s), after) =>
        if r ≠ 0 ∨ s ≠ 0 then .error .alreadySigned
        else if after ≠ [] then .error (.malformed .unexpectedLength)
        else .ok { tx with chainId := some chainId }

/-- Read a fee-market payload, without its type byte. -/
def decodeFeeMarket (bytes : List UInt8) : Except TransactionError FeeMarketTransaction :=
  match readWholeList bytes with
  | .error e => .error e
  | .ok payload =>
    match readFeeMarketFields payload with
    | .error e => .error (.malformed e)
    | .ok (tx, []) => .ok tx
    | .ok (_, _ :: _) => .error .alreadySigned

namespace UnsignedTransaction

def decode : List UInt8 → Except TransactionError UnsignedTransaction
  | [] => .error .empty
  | b :: rest =>
    if b = feeMarketType then (decodeFeeMarket rest).map .feeMarket
    else if 0xC0 ≤ b then (decodeLegacy (b :: rest)).map .legacy
    else .error (.unsupportedType b)

/-- Read the hexadecimal form of a signing payload; blanks around it do not count. -/
def ofHex (s : String) : Except TransactionError UnsignedTransaction :=
  match Hex.decode (Text.trim s) with
  | .error e => .error (.invalidHex e)
  | .ok bytes => decode bytes

end UnsignedTransaction
end WalletRelay
