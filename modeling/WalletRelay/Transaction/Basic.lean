import WalletRelay.Ethereum.Address
import WalletRelay.Rlp.Encode

/-!
# Transactions

A transaction reaches the relay as its *signing payload*, the bytes whose hash the device signs, and
leaves it as a *signed envelope*, the same fields with the signature behind them.

A legacy transaction may name its chain; then the payload ends with the chain id and two empty
numbers, and the chain id is folded into the first number of the signature. A fee-market transaction
always names its chain and may list the storage that it will read.
-/

namespace WalletRelay

/-- A storage declaration: an account and some of its storage keys. -/
structure AccessItem where
  address : Address
  storageKeys : List Hash32
deriving DecidableEq, Repr

/-- A transaction with a single gas price. -/
structure LegacyTransaction where
  /-- The chain the transaction is bound to, if it is bound to one. -/
  chainId : Option (BitVec 64)
  nonce : BitVec 64
  gasPrice : BitVec 128
  gasLimit : BitVec 64
  /-- The account called; none when a contract is created. -/
  recipient : Option Address
  value : BitVec 256
  input : List UInt8
deriving DecidableEq, Repr

/-- A transaction that offers a priority fee below a fee limit. -/
structure FeeMarketTransaction where
  chainId : BitVec 64
  nonce : BitVec 64
  maxPriorityFeePerGas : BitVec 128
  maxFeePerGas : BitVec 128
  gasLimit : BitVec 64
  /-- The account called; none when a contract is created. -/
  recipient : Option Address
  value : BitVec 256
  input : List UInt8
  accessList : List AccessItem
deriving DecidableEq, Repr

/-- A transaction waiting for a signature. -/
inductive UnsignedTransaction where
  | legacy (tx : LegacyTransaction)
  | feeMarket (tx : FeeMarketTransaction)
deriving DecidableEq, Repr

structure Signature where
  r : BitVec 256
  s : BitVec 256
  /-- Whether the curve point of `r` has an odd ordinate. -/
  yParity : Bool
deriving DecidableEq, Repr

/-- The 65-byte form: `r`, `s` and 27 plus the parity. -/
def Signature.toBytes (g : Signature) : List UInt8 :=
  BigEndian.padded 32 g.r.toNat ++ BigEndian.padded 32 g.s.toNat ++
    [if g.yParity then 28 else 27]

structure SignedTransaction where
  unsigned : UnsignedTransaction
  signature : Signature
deriving DecidableEq, Repr

/-! ### The fields in their written order -/

/-- The recipient; contract creation is the empty string. -/
def recipientField : Option Address → List UInt8
  | none => Rlp.string []
  | some a => Rlp.string a.toList

def AccessItem.encode (item : AccessItem) : List UInt8 :=
  Rlp.list (Rlp.string item.address.toList ++
    Rlp.list (item.storageKeys.flatMap fun key => Rlp.string key.toList))

/-- The fields of a legacy transaction, up to its chain id. -/
def LegacyTransaction.fields (tx : LegacyTransaction) : List UInt8 :=
  Rlp.number tx.nonce.toNat ++ Rlp.number tx.gasPrice.toNat ++ Rlp.number tx.gasLimit.toNat ++
    recipientField tx.recipient ++ Rlp.number tx.value.toNat ++ Rlp.string tx.input

def FeeMarketTransaction.fields (tx : FeeMarketTransaction) : List UInt8 :=
  Rlp.number tx.chainId.toNat ++ Rlp.number tx.nonce.toNat ++
    Rlp.number tx.maxPriorityFeePerGas.toNat ++ Rlp.number tx.maxFeePerGas.toNat ++
    Rlp.number tx.gasLimit.toNat ++ recipientField tx.recipient ++ Rlp.number tx.value.toNat ++
    Rlp.string tx.input ++ Rlp.list (tx.accessList.flatMap AccessItem.encode)

/-- What follows the fields of a legacy transaction in its signing payload. -/
def LegacyTransaction.chainFields (tx : LegacyTransaction) : List UInt8 :=
  match tx.chainId with
  | none => []
  | some c => Rlp.number c.toNat ++ Rlp.number 0 ++ Rlp.number 0

/-- The first number of a legacy signature: it carries the parity and the chain id. -/
def LegacyTransaction.signatureTag (tx : LegacyTransaction) (yParity : Bool) : Nat :=
  match tx.chainId with
  | none => 27 + yParity.toNat
  | some c => 35 + 2 * c.toNat + yParity.toNat

/-! ### Payloads and envelopes -/

/-- The byte in front of a fee-market transaction. -/
def feeMarketType : UInt8 := 0x02

namespace UnsignedTransaction

/-- The signing payload. -/
def encodeForSigning : UnsignedTransaction → List UInt8
  | .legacy tx => Rlp.list (tx.fields ++ tx.chainFields)
  | .feeMarket tx => feeMarketType :: Rlp.list tx.fields

/-- The digits of the signing payload, without a prefix. -/
def toHex (t : UnsignedTransaction) : String :=
  Hex.encode t.encodeForSigning

/-- The hash that a device signs. -/
def signatureHash (t : UnsignedTransaction) : Hash32 :=
  Hash32.keccak t.encodeForSigning

def chainId : UnsignedTransaction → Option (BitVec 64)
  | .legacy tx => tx.chainId
  | .feeMarket tx => some tx.chainId

def withSignature (t : UnsignedTransaction) (g : Signature) : SignedTransaction :=
  ⟨t, g⟩

end UnsignedTransaction

namespace SignedTransaction

/-- The signed envelope. -/
def encode (signed : SignedTransaction) : List UInt8 :=
  let g := signed.signature
  match signed.unsigned with
  | .legacy tx =>
    Rlp.list (tx.fields ++ Rlp.number (tx.signatureTag g.yParity) ++ Rlp.number g.r.toNat ++
      Rlp.number g.s.toNat)
  | .feeMarket tx =>
    feeMarketType :: Rlp.list (tx.fields ++ Rlp.number g.yParity.toNat ++ Rlp.number g.r.toNat ++
      Rlp.number g.s.toNat)

def toHex (signed : SignedTransaction) : String :=
  Hex.encode signed.encode

/-- The hash that names the transaction on its chain. -/
def hash (signed : SignedTransaction) : Hash32 :=
  Hash32.keccak signed.encode

end SignedTransaction
end WalletRelay
