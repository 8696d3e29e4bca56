import WalletRelay.Proofs.Transaction.Signed

/-!
# What a signed envelope says

A signed envelope has one reading: it determines the transaction and the signature
(`SignedTransaction.encode_inj`). The fields in front are read as in a signing payload. The three numbers
behind them are read one after another, and the first of a legacy signature holds both the chain and the
parity: 27 or 28 without a chain, and from 35 on with one.

An envelope and a signing payload can be the same bytes in one case only. A legacy payload with a chain ends
with the chain id and two zeros, which is how a signature without `r` and `s` would look
(`SignedTransaction.encode_eq_encodeForSigning_iff`).
-/

namespace WalletRelay

open Rlp

/-! ### The numbers of a signature -/

/-- Where one number ends, the next one begins. -/
theorem Signature.fields_inj {g g' : Signature} {tag tag' : Nat}
    (short : (g.fields tag).length < UInt64.size) (same : g.fields tag = g'.fields tag') :
    tag = tag' ∧ g.r = g'.r ∧ g.s = g'.s := by
  unfold fields at short same
  obtain ⟨tags, rest⟩ := number_append_inj short same
  have short := length_tail_lt short
  obtain ⟨rs, last⟩ := number_append_inj short rest
  have ss := number_inj (length_tail_lt short) last
  exact ⟨tags, BitVec.eq_of_toNat_eq rs, BitVec.eq_of_toNat_eq ss⟩

theorem Signature.eq_of_parts {g g' : Signature} (r : g.r = g'.r) (s : g.s = g'.s)
    (parity : g.yParity = g'.yParity) : g = g' := by
  cases g
  cases g'
  simp_all

theorem parity_inj {odd odd' : Bool} (same : odd.toNat = odd'.toNat) : odd = odd' := by
  cases odd <;> cases odd' <;> simp_all

/-- The chain and the parity share a number, and are both found in it again. -/
theorem LegacyTransaction.signatureTag_inj {tx tx' : LegacyTransaction} {odd odd' : Bool}
    (same : tx.signatureTag odd = tx'.signatureTag odd') : tx.chainId = tx'.chainId ∧ odd = odd' := by
  have first : odd.toNat ≤ 1 := Bool.toNat_le odd
  have second : odd'.toNat ≤ 1 := Bool.toNat_le odd'
  unfold signatureTag at same
  cases hc : tx.chainId with
  | none =>
    cases hc' : tx'.chainId with
    | none =>
      simp only [hc, hc'] at same
      exact ⟨rfl, parity_inj (by omega)⟩
    | some c' =>
      simp only [hc, hc'] at same
      omega
  | some c =>
    cases hc' : tx'.chainId with
    | none =>
      simp only [hc, hc'] at same
      omega
    | some c' =>
      -- The parity is what is left of the number when it is halved.
      simp only [hc, hc'] at same
      have chain : c = c' := BitVec.eq_of_toNat_eq (by omega)
      exact ⟨congrArg some chain, parity_inj (by omega)⟩

/-! ### Fields with what follows them -/

/-- The fields of a legacy transaction, with whatever follows them in the list. The chain is not one of
them. -/
theorem LegacyTransaction.list_fields_inj {tx tx' : LegacyTransaction} {tail tail' : List UInt8}
    (short : (Rlp.list (tx.fields ++ tail)).length < UInt64.size)
    (same : Rlp.list (tx.fields ++ tail) = Rlp.list (tx'.fields ++ tail')) :
    { tx with chainId := none } = { tx' with chainId := none } ∧ tail = tail' ∧
      tail.length < UInt64.size := by
  have fits := length_payload_lt short
  obtain ⟨rest, tails⟩ := takes_legacyFields.append_inj
    (a := { tx with chainId := none }) (b := { tx' with chainId := none })
    rfl rfl fits (list_inj short same)
  exact ⟨rest, tails, length_tail_lt fits⟩

theorem LegacyTransaction.eq_of_chainId {tx tx' : LegacyTransaction}
    (rest : { tx with chainId := none } = { tx' with chainId := none })
    (chain : tx.chainId = tx'.chainId) : tx = tx' := by
  cases tx
  cases tx'
  simp_all

/-- A fee-market list tells the transaction from what follows its fields. -/
theorem FeeMarketTransaction.list_fields_inj {tx tx' : FeeMarketTransaction} {tail tail' : List UInt8}
    (short : (feeMarketType :: Rlp.list (tx.fields ++ tail)).length < UInt64.size)
    (same : feeMarketType :: Rlp.list (tx.fields ++ tail) =
      feeMarketType :: Rlp.list (tx'.fields ++ tail')) :
    tx = tx' ∧ tail = tail' ∧ tail.length < UInt64.size := by
  have short : (Rlp.list (tx.fields ++ tail)).length < UInt64.size := Nat.lt_of_succ_lt short
  have fits := length_payload_lt short
  obtain ⟨-, same⟩ := List.cons.inj same
  obtain ⟨rest, tails⟩ :=
    takes_feeMarketFields.append_inj trivial trivial fits (list_inj short same)
  exact ⟨rest, tails, length_tail_lt fits⟩

/-- The type byte of one format begins no list. -/
theorem list_ne_feeMarket {payload tail : List UInt8} (short : (Rlp.list payload).length < UInt64.size) :
    Rlp.list payload ≠ feeMarketType :: tail := by
  intro same
  obtain ⟨b, rest, begins, high⟩ := list_eq_cons (length_payload_lt short)
  rw [begins] at same
  obtain ⟨rfl, -⟩ := List.cons.inj same
  exact absurd high (by decide)

/-! ### Envelopes -/

namespace SignedTransaction

variable {tx : LegacyTransaction} {fee : FeeMarketTransaction} {g : Signature}

/-- Legacy envelopes are the same only if the transactions and the signatures are. -/
theorem encode_legacy_inj {tx' : LegacyTransaction} {g' : Signature}
    (short : (encode ⟨.legacy tx, g⟩).length < UInt64.size)
    (same : encode ⟨.legacy tx, g⟩ = encode ⟨.legacy tx', g'⟩) : tx = tx' ∧ g = g' := by
  rw [encode_legacy] at short same
  rw [encode_legacy] at same
  obtain ⟨rest, numbers, fits⟩ := LegacyTransaction.list_fields_inj short same
  obtain ⟨tags, rs, ss⟩ := Signature.fields_inj fits numbers
  obtain ⟨chain, parity⟩ := LegacyTransaction.signatureTag_inj tags
  constructor
  · exact LegacyTransaction.eq_of_chainId rest chain
  · exact Signature.eq_of_parts rs ss parity

/-- Fee-market envelopes are the same only if the transactions and the signatures are. -/
theorem encode_feeMarket_inj {fee' : FeeMarketTransaction} {g' : Signature}
    (short : (encode ⟨.feeMarket fee, g⟩).length < UInt64.size)
    (same : encode ⟨.feeMarket fee, g⟩ = encode ⟨.feeMarket fee', g'⟩) : fee = fee' ∧ g = g' := by
  rw [encode_feeMarket] at short same
  rw [encode_feeMarket] at same
  obtain ⟨rest, numbers, fits⟩ := FeeMarketTransaction.list_fields_inj short same
  obtain ⟨tags, rs, ss⟩ := Signature.fields_inj fits numbers
  exact ⟨rest, Signature.eq_of_parts rs ss (parity_inj tags)⟩

/-- An envelope has one reading. -/
theorem encode_inj {signed signed' : SignedTransaction} (short : signed.encode.length < UInt64.size)
    (same : signed.encode = signed'.encode) : signed = signed' := by
  have short' : signed'.encode.length < UInt64.size := by rwa [← same]
  obtain ⟨t, g⟩ := signed
  obtain ⟨t', g'⟩ := signed'
  cases t with
  | legacy tx =>
    cases t' with
    | legacy tx' =>
      obtain ⟨rfl, rfl⟩ := encode_legacy_inj short same
      rfl
    | feeMarket fee' =>
      rw [encode_legacy] at short same
      -- No list begins with the type byte of a fee-market transaction.
      exact absurd same (list_ne_feeMarket short)
  | feeMarket fee =>
    cases t' with
    | legacy tx' =>
      rw [encode_legacy] at short' same
      exact absurd same.symm (list_ne_feeMarket short')
    | feeMarket fee' =>
      obtain ⟨rfl, rfl⟩ := encode_feeMarket_inj short same
      rfl

/-! ### Envelopes and signing payloads -/

/-- The chain id and the two zeros are the numbers of a signature without `r` and `s`. -/
theorem chainFields_eq {c : BitVec 64} (chain : tx.chainId = some c) (odd : Bool) :
    tx.chainFields = Signature.fields ⟨0, 0, odd⟩ c.toNat := by
  rw [LegacyTransaction.chainFields_some chain, List.append_assoc]
  rfl

/-- The legacy payload of which an envelope is a copy if it has no signature in it. -/
def payloadOfTag (tx : LegacyTransaction) (odd : Bool) : UnsignedTransaction :=
  .legacy { tx with chainId := some (.ofNat 64 (tx.signatureTag odd)) }

/-- Without a signature in it, a legacy envelope is the signing payload for the chain that its tag names. -/
theorem encode_eq_payloadOfTag (tagFits : tx.signatureTag g.yParity < UInt64.size) (r : g.r = 0)
    (s : g.s = 0) : encode ⟨.legacy tx, g⟩ = (payloadOfTag tx g.yParity).encodeForSigning := by
  obtain ⟨_, _, odd⟩ := g
  subst r s
  have tag : (BitVec.ofNat 64 (tx.signatureTag odd)).toNat = tx.signatureTag odd := by
    rw [BitVec.toNat_ofNat]
    exact Nat.mod_eq_of_lt tagFits
  rw [encode_legacy, payloadOfTag, UnsignedTransaction.encodeForSigning, chainFields_eq rfl odd, tag]
  rfl

/-- An envelope is a signing payload only if it is a legacy one without a signature in it. -/
theorem encode_eq_encodeForSigning_iff {t u : UnsignedTransaction}
    (short : (encode ⟨t, g⟩).length < UInt64.size) :
    encode ⟨t, g⟩ = u.encodeForSigning ↔
      ∃ tx, t = .legacy tx ∧ g.r = 0 ∧ g.s = 0 ∧ tx.signatureTag g.yParity < UInt64.size ∧
        u = payloadOfTag tx g.yParity := by
  constructor
  · intro same
    cases t with
    | legacy tx =>
      cases u with
      | legacy tx' =>
        rw [encode_legacy] at short same
        obtain ⟨rest, tail, fits⟩ := LegacyTransaction.list_fields_inj short same
        cases chain : tx'.chainId with
        | none =>
          -- Without a chain nothing follows the fields, and a signature always does.
          rw [LegacyTransaction.chainFields, chain] at tail
          exact absurd tail (g.fields_ne_nil _)
        | some c =>
          rw [chainFields_eq chain g.yParity] at tail
          obtain ⟨tag, r, s⟩ := Signature.fields_inj fits tail
          refine ⟨tx, rfl, r, s, ?_, ?_⟩
          · rw [tag]
            exact c.isLt
          · rw [payloadOfTag, tag, BitVec.ofNat_toNat, BitVec.setWidth_eq]
            apply congrArg UnsignedTransaction.legacy
            apply LegacyTransaction.eq_of_chainId
            · exact rest.symm
            · exact chain
      | feeMarket fee' =>
        rw [encode_legacy] at short same
        exact absurd same (list_ne_feeMarket short)
    | feeMarket fee =>
      cases u with
      | legacy tx' =>
        rw [same] at short
        exact absurd same.symm (list_ne_feeMarket short)
      | feeMarket fee' =>
        rw [encode_feeMarket] at short same
        rw [UnsignedTransaction.encodeForSigning, ← List.append_nil fee'.fields] at same
        obtain ⟨-, tail, -⟩ := FeeMarketTransaction.list_fields_inj short same
        exact absurd tail (g.fields_ne_nil _)
  · rintro ⟨tx, rfl, r, s, tagFits, rfl⟩
    exact encode_eq_payloadOfTag tagFits r s

/-- Envelopes are told apart by their digits too. -/
theorem toHex_inj {signed signed' : SignedTransaction} (short : signed.encode.length < UInt64.size)
    (same : signed.toHex = signed'.toHex) : signed = signed' :=
  encode_inj short (Hex.encode_injective same)

end SignedTransaction

namespace UnsignedTransaction

/-- The digits of an envelope determine the transaction and the signature. The bytes of an envelope are
those of a signing payload only if the transaction is a legacy one, `r` and `s` are zero and the number in
front of them fits into a chain id, and then of one payload only. -/
theorem envelope_determines {t : UnsignedTransaction} {g : Signature}
    (short : (t.withSignature g).encode.length < UInt64.size) :
    (∀ t' g', (t.withSignature g).toHex = (t'.withSignature g').toHex → t = t' ∧ g = g') ∧
    ∀ u : UnsignedTransaction, (t.withSignature g).encode = u.encodeForSigning ↔
      ∃ tx, t = .legacy tx ∧ g.r = 0 ∧ g.s = 0 ∧ tx.signatureTag g.yParity < UInt64.size ∧
        u = .legacy { tx with chainId := some (.ofNat 64 (tx.signatureTag g.yParity)) } := by
  constructor
  · intro t' g' same
    exact SignedTransaction.mk.inj (SignedTransaction.toHex_inj short same)
  · intro u
    exact SignedTransaction.encode_eq_encodeForSigning_iff short

def transferOnLastChain : LegacyTransaction :=
  { chainId := some (.ofNat 64 (UInt64.size - 1))
    nonce := 0
    gasPrice := 1
    gasLimit := 21000
    recipient := none
    value := 0
    input := [] }

def emptySignature : Signature where
  r := 0
  s := 0
  yParity := true

/-- An ordinary envelope is no signing payload. One with an empty signature is one on the chain zero, but not on
the last chain, where its tag is too large for a chain id. -/
theorem envelope_determines_lastChain :
    (∀ t' g', (etherTransfer.withSignature etherTransferSignature).toHex =
        (t'.withSignature g').toHex → etherTransfer = t' ∧ etherTransferSignature = g') ∧
    (∀ u, (etherTransfer.withSignature etherTransferSignature).encode ≠ encodeForSigning u) ∧
    (∀ u, ((UnsignedTransaction.legacy transferOnLastChain).withSignature emptySignature).encode ≠
      encodeForSigning u) ∧
    ∃ u, ((UnsignedTransaction.legacy { transferOnLastChain with chainId := some 0 }).withSignature
      emptySignature).encode = encodeForSigning u := by
  obtain ⟨unique, signed⟩ := envelope_determines
    (show (etherTransfer.withSignature etherTransferSignature).encode.length < UInt64.size by
      decide +kernel)
  obtain ⟨-, last⟩ := envelope_determines
    (show ((UnsignedTransaction.legacy transferOnLastChain).withSignature
      emptySignature).encode.length < UInt64.size by decide +kernel)
  obtain ⟨-, first⟩ := envelope_determines
    (show ((UnsignedTransaction.legacy { transferOnLastChain with chainId := some 0 }).withSignature
      emptySignature).encode.length < UInt64.size by decide +kernel)
  refine ⟨unique, ?_, ?_, _, (first _).2 ⟨_, rfl, rfl, rfl, by decide, rfl⟩⟩
  · intro u same
    obtain ⟨_, -, none, -⟩ := (signed u).1 same
    exact absurd none (by decide)
  · -- Twice the chain id is more than a chain id holds.
    intro u same
    obtain ⟨tx, itself, -, -, fits, -⟩ := (last u).1 same
    cases itself
    exact absurd fits (by decide)

end UnsignedTransaction
end WalletRelay
