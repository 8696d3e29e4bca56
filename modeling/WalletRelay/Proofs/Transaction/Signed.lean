import WalletRelay.Proofs.Transaction.Codec

/-!
# Signed envelopes as input

What comes in has to be a signing payload. A signed envelope is not one, and `ofHex_signed` says what
becomes of it:

* After the access list of a fee-market transaction anything is taken for a signature, so every
  envelope is refused as already signed.
* The three numbers of a legacy signature stand where a signing payload has the chain id and two zeros,
  and are read as a word of eight bytes and two of one byte each. Only an envelope whose numbers fit is
  refused as already signed; any other one is refused because a number is too large.

The `r` and `s` of a signature have up to 32 bytes, so most legacy envelopes meet with the second refusal.
-/

namespace WalletRelay

open Rlp

/-! ### Words of a given size -/

namespace Rlp

variable {α β : Type} {x : Reader α} {bytes : List UInt8}

/-- After a read that succeeds, the next one goes on with the bytes that are left. -/
theorem Reader.bind_of_ok {a : α} {rest : List UInt8} (h : x bytes = .ok (a, rest))
    (f : α → Reader β) : (x >>= f) bytes = f a rest := by
  show (x bytes >>= fun taken => f taken.1 taken.2) = _
  rw [h]
  rfl

/-- A read that fails is the end. -/
theorem Reader.bind_of_error {e : Error} (h : x bytes = .error e) (f : α → Reader β) :
    (x >>= f) bytes = .error e := by
  show (x bytes >>= fun taken => f taken.1 taken.2) = _
  rw [h]
  rfl

/-- A number is read by its size: it fits, or there is an overflow. -/
theorem readWord_number (size : Nat) {n : Nat} {rest : List UInt8}
    (short : (number n ++ rest).length < UInt64.size) :
    readWord size (number n ++ rest) =
      if n < 256 ^ size then .ok (BitVec.ofNat (8 * size) n, rest) else .error .overflow := by
  -- The digits are the shortest form, so the only thing that can go wrong is their number.
  have payload : readString (number n ++ rest) = .ok (BigEndian.minimal n, rest) :=
    (takes_string _ short _ _).mpr ⟨trivial, rfl⟩
  have fits : (BigEndian.minimal n).length ≤ size ↔ n < 256 ^ size :=
    BigEndian.length_minimal_le_iff
  rw [readWord, payload]
  dsimp only
  by_cases small : n < 256 ^ size
  · have hlen : ¬ size < (BigEndian.minimal n).length := Nat.not_lt.mpr (fits.mpr small)
    rw [if_neg hlen, if_neg (BigEndian.head?_minimal_ne_zero n), if_pos small,
      BigEndian.value_minimal]
  · have hlen : size < (BigEndian.minimal n).length := Nat.lt_of_not_le (mt fits.mp small)
    rw [if_pos hlen, if_neg small]

end Rlp

/-! ### Written envelopes -/

/-- The three numbers that follow the fields of a transaction. -/
def Signature.fields (g : Signature) (tag : Nat) : List UInt8 :=
  number tag ++ (number g.r.toNat ++ number g.s.toNat)

theorem Signature.fields_ne_nil (g : Signature) (tag : Nat) : g.fields tag ≠ [] := by
  simp [Signature.fields, number, string_ne_nil]

namespace SignedTransaction

/-- The signature stands behind the fields, in the place of the chain id. -/
theorem encode_legacy (tx : LegacyTransaction) (g : Signature) :
    encode ⟨.legacy tx, g⟩ = Rlp.list (tx.fields ++ g.fields (tx.signatureTag g.yParity)) := by
  simp only [encode, Signature.fields, List.append_assoc]

/-- The signature stands behind the fields. -/
theorem encode_feeMarket (tx : FeeMarketTransaction) (g : Signature) :
    encode ⟨.feeMarket tx, g⟩ =
      feeMarketType :: Rlp.list (tx.fields ++ g.fields g.yParity.toNat) := by
  simp only [encode, Signature.fields, List.append_assoc]

end SignedTransaction

/-! ### Legacy envelopes -/

/-- Whether a legacy signature fits into the places of the chain id and the two zeros. -/
def LegacyTransaction.SignatureFits (tx : LegacyTransaction) (g : Signature) : Prop :=
  tx.signatureTag g.yParity < UInt64.size ∧ g.r.toNat < 256 ∧ g.s.toNat < 256

instance (tx : LegacyTransaction) (g : Signature) : Decidable (tx.SignatureFits g) :=
  inferInstanceAs (Decidable (_ ∧ _ ∧ _))

/-- The signature is read where the chain id is expected, number after number. -/
theorem readChainFields_signature {tx : LegacyTransaction} {g : Signature}
    (short : (g.fields (tx.signatureTag g.yParity)).length < UInt64.size) :
    readChainFields (g.fields (tx.signatureTag g.yParity)) =
      if tx.SignatureFits g then
        .ok ((BitVec.ofNat 64 (tx.signatureTag g.yParity), BitVec.ofNat 8 g.r.toNat,
          BitVec.ofNat 8 g.s.toNat), [])
      else .error .overflow := by
  unfold Signature.fields at short ⊢
  have shortR : (number g.r.toNat ++ number g.s.toNat).length < UInt64.size := length_tail_lt short
  have shortS : (number g.s.toNat ++ []).length < UInt64.size := by
    rw [List.append_nil]
    exact length_tail_lt shortR
  -- The tag has eight bytes of room, the place of the chain id; the other two numbers have one byte each.
  have readTag := readWord_number 8 short
  have readR := readWord_number 1 shortR
  have readS := readWord_number 1 shortS
  rw [List.append_nil] at readS
  unfold readChainFields
  by_cases tagFits : tx.signatureTag g.yParity < 256 ^ 8
  · rw [if_pos tagFits] at readTag
    rw [Reader.bind_of_ok readTag]
    by_cases rFits : g.r.toNat < 256 ^ 1
    · rw [if_pos rFits] at readR
      rw [Reader.bind_of_ok readR]
      by_cases sFits : g.s.toNat < 256 ^ 1
      · rw [if_pos sFits] at readS
        rw [Reader.bind_of_ok readS, if_pos ⟨tagFits, rFits, sFits⟩]
        rfl
      · rw [if_neg sFits] at readS
        rw [Reader.bind_of_error readS, if_neg fun fits => sFits fits.2.2]
    · rw [if_neg rFits] at readR
      rw [Reader.bind_of_error readR, if_neg fun fits => rFits fits.2.1]
  · rw [if_neg tagFits] at readTag
    rw [Reader.bind_of_error readTag, if_neg fun fits => tagFits fits.1]

/-- A number that fits is zero only if it was zero before. -/
theorem ofNat_ne_zero {x : BitVec 256} (h : x ≠ 0) (fits : x.toNat < 256) :
    BitVec.ofNat 8 x.toNat ≠ 0 := by
  intro zero
  have value := congrArg BitVec.toNat zero
  rw [BitVec.toNat_ofNat, Nat.mod_eq_of_lt fits] at value
  exact h (BitVec.eq_of_toNat_eq value)

/-- What is said of a signed envelope. -/
def SignedTransaction.refusal (signed : SignedTransaction) : TransactionError :=
  match signed.unsigned with
  | .legacy tx => if tx.SignatureFits signed.signature then .alreadySigned else .malformed .overflow
  | .feeMarket _ => .alreadySigned

theorem SignedTransaction.refusal_legacy (tx : LegacyTransaction) (g : Signature) :
    refusal ⟨.legacy tx, g⟩ =
      if tx.SignatureFits g then .alreadySigned else .malformed .overflow := rfl

/-- A signed legacy list is recognized if its signature fits, and is too large for the reader otherwise. -/
theorem decodeLegacy_signed {tx : LegacyTransaction} {g : Signature} (real : g.r ≠ 0 ∨ g.s ≠ 0)
    (short : (tx.fields ++ g.fields (tx.signatureTag g.yParity)).length < UInt64.size) :
    decodeLegacy (Rlp.list (tx.fields ++ g.fields (tx.signatureTag g.yParity))) =
      .error (SignedTransaction.refusal ⟨.legacy tx, g⟩) := by
  have hfields : readLegacyFields (tx.fields ++ g.fields (tx.signatureTag g.yParity)) =
      .ok ({ tx with chainId := none }, g.fields (tx.signatureTag g.yParity)) :=
    (takes_legacyFields _ short _ _).mpr ⟨rfl, rfl⟩
  have hchain := readChainFields_signature (length_tail_lt short)
  have nonempty : g.fields (tx.signatureTag g.yParity) ≠ [] := g.fields_ne_nil _
  rw [decodeLegacy, readWholeList_eq_ok_iff.mpr ⟨rfl, short⟩]
  dsimp only
  rw [hfields]
  cases htail : g.fields (tx.signatureTag g.yParity) with
  | nil => exact absurd htail nonempty
  | cons b rest =>
    rw [htail] at hchain
    rw [SignedTransaction.refusal_legacy]
    dsimp only
    by_cases fits : tx.SignatureFits g
    -- The reader looks at the two numbers as bytes. They fit, so they are not zero if the signature is not.
    · have signed : BitVec.ofNat 8 g.r.toNat ≠ 0 ∨ BitVec.ofNat 8 g.s.toNat ≠ 0 :=
        real.imp (fun hr => ofNat_ne_zero hr fits.2.1) fun hs => ofNat_ne_zero hs fits.2.2
      rw [hchain, if_pos fits, if_pos fits]
      dsimp only
      rw [if_pos signed]
    · rw [hchain, if_neg fits, if_neg fits]

/-! ### Fee-market envelopes -/

/-- Whatever follows the fields of a fee-market transaction counts as its signature. -/
theorem decodeFeeMarket_followed {tx : FeeMarketTransaction} {tail : List UInt8} (follows : tail ≠ [])
    (short : (tx.fields ++ tail).length < UInt64.size) :
    decodeFeeMarket (Rlp.list (tx.fields ++ tail)) = .error .alreadySigned := by
  have hfields : readFeeMarketFields (tx.fields ++ tail) = .ok (tx, tail) :=
    (takes_feeMarketFields _ short _ _).mpr ⟨trivial, rfl⟩
  rw [decodeFeeMarket, readWholeList_eq_ok_iff.mpr ⟨rfl, short⟩]
  dsimp only
  rw [hfields]
  cases tail with
  | nil => exact absurd rfl follows
  | cons b rest => rfl

/-! ### Envelopes of both formats -/

namespace UnsignedTransaction

/-- A signed envelope with a real signature is refused in the way that `refusal` says. -/
theorem decode_signed {t : UnsignedTransaction} {g : Signature} (real : g.r ≠ 0 ∨ g.s ≠ 0)
    (short : (t.withSignature g).encode.length < UInt64.size) :
    decode (t.withSignature g).encode = .error (t.withSignature g).refusal := by
  cases t with
  | legacy tx =>
    have written : ((UnsignedTransaction.legacy tx).withSignature g).encode =
        Rlp.list (tx.fields ++ g.fields (tx.signatureTag g.yParity)) :=
      SignedTransaction.encode_legacy tx g
    rw [written] at short ⊢
    have shortBody := length_payload_lt short
    rw [decode_of_begins shortBody rfl, decodeLegacy_signed real shortBody]
    rfl
  | feeMarket tx =>
    have written : ((UnsignedTransaction.feeMarket tx).withSignature g).encode =
        feeMarketType :: Rlp.list (tx.fields ++ g.fields g.yParity.toNat) :=
      SignedTransaction.encode_feeMarket tx g
    rw [written] at short ⊢
    have shortBody := length_payload_lt (Nat.lt_of_succ_lt short)
    rw [decode, if_pos rfl, decodeFeeMarket_followed (g.fields_ne_nil _) shortBody]
    rfl

theorem ofHex_toHex_signed (signed : SignedTransaction) :
    ofHex signed.toHex = decode signed.encode := by
  rw [ofHex, SignedTransaction.toHex, Hex.decode_trim_of_isSpelling (Hex.isSpelling_encode _)]

/-- A signed envelope is never taken for a signing payload. It is refused as already signed, unless it
is a legacy one whose signature is too large to be read where the chain id is expected. -/
theorem ofHex_signed {t : UnsignedTransaction} {g : Signature} (real : g.r ≠ 0 ∨ g.s ≠ 0)
    (short : (t.withSignature g).encode.length < UInt64.size) :
    ofHex (t.withSignature g).toHex = .error (t.withSignature g).refusal := by
  rw [ofHex_toHex_signed]
  exact decode_signed real short

/-- One ether, sent on the main chain. -/
def etherTransfer : UnsignedTransaction :=
  .legacy
    { chainId := some 1
      nonce := 9
      gasPrice := 20000000000
      gasLimit := 21000
      recipient := some (.lastBytes 20 (List.replicate 20 0x35))
      value := 1000000000000000000
      input := [] }

/-- The sender's signature of `etherTransfer`. -/
def etherTransferSignature : Signature where
  r := 0x28EF61340BD939BC2195FE537567866003E1A15D3C71FF63E1590620AA636276
  s := 0x67CBE9D8997F761AECB703304B3800CCF555C9F3DC64214B297FB1966A3B6D83
  yParity := false

/-- A transfer with a signature of ordinary size is not recognized as signed. -/
theorem ofHex_signed_etherTransfer :
    (etherTransfer.withSignature etherTransferSignature).encode.length < UInt64.size ∧
      ofHex (etherTransfer.withSignature etherTransferSignature).toHex =
        .error (.malformed .overflow) := by
  have short : (etherTransfer.withSignature etherTransferSignature).encode.length < UInt64.size := by
    decide +kernel
  have real : etherTransferSignature.r ≠ 0 := by decide
  have refused := ofHex_signed (.inl real) short
  exact ⟨short, refused⟩

/-- Not every signed envelope is refused as already signed. -/
theorem exists_signature_not_recognized :
    ¬ ∀ (t : UnsignedTransaction) (g : Signature), g.r ≠ 0 → g.s ≠ 0 →
      ofHex (t.withSignature g).toHex = .error .alreadySigned := by
  intro recognized
  have said := recognized etherTransfer etherTransferSignature (by decide) (by decide)
  rw [ofHex_toHex_signed, decode_signed (.inl (by decide)) (by decide +kernel)] at said
  exact absurd (Except.error.inj said) (by decide)

end UnsignedTransaction
end WalletRelay
