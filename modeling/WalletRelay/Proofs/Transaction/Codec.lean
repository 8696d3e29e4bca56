import WalletRelay.Proofs.Hex
import WalletRelay.Proofs.Transaction.Fields

/-!
# Reading and writing signing payloads

Reading a signing payload accepts exactly what writing produces:

    decode_eq_ok_iff : decode bytes = .ok t ↔ bytes = t.encodeForSigning ∧ t.body.length < UInt64.size

where `t.body` is what stands inside the outer list. From right to left this is the round trip; from
left to right it says that a transaction has one payload only, so the hash that a device signs is the
hash of the bytes that came in.
-/

namespace WalletRelay

open Rlp

/-! ### The two formats -/

/-- A whole byte string is read as a list exactly if it is the written form of one. -/
theorem readWholeList_eq_ok_iff {bytes payload : List UInt8} :
    readWholeList bytes = .ok payload ↔
      bytes = Rlp.list payload ∧ payload.length < UInt64.size := by
  have hlist : readListPayload bytes = .ok (payload, []) ↔ _ := readListPayload_eq_ok_iff
  rw [List.append_nil] at hlist
  rw [← hlist, readWholeList]
  constructor
  · intro h
    split at h
    · cases h
    · next heq => cases h; exact heq
    · cases h
  · intro h
    rw [h]

/-- The bytes inside the outer list of a legacy payload. -/
def LegacyTransaction.body (tx : LegacyTransaction) : List UInt8 :=
  tx.fields ++ tx.chainFields

theorem LegacyTransaction.chainFields_some {tx : LegacyTransaction} {c : BitVec 64}
    (h : tx.chainId = some c) :
    tx.chainFields = number c.toNat ++ number (0 : BitVec 8).toNat ++ number (0 : BitVec 8).toNat := by
  simp only [chainFields, h]
  rfl

/-- A legacy payload is read back, with or without a chain id. -/
theorem decodeLegacy_of_encoded {tx : LegacyTransaction} (short : tx.body.length < UInt64.size) :
    decodeLegacy (Rlp.list tx.body) = .ok tx := by
  have hfields : readLegacyFields tx.body = .ok ({ tx with chainId := none }, tx.chainFields) :=
    (takes_legacyFields tx.body short _ _).mpr ⟨rfl, rfl⟩
  rw [decodeLegacy, readWholeList_eq_ok_iff.mpr ⟨rfl, short⟩]
  dsimp only
  rw [hfields]
  -- The chain id is what the reader tells the two forms apart by: without one nothing follows the fields.
  cases hc : tx.chainId with
  | none =>
    have hnil : tx.chainFields = [] := by simp only [LegacyTransaction.chainFields, hc]
    have heq : { tx with chainId := none } = tx := by rw [← hc]
    rw [hnil, heq]
  | some c =>
    have hchain := LegacyTransaction.chainFields_some hc
    have htail : tx.chainFields.length < UInt64.size := length_tail_lt short
    have hread : readChainFields tx.chainFields = .ok ((c, 0, 0), []) :=
      (takes_chainFields _ htail _ _).mpr ⟨trivial, by rw [hchain, List.append_nil]⟩
    cases hcase : tx.chainFields with
    | nil =>
      rw [hcase] at hchain
      simp [number, string_ne_nil] at hchain
    | cons b rest =>
      rw [hcase] at hread
      have heq : { tx with chainId := some c } = tx := by rw [← hc]
      dsimp only
      rw [hread]
      simp [heq]

theorem encoded_of_decodeLegacy {bytes : List UInt8} {tx : LegacyTransaction}
    (h : decodeLegacy bytes = .ok tx) :
    bytes = Rlp.list tx.body ∧ tx.body.length < UInt64.size := by
  rw [decodeLegacy] at h
  split at h
  · cases h
  · next payload hlist =>
    obtain ⟨rfl, short⟩ := readWholeList_eq_ok_iff.mp hlist
    split at h
    · cases h
    · -- nothing follows the fields, so the transaction names no chain
      next tx' hfields =>
      cases h
      obtain ⟨hnone, rfl⟩ := (takes_legacyFields payload short _ _).mp hfields
      have : tx.body = tx.fields ++ [] := by
        rw [LegacyTransaction.body, LegacyTransaction.chainFields, hnone]
      rw [this]
      exact ⟨rfl, short⟩
    · -- a chain id and two zeros follow
      next tx' b rest hfields =>
      obtain ⟨hnone, rfl⟩ := (takes_legacyFields payload short _ _).mp hfields
      have htail : (b :: rest).length < UInt64.size := length_tail_lt short
      split at h
      · cases h
      · next chainId r s after hchain =>
        obtain ⟨-, htext⟩ := (takes_chainFields _ htail _ _).mp hchain
        split at h
        · cases h
        · next hzero =>
          obtain ⟨rfl, rfl⟩ : r = 0 ∧ s = 0 := by simpa using hzero
          split at h
          · cases h
          · next hafter =>
            cases h
            have : after = [] := by simpa using hafter
            subst this
            have hbody : LegacyTransaction.body { tx' with chainId := some chainId } =
                tx'.fields ++ b :: rest := by
              rw [LegacyTransaction.body, LegacyTransaction.chainFields_some rfl, htext,
                List.append_nil]
              rfl
            rw [hbody]
            exact ⟨rfl, short⟩

/-- What stands inside a legacy payload is read back, with and without a chain id. -/
theorem decodeLegacy_eq_ok_iff {bytes : List UInt8} {tx : LegacyTransaction} :
    decodeLegacy bytes = .ok tx ↔ bytes = Rlp.list tx.body ∧ tx.body.length < UInt64.size := by
  refine ⟨encoded_of_decodeLegacy, ?_⟩
  rintro ⟨rfl, short⟩
  exact decodeLegacy_of_encoded short

/-- A fee-market payload is read exactly from the written form of the transaction. -/
theorem decodeFeeMarket_eq_ok_iff {bytes : List UInt8} {tx : FeeMarketTransaction} :
    decodeFeeMarket bytes = .ok tx ↔
      bytes = Rlp.list tx.fields ∧ tx.fields.length < UInt64.size := by
  rw [decodeFeeMarket]
  constructor
  · intro h
    split at h
    · cases h
    · next payload hlist =>
      obtain ⟨rfl, short⟩ := readWholeList_eq_ok_iff.mp hlist
      split at h
      · cases h
      · next tx' hfields =>
        cases h
        obtain ⟨-, rfl⟩ := (takes_feeMarketFields payload short _ _).mp hfields
        -- Bytes behind the fields would be a signature, so there are none.
        rw [List.append_nil] at short ⊢
        exact ⟨rfl, short⟩
      · cases h
  · rintro ⟨rfl, short⟩
    rw [readWholeList_eq_ok_iff.mpr ⟨rfl, short⟩]
    dsimp only
    rw [(takes_feeMarketFields _ short tx []).mpr ⟨trivial, (List.append_nil _).symm⟩]

/-! ### Payloads -/

/-- The first byte of a list tells it from a fee-market payload. -/
theorem list_eq_cons {payload : List UInt8} (short : payload.length < UInt64.size) :
    ∃ b tail, Rlp.list payload = b :: tail ∧ 0xC0 ≤ b := by
  by_cases hs : payload.length < 56
  · refine ⟨0xC0 + UInt8.ofNat payload.length, payload, ?_, ?_⟩
    · rw [Rlp.list, header_short hs, List.singleton_append]
    · rw [UInt8.le_iff_toNat_le, toNat_add_ofNat _ (by simp; omega)]
      exact Nat.le_add_right ..
  · obtain ⟨-, hlen⟩ := length_minimal_of_long (by omega) short
    refine ⟨0xC0 + 55 + UInt8.ofNat (BigEndian.minimal payload.length).length,
      BigEndian.minimal payload.length ++ payload, ?_, ?_⟩
    · rw [Rlp.list, header_long (by omega), List.cons_append]
    · rw [UInt8.le_iff_toNat_le, toNat_add_ofNat _ (by simp; omega)]
      show 192 ≤ 247 + _
      omega

namespace UnsignedTransaction

def body : UnsignedTransaction → List UInt8
  | .legacy tx => tx.body
  | .feeMarket tx => tx.fields

theorem length_body_le (t : UnsignedTransaction) : t.body.length ≤ t.encodeForSigning.length := by
  cases t with
  | legacy tx =>
    rw [encodeForSigning, Rlp.list, List.length_append]
    exact Nat.le_add_left ..
  | feeMarket tx =>
    rw [encodeForSigning, Rlp.list, List.length_cons, List.length_append, body]
    omega

theorem length_body_lt {t : UnsignedTransaction} (short : t.encodeForSigning.length < UInt64.size) :
    t.body.length < UInt64.size :=
  Nat.lt_of_le_of_lt t.length_body_le short

/-- What begins as a list does is read as a legacy payload. -/
theorem decode_of_begins {payload bytes : List UInt8} (short : payload.length < UInt64.size)
    (begins : bytes.head? = (Rlp.list payload).head?) :
    decode bytes = (decodeLegacy bytes).map .legacy := by
  obtain ⟨b, tail, hcons, hb⟩ := list_eq_cons short
  rw [hcons, List.head?_cons] at begins
  obtain ⟨rest, rfl⟩ := List.head?_eq_some_iff.mp begins
  rw [decode, if_neg (by rintro rfl; exact absurd hb (by decide)), if_pos hb]

/-- Reading accepts exactly what writing produces. -/
theorem decode_eq_ok_iff {bytes : List UInt8} {t : UnsignedTransaction} :
    decode bytes = .ok t ↔ bytes = t.encodeForSigning ∧ t.body.length < UInt64.size := by
  constructor
  · intro h
    cases bytes with
    | nil => cases h
    | cons b rest =>
      rw [decode] at h
      split at h
      -- The first byte is the type of the fee-market payload, which no list begins with.
      · next hb =>
        obtain ⟨tx, htx, rfl⟩ := Except.map_eq_ok_iff.mp h
        obtain ⟨rfl, short⟩ := decodeFeeMarket_eq_ok_iff.mp htx
        exact ⟨by rw [hb]; rfl, short⟩
      · split at h
        · obtain ⟨tx, htx, rfl⟩ := Except.map_eq_ok_iff.mp h
          exact decodeLegacy_eq_ok_iff.mp htx
        · cases h
  · rintro ⟨rfl, short⟩
    cases t with
    | legacy tx =>
      change tx.body.length < UInt64.size at short
      show decode (Rlp.list tx.body) = _
      rw [decode_of_begins short rfl, decodeLegacy_eq_ok_iff.mpr ⟨rfl, short⟩]
      rfl
    | feeMarket tx =>
      rw [encodeForSigning, decode, if_pos rfl, decodeFeeMarket_eq_ok_iff.mpr ⟨rfl, short⟩]
      rfl

/-! ### Round trips -/

/-- A signing payload is read back. -/
theorem decode_encodeForSigning {t : UnsignedTransaction}
    (short : t.encodeForSigning.length < UInt64.size) : decode t.encodeForSigning = .ok t :=
  decode_eq_ok_iff.mpr ⟨rfl, length_body_lt short⟩

/-- A signing payload is read back from every spelling of its digits. -/
theorem ofHex_of_isSpelling {t : UnsignedTransaction} {text : String}
    (short : t.encodeForSigning.length < UInt64.size) (h : Hex.IsSpelling t.toHex text) :
    ofHex text = .ok t := by
  rw [ofHex, Hex.decode_trim_of_isSpelling h]
  exact decode_encodeForSigning short

/-- What was written is read back, from the bytes and from every spelling of their digits. -/
theorem read_written (t : UnsignedTransaction) (short : t.encodeForSigning.length < UInt64.size) :
    decode t.encodeForSigning = .ok t ∧
      ∀ text, Hex.IsSpelling t.toHex text → ofHex text = .ok t :=
  ⟨decode_encodeForSigning short, fun _ h => ofHex_of_isSpelling short h⟩

/-- The creation of a contract on the chain with the number zero. -/
def creationOnChainZero : UnsignedTransaction :=
  .legacy
    { chainId := some 0
      nonce := 0
      gasPrice := 1
      gasLimit := 0xABCDEF
      recipient := none
      value := 0
      input := [0x7F] }

/-- The creation of a contract is read back, also from digits in both cases with blanks around them. -/
theorem read_written_creation :
    creationOnChainZero.encodeForSigning.length < UInt64.size ∧
      decode creationOnChainZero.encodeForSigning = .ok creationOnChainZero ∧
      ofHex "\u3000 0XCC800183abCDEF80807F808080\n" = .ok creationOnChainZero := by
  have short : creationOnChainZero.encodeForSigning.length < UInt64.size := by decide +kernel
  have before : ∀ c ∈ ['\u3000', ' '], Text.isBlank c = true :=
    List.forall_mem_cons.mpr ⟨by decide, List.forall_mem_singleton.mpr (by decide)⟩
  have after : ∀ c ∈ ['\n'], Text.isBlank c = true := List.forall_mem_singleton.mpr (by decide)
  have spelling : Hex.IsSpelling creationOnChainZero.toHex
      "\u3000 0XCC800183abCDEF80807F808080\n" :=
    ⟨['\u3000', ' '], ['0', 'X'], "CC800183abCDEF80807F808080".toList, ['\n'], by decide +kernel,
      before, after, by decide, by decide +kernel⟩
  obtain ⟨hdecode, hspelling⟩ := read_written creationOnChainZero short
  exact ⟨short, hdecode, hspelling _ spelling⟩

/-- A payload that is accepted is the only one of its transaction, and what is signed is its hash. -/
theorem decode_canonical {bytes : List UInt8} {t : UnsignedTransaction}
    (h : decode bytes = .ok t) :
    t.encodeForSigning = bytes ∧ (∀ other, decode other = .ok t → other = bytes) ∧
      t.signatureHash = Hash32.keccak bytes := by
  have written : t.encodeForSigning = bytes := (decode_eq_ok_iff.mp h).1.symm
  refine ⟨written, ?_, ?_⟩
  · intro other hother
    rw [← written]
    exact (decode_eq_ok_iff.mp hother).1
  · rw [signatureHash, written]

/-- The same transaction, read from its bytes: they are what is signed. -/
theorem decode_canonical_creation :
    decode [0xCC, 0x80, 0x01, 0x83, 0xAB, 0xCD, 0xEF, 0x80, 0x80, 0x7F, 0x80, 0x80, 0x80] =
        .ok creationOnChainZero ∧
      creationOnChainZero.signatureHash = Hash32.keccak
        [0xCC, 0x80, 0x01, 0x83, 0xAB, 0xCD, 0xEF, 0x80, 0x80, 0x7F, 0x80, 0x80, 0x80] := by
  have h : decode [0xCC, 0x80, 0x01, 0x83, 0xAB, 0xCD, 0xEF, 0x80, 0x80, 0x7F, 0x80, 0x80, 0x80] =
      .ok creationOnChainZero := by rfl
  exact ⟨h, (decode_canonical h).2.2⟩

end UnsignedTransaction
end WalletRelay
