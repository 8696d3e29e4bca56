import WalletRelay.Proofs.Rlp.Reader
import WalletRelay.Transaction.Decode

/-!
# The fields of a transaction

The readers of transaction fields take exactly what the writers of Transaction/Basic give. Each law is
put together in the order in which the reader works, one `Takes.bind` for each field; what is left at
the end says that the record read has the fields read before.
-/

namespace WalletRelay

open Rlp

/-! ### Recipients and storage declarations -/

theorem recipientField_some (a : Address) : recipientField (some a) = 0x94 :: a.toList := by
  have hlen : a.toList.length = 20 := a.length_toList
  rw [recipientField, string_of_length_ne_one (by omega), hlen, header_short (by decide)]
  rfl

/-- The byte `80` is contract creation, and the address of a call starts with another one. -/
theorem takes_recipient : Takes readRecipient (fun _ => True) recipientField := by
  intro bytes short recipient rest
  rw [true_and]
  cases bytes with
  | nil =>
    constructor
    · intro h; cases h
    · intro h
      cases recipient with
      | none => cases h
      | some a => rw [recipientField_some] at h; cases h
  | cons b tail =>
    rw [readRecipient]
    -- The first byte decides: `80` is the empty string, and an address begins with `94`.
    by_cases hb : b = 0x80
    · rw [if_pos hb, hb]
      constructor
      · intro h; cases h; rfl
      · intro h
        cases recipient with
        | none => cases h; rfl
        | some a =>
          rw [recipientField_some] at h
          exact absurd (List.cons.inj h).1 (by decide)
    · rw [if_neg hb, Except.map_eq_ok_iff]
      constructor
      · rintro ⟨⟨a, after⟩, hr, heq⟩
        cases heq
        exact ((takes_fixed 20 _ short a _).mp hr).2
      · intro h
        cases recipient with
        | none => exact absurd (List.cons.inj h).1 hb
        | some a => exact ⟨(a, rest), (takes_fixed 20 _ short a rest).mpr ⟨trivial, h⟩, rfl⟩

/-- Every byte string has a written form of one byte at least. -/
theorem string_ne_nil (bytes : List UInt8) : Rlp.string bytes ≠ [] := by
  by_cases h1 : bytes.length = 1
  · obtain ⟨c, rfl⟩ := List.length_eq_one_iff.mp h1
    rw [Rlp.string]
    split <;> simp
  · rw [string_of_length_ne_one h1]
    simp [header_ne_nil]

/-- Storage declarations are read from their written form and from nothing else. -/
theorem takes_accessItem : Takes readAccessItem (fun _ => True) AccessItem.encode := by
  refine takes_record ?_
  refine Takes.written (.bind AccessItem.address (takes_fixed 20) fun address =>
    .bind AccessItem.storageKeys (takes_list (takes_fixed 32) fun _ => string_ne_nil _)
      fun storageKeys => .pure _ ?_) ?_
  · rintro ⟨⟩
    grind
  · intro item
    rw [List.append_nil]

theorem AccessItem.encode_ne_nil (item : AccessItem) : item.encode ≠ [] := by
  simp [AccessItem.encode, Rlp.list, header_ne_nil]

/-! ### The fields of the two formats -/

/-- The fields of a legacy transaction are read from their written form, without a chain id. -/
theorem takes_legacyFields :
    Takes readLegacyFields (fun tx => tx.chainId = none) LegacyTransaction.fields := by
  refine Takes.written (.bind LegacyTransaction.nonce (takes_word 8) fun nonce =>
    .bind LegacyTransaction.gasPrice (takes_word 16) fun gasPrice =>
    .bind LegacyTransaction.gasLimit (takes_word 8) fun gasLimit =>
    .bind LegacyTransaction.recipient takes_recipient fun recipient =>
    .bind LegacyTransaction.value takes_amount fun value =>
    .bind LegacyTransaction.input takes_string fun input => .pure _ ?_) ?_
  · rintro ⟨⟩
    grind
  · intro tx
    simp only [LegacyTransaction.fields, List.append_assoc, List.append_nil]

/-- The fields of a fee-market transaction are read from their written form and from nothing else. -/
theorem takes_feeMarketFields :
    Takes readFeeMarketFields (fun _ => True) FeeMarketTransaction.fields := by
  refine Takes.written (.bind FeeMarketTransaction.chainId (takes_word 8) fun chainId =>
    .bind FeeMarketTransaction.nonce (takes_word 8) fun nonce =>
    .bind FeeMarketTransaction.maxPriorityFeePerGas (takes_word 16) fun maxPriorityFeePerGas =>
    .bind FeeMarketTransaction.maxFeePerGas (takes_word 16) fun maxFeePerGas =>
    .bind FeeMarketTransaction.gasLimit (takes_word 8) fun gasLimit =>
    .bind FeeMarketTransaction.recipient takes_recipient fun recipient =>
    .bind FeeMarketTransaction.value takes_amount fun value =>
    .bind FeeMarketTransaction.input takes_string fun input =>
    .bind FeeMarketTransaction.accessList (takes_list takes_accessItem AccessItem.encode_ne_nil)
      fun accessList => .pure _ ?_) ?_
  -- A transaction is determined by the fields that were read one after another.
  · rintro ⟨⟩
    grind
  · intro tx
    simp only [FeeMarketTransaction.fields, List.append_assoc, List.append_nil]

/-- The chain id of a legacy payload with the two numbers behind it. -/
abbrev ChainFields := BitVec 64 × BitVec 8 × BitVec 8

/-- The three numbers behind the fields are read from their written form and from nothing else. -/
theorem takes_chainFields : Takes readChainFields (fun _ => True) fun c : ChainFields =>
    number c.1.toNat ++ number c.2.1.toNat ++ number c.2.2.toNat := by
  refine Takes.written (.bind (fun c : ChainFields => c.1) (takes_word 8) fun chainId =>
    .bind (fun c : ChainFields => c.2.1) (takes_word 1) fun r =>
    .bind (fun c : ChainFields => c.2.2) (takes_word 1) fun s => .pure _ ?_) ?_
  · rintro ⟨⟩
    grind
  · intro c
    simp only [List.append_assoc, List.append_nil]

end WalletRelay
