import WalletRelay.Proofs.Transaction.Codec

/-!
# Payloads that are cut or continued

The header of the outer list says where a signing payload ends, so neither a part of one nor more than one
is taken for another.

* Bytes that follow a payload are not looked at: they are refused because they are there
  (`decode_continued`).
* A payload may be cut inside its header or inside what the header announces. Either way bytes are missing
  when the header is read, whatever the ones before the cut say (`readHeader_of_cut`, `decode_cut`).

The type byte of a fee-market payload stands in front of all that. If nothing else is left, the list is cut
before its first byte.
-/

namespace WalletRelay

/-! ### Lists that are cut -/

namespace Rlp

/-- A length that is cut off is too short. -/
theorem longLength_of_cut {count : Nat} {bytes : List UInt8} (cut : bytes.length < count) :
    longLength count bytes = .error .inputTooShort := by
  rw [longLength, if_pos cut]

/-- The cut is inside the header, so its last bytes are missing. -/
theorem looseHeader_of_cut {n : Nat} {bytes missing : List UInt8} (hn : n < UInt64.size)
    (cut : bytes ++ missing = header 0xC0 n) (more : missing ≠ []) :
    looseHeader bytes = .error .inputTooShort := by
  cases bytes with
  | nil => rfl
  | cons b digits =>
    by_cases hs : n < 56
    · -- A header in one byte cannot be cut behind it.
      rw [header_short hs, List.cons_append] at cut
      obtain ⟨-, rest⟩ := List.cons.inj cut
      exact absurd (List.append_eq_nil_iff.mp rest).2 more
    · obtain ⟨hpos, hlen⟩ := length_minimal_of_long (by omega) hn
      rw [header_long (by omega), List.cons_append] at cut
      obtain ⟨rfl, rest⟩ := List.cons.inj cut
      have fewer : digits.length < (BigEndian.minimal n).length := by
        have counted := congrArg List.length rest
        have left : 0 < missing.length := List.length_pos_iff.mpr more
        rw [List.length_append] at counted
        omega
      have hb : ((0xC0 : UInt8) + 55 + UInt8.ofNat (BigEndian.minimal n).length).toNat =
          0xF7 + (BigEndian.minimal n).length := toNat_add_ofNat _ (by simp; omega)
      unfold looseHeader
      simp only [hb]
      rw [if_neg (by omega), if_neg (by omega), if_neg (by omega), if_neg (by omega),
        Nat.add_sub_cancel_left, longLength_of_cut fewer]
      rfl

/-- The cut is behind the header, which announces more than there is. -/
theorem readHeader_of_fewer {n : Nat} {rest : List UInt8} (hn : n < UInt64.size)
    (fewer : rest.length < n) : readHeader (header 0xC0 n ++ rest) = .error .inputTooShort := by
  rw [readHeader, looseHeader_of_headed (.list hn)]
  exact if_pos fewer

/-- A list that is cut anywhere is too short, in its header or in its payload. -/
theorem readHeader_of_cut {payload bytes missing : List UInt8} (short : payload.length < UInt64.size)
    (cut : bytes ++ missing = list payload) (more : missing ≠ []) :
    readHeader bytes = .error .inputTooShort := by
  have left : 0 < missing.length := List.length_pos_iff.mpr more
  rw [list] at cut
  -- The cut is in the header, or in the payload, or right between the two.
  rcases List.append_eq_append_iff.mp cut with ⟨rest, inside, rfl⟩ | ⟨front, rfl, behind⟩
  · cases rest with
    | nil =>
      rw [List.append_nil] at inside
      rw [← inside, ← List.append_nil (header _ _)]
      exact readHeader_of_fewer short left
    | cons c rest =>
      rw [readHeader, looseHeader_of_cut short inside.symm (List.cons_ne_nil c rest)]
  · apply readHeader_of_fewer short
    rw [behind, List.length_append]
    omega

end Rlp

/-! ### The outer list -/

section OuterList

open Rlp

variable {payload bytes missing following : List UInt8}

/-- A list that is cut anywhere is not read. -/
theorem readWholeList_of_cut (short : payload.length < UInt64.size)
    (cut : bytes ++ missing = Rlp.list payload) (more : missing ≠ []) :
    readWholeList bytes = .error (.malformed .inputTooShort) := by
  rw [readWholeList, readListPayload, readHeader_of_cut short cut more]

/-- A list with anything behind it is not read. -/
theorem readWholeList_of_continued (short : payload.length < UInt64.size) (more : following ≠ []) :
    readWholeList (Rlp.list payload ++ following) = .error .trailingBytes := by
  obtain ⟨b, rest, rfl⟩ := List.exists_cons_of_ne_nil more
  rw [readWholeList, readListPayload_eq_ok_iff.mpr ⟨rfl, short⟩]

variable {e : TransactionError}

theorem decodeLegacy_of_error (refused : readWholeList bytes = .error e) :
    decodeLegacy bytes = .error e := by
  rw [decodeLegacy, refused]

theorem decodeFeeMarket_of_error (refused : readWholeList bytes = .error e) :
    decodeFeeMarket bytes = .error e := by
  rw [decodeFeeMarket, refused]

end OuterList

/-! ### Payloads of both formats -/

/-- What is wrong is the layout of the bytes, and the text of the error says so. -/
def TransactionError.IsMalformed (e : TransactionError) : Prop :=
  ∃ detail, e.message = "Malformed transaction: " ++ detail

theorem TransactionError.isMalformed_malformed (cause : Rlp.Error) : (malformed cause).IsMalformed :=
  ⟨cause.message, rfl⟩

theorem TransactionError.isMalformed_trailingBytes : trailingBytes.IsMalformed :=
  ⟨"trailing bytes after transaction", by decide⟩

namespace UnsignedTransaction

variable {t : UnsignedTransaction} {e : TransactionError} {bytes missing following : List UInt8}

/-- A fee-market payload is refused for the list behind its type byte. -/
theorem decode_feeMarket_of_error (refused : readWholeList bytes = .error e) :
    decode (feeMarketType :: bytes) = .error e := by
  rw [decode, if_pos rfl, decodeFeeMarket_of_error refused]
  rfl

/-- What begins as a list does is refused as one. -/
theorem decode_legacy_of_error {payload : List UInt8} (short : payload.length < UInt64.size)
    (begins : bytes.head? = (Rlp.list payload).head?) (refused : readWholeList bytes = .error e) :
    decode bytes = .error e := by
  rw [decode_of_begins short begins, decodeLegacy_of_error refused]
  rfl

/-- Bytes that follow a payload are refused for being there. -/
theorem decode_continued (short : t.encodeForSigning.length < UInt64.size) (more : following ≠ []) :
    decode (t.encodeForSigning ++ following) = .error .trailingBytes := by
  have fits := length_body_lt short
  cases t with
  | legacy tx =>
    have fits : tx.body.length < UInt64.size := fits
    apply decode_legacy_of_error fits
    -- What follows does not change the first byte, which still is that of a list.
    · obtain ⟨b, tail, hcons, -⟩ := list_eq_cons fits
      show (Rlp.list tx.body ++ following).head? = _
      rw [hcons]
      rfl
    · exact readWholeList_of_continued fits more
  | feeMarket tx =>
    rw [encodeForSigning, List.cons_append]
    apply decode_feeMarket_of_error
    exact readWholeList_of_continued fits more

/-- Of a payload that is cut, some bytes are left, and others are missing. -/
theorem decode_cut (short : t.encodeForSigning.length < UInt64.size)
    (cut : bytes ++ missing = t.encodeForSigning) (more : missing ≠ []) (some_left : bytes ≠ []) :
    decode bytes = .error (.malformed .inputTooShort) := by
  have fits := length_body_lt short
  obtain ⟨b, rest, rfl⟩ := List.exists_cons_of_ne_nil some_left
  cases t with
  | legacy tx =>
    have fits : tx.body.length < UInt64.size := fits
    apply decode_legacy_of_error fits
    -- A byte is left, and it is the first one of the payload.
    · show _ = (encodeForSigning (.legacy tx)).head?
      rw [← cut]
      rfl
    · exact readWholeList_of_cut fits cut more
  | feeMarket tx =>
    rw [encodeForSigning, List.cons_append] at cut
    obtain ⟨rfl, behind⟩ := List.cons.inj cut
    apply decode_feeMarket_of_error
    exact readWholeList_of_cut fits behind more

/-- Neither more than a payload is accepted nor less: both are malformed, except that nothing at all is
empty. -/
theorem refuses_cut_and_continued (t : UnsignedTransaction)
    (short : t.encodeForSigning.length < UInt64.size) :
    (∀ following, following ≠ [] →
      ∃ e, decode (t.encodeForSigning ++ following) = .error e ∧ e.IsMalformed) ∧
    decode [] = .error .empty ∧
    ∀ bytes, bytes <+: t.encodeForSigning → bytes ≠ t.encodeForSigning → bytes ≠ [] →
      ∃ e, decode bytes = .error e ∧ e.IsMalformed := by
  refine ⟨?_, rfl, ?_⟩
  · intro following more
    exact ⟨_, decode_continued short more, TransactionError.isMalformed_trailingBytes⟩
  · rintro bytes ⟨missing, cut⟩ ne some_left
    have more : missing ≠ [] := by
      rintro rfl
      rw [List.append_nil] at cut
      exact ne cut
    exact ⟨_, decode_cut short cut more some_left, TransactionError.isMalformed_malformed _⟩

/-- A fee-market transaction whose payload has a header of three bytes. -/
def longCall : UnsignedTransaction :=
  .feeMarket
    { chainId := 1
      nonce := 0
      maxPriorityFeePerGas := 0
      maxFeePerGas := 0xFFFFFFFFFFFFFFFF
      gasLimit := 21000
      recipient := some (.lastBytes 20 [])
      value := 1
      input := List.replicate 300 0xC0
      accessList := [⟨.lastBytes 20 [1], [.lastBytes 32 [2]]⟩] }

/-- A payload with a long header is refused with a byte behind it, and when it is cut within the header or the
payload. -/
theorem refuses_cut_and_continued_longCall :
    longCall.encodeForSigning.length < UInt64.size ∧
      (∃ e, decode (longCall.encodeForSigning ++ [0xC0]) = .error e ∧ e.IsMalformed) ∧
      (∃ e, decode [0x02] = .error e ∧ e.IsMalformed) ∧
      (∃ e, decode [0x02, 0xF9, 0x01] = .error e ∧ e.IsMalformed) ∧
      ∃ e, decode (longCall.encodeForSigning.take 200) = .error e ∧ e.IsMalformed := by
  have short : longCall.encodeForSigning.length < UInt64.size := by decide +kernel
  obtain ⟨continued, -, cut⟩ := refuses_cut_and_continued longCall short
  refine ⟨short, continued [0xC0] (by decide), ?_, ?_, ?_⟩
  · exact cut [0x02] (by decide +kernel) (by decide +kernel) (by decide)
  · exact cut [0x02, 0xF9, 0x01] (by decide +kernel) (by decide +kernel) (by decide)
  · exact cut _ (List.take_prefix _ _) (by decide +kernel) (by decide +kernel)

end UnsignedTransaction
end WalletRelay
