import WalletRelay.Proofs.BigEndian
import WalletRelay.Proofs.Except
import WalletRelay.Rlp.Decode

/-!
# The written form of a header

Every header has exactly one written form, and reading accepts no other. `Headed bytes h rest` says
that `bytes` begin with the written form of `h` and that the payload begins with `rest`; the reader is
characterized by it:

    looseHeader_eq_ok_iff : looseHeader bytes = .ok (h, rest) ↔ Headed bytes h rest

The relation has three rules. A byte below `80` is its own payload, so its header has no bytes at all;
a string header stands before any other string, and a list header before a list. A length has at most
eight bytes, so payloads are shorter than `UInt64.size`.
-/

namespace WalletRelay.Rlp

/-- `bytes` begin with the written form of the header `h`, and the payload begins with `rest`. -/
inductive Headed : List UInt8 → Header → List UInt8 → Prop
  | byte {b : UInt8} {rest : List UInt8} : b.toNat < 0x80 → Headed (b :: rest) ⟨false, 1⟩ (b :: rest)
  | string {n : Nat} {rest : List UInt8} : n < UInt64.size →
      (n = 1 → ∃ c tail, rest = c :: tail ∧ 0x80 ≤ c.toNat) →
      Headed (header 0x80 n ++ rest) ⟨false, n⟩ rest
  | list {n : Nat} {rest : List UInt8} : n < UInt64.size →
      Headed (header 0xC0 n ++ rest) ⟨true, n⟩ rest

/-! ### Short and long headers -/

theorem header_short {base : UInt8} {n : Nat} (h : n < 56) :
    header base n = [base + UInt8.ofNat n] := by
  rw [header, if_pos h]

theorem header_long {base : UInt8} {n : Nat} (h : 56 ≤ n) :
    header base n =
      (base + 55 + UInt8.ofNat (BigEndian.minimal n).length) :: BigEndian.minimal n := by
  rw [header, if_neg (by omega)]

theorem header_ne_nil (base : UInt8) (n : Nat) : header base n ≠ [] := by
  rw [header]
  split <;> simp

/-- A long length takes between one and eight bytes. -/
theorem length_minimal_of_long {n : Nat} (h : 56 ≤ n) (hn : n < UInt64.size) :
    1 ≤ (BigEndian.minimal n).length ∧ (BigEndian.minimal n).length ≤ 8 := by
  constructor
  · have : BigEndian.minimal n ≠ [] := mt BigEndian.minimal_eq_nil_iff.mp (by omega)
    exact List.length_pos_iff.mpr this
  · exact BigEndian.length_minimal_le_iff.mpr hn

/-- A length is read from its shortest form only, and only if it is too long for a short header. -/
theorem longLength_eq_ok_iff {count n : Nat} {bytes rest : List UInt8} (hc : 0 < count) :
    longLength count bytes = .ok (n, rest) ↔
      56 ≤ n ∧ (BigEndian.minimal n).length = count ∧ bytes = BigEndian.minimal n ++ rest := by
  constructor
  · intro h
    unfold longLength at h
    split at h
    · cases h
    · next hlen =>
      split at h
      · cases h
      · next hzero =>
        -- The bytes do not start with a zero, so they are the shortest form of the number that they write.
        have htake : (bytes.take count).length = count := List.length_take_of_le (by omega)
        have hhead : (bytes.take count).head? ≠ some 0 := by
          rwa [List.head?_take, if_neg (by omega)]
        have hmin := BigEndian.minimal_value hhead
        dsimp only at h
        split at h
        · cases h
        · next hbig =>
          cases h
          rw [hmin]
          exact ⟨by omega, htake, (List.take_append_drop count bytes).symm⟩
  · rintro ⟨hbig, rfl, rfl⟩
    have hne : BigEndian.minimal n ≠ [] := mt BigEndian.minimal_eq_nil_iff.mp (by omega)
    have hhead : (BigEndian.minimal n ++ rest).head? ≠ some 0 := by
      rw [List.head?_append, Option.or_of_isSome (by simpa using hne)]
      exact BigEndian.head?_minimal_ne_zero n
    unfold longLength
    rw [if_neg (by simp), if_neg hhead]
    simp [show ¬ n < 56 by omega]

/-! ### Reading a header -/

/-- The first byte of a written header, as a number. -/
theorem toNat_add_ofNat (base : UInt8) {n : Nat} (h : base.toNat + n < 256) :
    (base + UInt8.ofNat n).toNat = base.toNat + n := by
  have hn : n % 256 = n := Nat.mod_eq_of_lt (by omega)
  simp [UInt8.toNat_add, hn, Nat.mod_eq_of_lt h]

/-- A byte less than 56 above the base is a whole header. -/
theorem cons_eq_header {base b : UInt8} {n : Nat} {tail : List UInt8}
    (hb : b.toNat = base.toNat + n) (hn : n < 56) : b :: tail = header base n ++ tail := by
  have hlt := b.toNat_lt
  have : b = base + UInt8.ofNat n := by
    apply UInt8.toNat_inj.mp
    rw [toNat_add_ofNat base (by omega), hb]
  rw [header_short hn, this, List.singleton_append]

/-- A byte further above the base is a header together with the length behind it. -/
theorem cons_eq_header_of_longLength {base b : UInt8} {count n : Nat} {rest tail : List UInt8}
    (hc : 0 < count) (hb : b.toNat = (base + 55).toNat + count)
    (h : longLength count tail = .ok (n, rest)) : b :: tail = header base n ++ rest := by
  have hlt := b.toNat_lt
  obtain ⟨hbig, hlen, rfl⟩ := (longLength_eq_ok_iff hc).mp h
  have : b = base + 55 + UInt8.ofNat count := by
    apply UInt8.toNat_inj.mp
    rw [toNat_add_ofNat (base + 55) (by omega), hb]
  rw [header_long hbig, hlen, this, List.cons_append]

/-- A length of at most eight bytes is in range, and it does not fit a short header. -/
theorem range_of_longLength {count n : Nat} {rest tail : List UInt8} (hc : 0 < count)
    (hmax : count ≤ 8) (h : longLength count tail = .ok (n, rest)) : 56 ≤ n ∧ n < UInt64.size := by
  obtain ⟨hbig, hlen, -⟩ := (longLength_eq_ok_iff hc).mp h
  have : (BigEndian.minimal n).length ≤ 8 := by omega
  exact ⟨hbig, BigEndian.length_minimal_le_iff.mp this⟩

/-- Every written header is read. -/
theorem looseHeader_of_headed {bytes rest : List UInt8} {h : Header} (hh : Headed bytes h rest) :
    looseHeader bytes = .ok (h, rest) := by
  cases hh with
  | byte hb => simp [looseHeader, hb]
  | @string n rest hn single =>
    by_cases hs : n < 56
    -- Every form has a range of first bytes of its own, which decides the branch that is taken.
    · have hb : ((0x80 : UInt8) + UInt8.ofNat n).toNat = 0x80 + n := toNat_add_ofNat _ (by simp; omega)
      rw [header_short hs, List.singleton_append]
      unfold looseHeader
      simp only [hb]
      rw [if_neg (by omega), if_pos (by omega)]
      by_cases h1 : n = 1
      · obtain ⟨c, tail, rfl, hc⟩ := single h1
        subst h1
        have : ¬ c < 0x80 := by rw [UInt8.lt_iff_toNat_lt]; simp; omega
        simp [this]
      · rw [if_neg (by omega)]
        simp
    · obtain ⟨hpos, hlen⟩ := length_minimal_of_long (by omega) hn
      have hb : ((0x80 : UInt8) + 55 + UInt8.ofNat (BigEndian.minimal n).length).toNat =
          0xB7 + (BigEndian.minimal n).length := toNat_add_ofNat _ (by simp; omega)
      rw [header_long (by omega), List.cons_append]
      unfold looseHeader
      simp only [hb]
      rw [if_neg (by omega), if_neg (by omega), if_pos (by omega), Nat.add_sub_cancel_left,
        (longLength_eq_ok_iff hpos).mpr ⟨by omega, rfl, rfl⟩]
      rfl
  | @list n rest hn =>
    by_cases hs : n < 56
    · have hb : ((0xC0 : UInt8) + UInt8.ofNat n).toNat = 0xC0 + n := toNat_add_ofNat _ (by simp; omega)
      rw [header_short hs, List.singleton_append]
      unfold looseHeader
      simp only [hb]
      rw [if_neg (by omega), if_neg (by omega), if_neg (by omega), if_pos (by omega)]
      simp
    · obtain ⟨hpos, hlen⟩ := length_minimal_of_long (by omega) hn
      have hb : ((0xC0 : UInt8) + 55 + UInt8.ofNat (BigEndian.minimal n).length).toNat =
          0xF7 + (BigEndian.minimal n).length := toNat_add_ofNat _ (by simp; omega)
      rw [header_long (by omega), List.cons_append]
      unfold looseHeader
      simp only [hb]
      rw [if_neg (by omega), if_neg (by omega), if_neg (by omega), if_neg (by omega),
        Nat.add_sub_cancel_left, (longLength_eq_ok_iff hpos).mpr ⟨by omega, rfl, rfl⟩]
      rfl

/-- Nothing but written headers is read. -/
theorem headed_of_looseHeader {bytes rest : List UInt8} {h : Header}
    (hh : looseHeader bytes = .ok (h, rest)) : Headed bytes h rest := by
  cases bytes with
  | nil => cases hh
  | cons b tail =>
    have hlt := b.toNat_lt
    unfold looseHeader at hh
    dsimp only at hh
    split at hh
    · next hb => cases hh; exact .byte hb
    · split at hh
      · -- a string header in one byte
        next hlow hhigh =>
        have hb : b :: tail = header 0x80 (b.toNat - 0x80) ++ tail :=
          cons_eq_header (by simp; omega) (by omega)
        split at hh
        · next h1 =>
          split at hh
          · cases hh
          · next c more =>
            split at hh
            · cases hh
            · next hc =>
              cases hh
              rw [hb, h1]
              refine .string (by decide) fun _ => ⟨c, more, rfl, ?_⟩
              simpa [UInt8.lt_iff_toNat_lt] using hc
        · next h1 =>
          cases hh
          rw [hb]
          refine .string (by simp only [UInt64.size]; omega) fun h => ?_
          omega
      · next hlow =>
        split at hh
        · -- a string header with a length of its own
          next hhigh =>
          obtain ⟨⟨n, after⟩, hl, heq⟩ := Except.map_eq_ok_iff.mp hh
          cases heq
          obtain ⟨hbig, hn⟩ := range_of_longLength (by omega) (by omega) hl
          have hb : b :: tail = header 0x80 n ++ after :=
            cons_eq_header_of_longLength (by omega) (by simp; omega) hl
          rw [hb]
          exact .string hn fun h => by omega
        · split at hh
          · -- a list header in one byte
            next hlow' hhigh =>
            cases hh
            have hb : b :: rest = header 0xC0 (b.toNat - 0xC0) ++ rest :=
              cons_eq_header (by simp; omega) (by omega)
            rw [hb]
            exact .list (by simp only [UInt64.size]; omega)
          · -- a list header with a length of its own
            next hlow' hhigh =>
            obtain ⟨⟨n, after⟩, hl, heq⟩ := Except.map_eq_ok_iff.mp hh
            cases heq
            obtain ⟨-, hn⟩ := range_of_longLength (by omega) (by omega) hl
            have hb : b :: tail = header 0xC0 n ++ after :=
              cons_eq_header_of_longLength (by omega) (by simp; omega) hl
            rw [hb]
            exact .list hn

theorem looseHeader_eq_ok_iff {bytes rest : List UInt8} {h : Header} :
    looseHeader bytes = .ok (h, rest) ↔ Headed bytes h rest :=
  ⟨headed_of_looseHeader, looseHeader_of_headed⟩

end WalletRelay.Rlp
