import WalletRelay.Proofs.Except
import WalletRelay.Proofs.Text.Blank
import WalletRelay.Text.Hex

/-!
# Spellings of a byte string

Written digits are small and have no prefix. A text that is *read* may spell them more freely: blanks
may stand around it, a prefix in front of the digits, and letters may be capitals. Whatever the
spelling, the same bytes are read:

    decode_trim_of_isSpelling : IsSpelling (encode bytes) text → decode (trim text) = .ok bytes

A digit in either case is never blank, takes one byte in UTF-8 and is not the `x` of a prefix; that is
all the proof needs to know of characters, and it is checked on ASCII.
-/

namespace WalletRelay.Hex

open Text

/-- `text` spells out `digits`: blanks around them, a prefix and capital letters are allowed. -/
def IsSpelling (digits text : String) : Prop :=
  ∃ before lead body after : List Char,
    text.toList = before ++ ((lead ++ body) ++ after) ∧
      (∀ c ∈ before, isBlank c = true) ∧ (∀ c ∈ after, isBlank c = true) ∧
      lead ∈ [[], ['0', 'x'], ['0', 'X']] ∧ body.map Char.toLower = digits.toList

/-! ### One digit -/

/-- A character whose small form is a digit is an ASCII character. -/
theorem toNat_lt_of_toLower {c : Char} {v : Nat} (hv : v < 16) (h : c.toLower = Nat.digitChar v) :
    c.toNat < 128 := by
  delta Char.toLower at h
  split at h
  · next hupper =>
    have : c.toNat ≤ 90 := hupper.2
    omega
  · subst h
    exact (by decide : ∀ v : Fin 16, (Nat.digitChar v).toNat < 128) ⟨v, hv⟩

/-- What is known of a character that spells out a digit. -/
structure Digit (c : Char) (v : Nat) : Prop where
  not_blank : isBlank c = false
  utf8 : String.utf8EncodeChar c = [UInt8.ofNat c.toNat]
  value : digitValue? (UInt8.ofNat c.toNat) = some v
  not_x : c ≠ 'x' ∧ c ≠ 'X'

/-- A character whose small form is a digit has all that is needed of a digit. -/
theorem digit_of_toLower {c : Char} {v : Nat} (hv : v < 16) (h : c.toLower = Nat.digitChar v) :
    Digit c v := by
  have hc := toNat_lt_of_toLower hv h
  have key : ∀ n : Fin 128, ∀ v : Fin 16, (Char.ofNat n).toLower = Nat.digitChar v →
      isBlank (Char.ofNat n) = false ∧
      String.utf8EncodeChar (Char.ofNat n) = [UInt8.ofNat (Char.ofNat n).toNat] ∧
      digitValue? (UInt8.ofNat (Char.ofNat n).toNat) = some v.val ∧
      Char.ofNat n ≠ 'x' ∧ Char.ofNat n ≠ 'X' := by decide +kernel
  have := key ⟨c.toNat, hc⟩ ⟨v, hv⟩
  simp only [Char.ofNat_toNat] at this
  obtain ⟨h1, h2, h3, h4⟩ := this h
  exact ⟨h1, h2, h3, h4⟩

/-! ### The digits of a byte string -/

theorem encode_toList (bytes : List UInt8) : (encode bytes).toList = digits bytes :=
  String.toList_ofList

theorem map_toLower_digits (bytes : List UInt8) :
    (digits bytes).map Char.toLower = digits bytes := by
  have small : ∀ v : Fin 16, (Nat.digitChar v).toLower = Nat.digitChar v := by decide
  induction bytes with
  | nil => rfl
  | cons b bytes ih =>
    have hb := b.toNat_lt
    have high := small ⟨b.toNat / 16, by omega⟩
    have low := small ⟨b.toNat % 16, by omega⟩
    rw [digits, List.flatMap_cons, List.map_append, ← digits, ih]
    simp only [digitPair, List.map_cons, List.map_nil, high, low]

/-- Written digits are a spelling of themselves. -/
theorem isSpelling_encode (bytes : List UInt8) : IsSpelling (encode bytes) (encode bytes) := by
  refine ⟨[], [], digits bytes, [], ?_, by simp, by simp, by simp, ?_⟩
  · rw [encode_toList, List.nil_append, List.nil_append, List.append_nil]
  · rw [encode_toList, map_toLower_digits]

/-- The first two characters of a spelling are the digits of the first byte. -/
theorem spelling_cons {b : UInt8} {bytes : List UInt8} {body : List Char}
    (h : body.map Char.toLower = digits (b :: bytes)) :
    ∃ high low rest, body = high :: low :: rest ∧ Digit high (b.toNat / 16) ∧
      Digit low (b.toNat % 16) ∧ rest.map Char.toLower = digits bytes := by
  have hb := b.toNat_lt
  obtain ⟨high, tail, rfl, hhigh, htail⟩ := List.map_eq_cons_iff.mp h
  obtain ⟨low, rest, rfl, hlow, hrest⟩ := List.map_eq_cons_iff.mp htail
  exact ⟨high, low, rest, rfl, digit_of_toLower (by omega) hhigh,
    digit_of_toLower (Nat.mod_lt _ (by decide)) hlow, hrest⟩

/-- Every character that spells bytes out is a digit. -/
theorem digit_of_mem_spelling {bytes : List UInt8} {body : List Char}
    (h : body.map Char.toLower = digits bytes) : ∀ c ∈ body, ∃ v, Digit c v := by
  induction bytes generalizing body with
  | nil =>
    intro c hc
    rw [List.map_eq_nil_iff.mp h] at hc
    cases hc
  | cons b bytes ih =>
    obtain ⟨high, low, rest, rfl, hhigh, hlow, hrest⟩ := spelling_cons h
    intro c hc
    rcases List.mem_cons.mp hc with rfl | hc
    · exact ⟨_, hhigh⟩
    · rcases List.mem_cons.mp hc with rfl | hc
      · exact ⟨_, hlow⟩
      · exact ih hrest c hc

/-- Digits in either case are read as the bytes that they spell out. -/
theorem decodePairs_spelling {bytes : List UInt8} {body : List Char}
    (h : body.map Char.toLower = digits bytes) (position : Nat) :
    decodePairs position (utf8 body) = .ok bytes := by
  induction bytes generalizing body position with
  | nil => rw [List.map_eq_nil_iff.mp h]; rfl
  | cons b bytes ih =>
    obtain ⟨high, low, rest, rfl, hhigh, hlow, hrest⟩ := spelling_cons h
    have hb : UInt8.ofNat (16 * (b.toNat / 16) + b.toNat % 16) = b := by
      rw [Nat.div_add_mod, UInt8.ofNat_toNat]
    rw [utf8, List.flatMap_cons, List.flatMap_cons, hhigh.utf8, hlow.utf8, ← utf8,
      List.singleton_append, List.singleton_append, decodePairs]
    simp only [hhigh.value, hlow.value, ih hrest, Except.map, hb]

/-- Two bytes of text spell out a byte. -/
theorem length_utf8_spelling {bytes : List UInt8} {body : List Char}
    (h : body.map Char.toLower = digits bytes) : (utf8 body).length = 2 * bytes.length := by
  induction bytes generalizing body with
  | nil => rw [List.map_eq_nil_iff.mp h]; rfl
  | cons b bytes ih =>
    obtain ⟨high, low, rest, rfl, hhigh, hlow, hrest⟩ := spelling_cons h
    have := ih hrest
    rw [utf8, List.flatMap_cons, List.flatMap_cons, hhigh.utf8, hlow.utf8, ← utf8]
    simp only [List.length_append, List.length_cons, List.length_nil]
    omega

/-! ### Prefix and blanks -/

/-- No spelling starts like a prefix, so taking one away loses no digits. -/
theorem dropPrefix_spelling {bytes : List UInt8} {lead body : List Char}
    (hlead : lead ∈ [[], ['0', 'x'], ['0', 'X']]) (h : body.map Char.toLower = digits bytes) :
    dropPrefix (lead ++ body) = body := by
  simp only [List.mem_cons, List.not_mem_nil, or_false] at hlead
  rcases hlead with rfl | rfl | rfl
  · cases bytes with
    | nil => rw [List.map_eq_nil_iff.mp h]; rfl
    | cons b bytes =>
      obtain ⟨high, low, rest, rfl, -, hlow, -⟩ := spelling_cons h
      -- Without a prefix, the second character is a digit and thus no `x`.
      obtain ⟨hx, hX⟩ := hlow.not_x
      rw [List.nil_append]
      unfold dropPrefix
      split
      · next heq => exact absurd (List.cons.inj (List.cons.inj heq).2).1 hx
      · next heq => exact absurd (List.cons.inj (List.cons.inj heq).2).1 hX
      · rfl
  · rfl
  · rfl

/-- However its digits are spelled, the same bytes are read. -/
theorem decode_trim_of_isSpelling {bytes : List UInt8} {text : String}
    (h : IsSpelling (encode bytes) text) : decode (trim text) = .ok bytes := by
  obtain ⟨before, lead, body, after, htext, hbefore, hafter, hlead, hbody⟩ := h
  rw [encode_toList] at hbody
  -- Neither the prefix nor a digit is blank, so trimming stops at them.
  have hcore : ∀ c ∈ lead ++ body, isBlank c = false := by
    intro c hc
    rcases List.mem_append.mp hc with hc | hc
    · simp only [List.mem_cons, List.not_mem_nil, or_false] at hlead
      rcases hlead with rfl | rfl | rfl
      · cases hc
      · simp only [List.mem_cons, List.not_mem_nil, or_false] at hc
        rcases hc with rfl | rfl <;> decide
      · simp only [List.mem_cons, List.not_mem_nil, or_false] at hc
        rcases hc with rfl | rfl <;> decide
    · obtain ⟨v, hdigit⟩ := digit_of_mem_spelling hbody c hc
      exact hdigit.not_blank
  have htrim : (trim text).toList = lead ++ body := by
    rw [trim, String.toList_ofList, htext]
    apply trimChars_padded hbefore hafter
    · exact fun c hc => hcore c (List.mem_of_mem_head? hc)
    · exact fun c hc => hcore c (List.mem_of_mem_getLast? hc)
  rw [decode, htrim, dropPrefix_spelling hlead hbody, length_utf8_spelling hbody,
    if_neg (by omega), decodePairs_spelling hbody]

/-- Different bytes have different digits. -/
theorem encode_injective {bytes bytes' : List UInt8} (same : encode bytes = encode bytes') :
    bytes = bytes' := by
  have first := decode_trim_of_isSpelling (isSpelling_encode bytes)
  have second := decode_trim_of_isSpelling (isSpelling_encode bytes')
  rw [same, second] at first
  exact (Except.ok.inj first).symm

/-! ### Byte strings of a given length -/

/-- The prefixed form is read back where the number of bytes is known. -/
theorem decodeFixed_encodePrefixed (bytes : List UInt8) :
    decodeFixed bytes.length (encodePrefixed bytes) = .ok bytes := by
  have spelled := map_toLower_digits bytes
  have lead : dropPrefix ('0' :: 'x' :: digits bytes) = digits bytes := rfl
  rw [decodeFixed, encodePrefixed, String.toList_ofList, lead, length_utf8_spelling spelled,
    if_neg (by omega), if_neg (by omega), decodePairs_spelling spelled]

end WalletRelay.Hex
