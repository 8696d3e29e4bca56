import WalletRelay.Proofs.Rlp.Header

/-!
# Readers and the written forms they take

A reader and a writer belong together if the reader takes from the bytes ahead exactly the written
forms of values and nothing else:

    Takes read p write :  read bytes = .ok (a, rest) ↔ p a ∧ bytes = write a ++ rest

Read from right to left this is the round trip, whatever bytes follow; read from left to right it says
that no second form of a value is accepted. The condition `p` is what is known of the value beforehand;
it lets `Takes.bind` put a record together from its fields. Lengths have at most eight bytes, so the
law is about inputs shorter than `UInt64.size`.
-/

namespace WalletRelay.Rlp

variable {α β : Type}

/-- From the bytes ahead `read` takes exactly the values with `p`, each in the form `write` gives. -/
def Takes (read : Reader α) (p : α → Prop) (write : α → List UInt8) : Prop :=
  ∀ bytes : List UInt8, bytes.length < UInt64.size → ∀ a rest,
    read bytes = .ok (a, rest) ↔ p a ∧ bytes = write a ++ rest

/-- A header leaves no more bytes than there were. -/
theorem Headed.length_le {bytes rest : List UInt8} {h : Header} (hh : Headed bytes h rest) :
    rest.length ≤ bytes.length := by
  cases hh with
  | byte => exact Nat.le_refl _
  | string => rw [List.length_append]; exact Nat.le_add_left ..
  | list => rw [List.length_append]; exact Nat.le_add_left ..

/-- What follows the first part of an input is no longer than the input. -/
theorem length_tail_lt {front tail : List UInt8} (short : (front ++ tail).length < UInt64.size) :
    tail.length < UInt64.size := by
  rw [List.length_append] at short
  omega

/-! ### Putting readers together -/

theorem Reader.bind_eq_ok_iff {x : Reader α} {f : α → Reader β} {bytes : List UInt8}
    {r : β × List UInt8} :
    (x >>= f) bytes = .ok r ↔ ∃ a mid, x bytes = .ok (a, mid) ∧ f a mid = .ok r := by
  show (x bytes >>= fun s => f s.1 s.2) = .ok r ↔ _
  rw [Except.bind_eq_ok_iff]
  simp

theorem Takes.written {read : Reader α} {p : α → Prop} {write write' : α → List UInt8}
    (h : Takes read p write) (hw : ∀ a, write' a = write a) : Takes read p write' := by
  rwa [funext hw]

/-- The end of a record: the value is all there, and nothing more is read. -/
theorem Takes.pure {p : α → Prop} (a : α) (hp : ∀ b, p b ↔ a = b) :
    Takes (pure a) p fun _ => [] := by
  intro bytes _ b rest
  rw [hp]
  show Except.ok (a, bytes) = .ok (b, rest) ↔ _
  simp

/-- A field, then the rest of the record: what follows the field knows its value. -/
theorem Takes.bind {x : Reader α} {f : α → Reader β} {p : β → Prop} {wx : α → List UInt8}
    {wf : β → List UInt8} (field : β → α) (hx : Takes x (fun _ => True) wx)
    (hf : ∀ a, Takes (f a) (fun b => field b = a ∧ p b) wf) :
    Takes (x >>= f) p fun b => wx (field b) ++ wf b := by
  intro bytes short b rest
  rw [Reader.bind_eq_ok_iff]
  constructor
  -- The field that was read first is the one that the record has in its place.
  · rintro ⟨a, mid, hxa, hfa⟩
    obtain ⟨-, rfl⟩ := (hx bytes short a mid).mp hxa
    obtain ⟨⟨rfl, hp⟩, rfl⟩ := (hf a mid (length_tail_lt short) b rest).mp hfa
    exact ⟨hp, (List.append_assoc ..).symm⟩
  · rintro ⟨hp, rfl⟩
    rw [List.append_assoc] at short ⊢
    refine ⟨field b, wf b ++ rest, (hx _ short _ _).mpr ⟨trivial, rfl⟩, ?_⟩
    exact (hf _ _ (length_tail_lt short) b rest).mpr ⟨⟨rfl, hp⟩, rfl⟩

/-! ### Strings and lists -/

/-- A header is read exactly if it is ahead and the payload that it announces is there. -/
theorem readHeader_eq_ok_iff {bytes rest : List UInt8} {h : Header} :
    readHeader bytes = .ok (h, rest) ↔ Headed bytes h rest ∧ h.length ≤ rest.length := by
  rw [← looseHeader_eq_ok_iff, readHeader]
  constructor
  · intro hr
    split at hr
    · cases hr
    · next heq =>
      split at hr
      · cases hr
      · next hlen => cases hr; exact ⟨heq, by omega⟩
  · rintro ⟨heq, hlen⟩
    rw [heq]
    exact if_neg (by omega)

theorem string_of_length_ne_one {bytes : List UInt8} (h : bytes.length ≠ 1) :
    string bytes = header 0x80 bytes.length ++ bytes := by
  match bytes with
  | [] => rfl
  | [_] => exact absurd rfl h
  | _ :: _ :: _ => rfl

/-- A string is written as its header and its bytes, except that a byte below `80` stands for itself;
the reader's relation has the same exception. -/
theorem headed_string_iff {bytes payload rest : List UInt8} :
    Headed bytes ⟨false, payload.length⟩ (payload ++ rest) ↔
      bytes = string payload ++ rest ∧ payload.length < UInt64.size := by
  constructor
  · intro hh
    generalize hlen : payload.length = n at hh
    generalize hafter : payload ++ rest = after at hh
    cases hh with
    -- A byte below `80` is its own header, and then the payload is this byte.
    | @byte b tail hb =>
      obtain ⟨c, rfl⟩ := List.length_eq_one_iff.mp hlen
      cases hafter
      have : b < 0x80 := by rw [UInt8.lt_iff_toNat_lt]; simpa using hb
      exact ⟨by simp [string, this], by decide⟩
    | string hn single =>
      refine ⟨?_, hn⟩
      subst hafter hlen
      by_cases h1 : payload.length = 1
      · obtain ⟨c, rfl⟩ := List.length_eq_one_iff.mp h1
        obtain ⟨c', tail, heq, hc⟩ := single rfl
        cases heq
        have : ¬ c < 0x80 := by rw [UInt8.lt_iff_toNat_lt]; simpa using hc
        simp [string, this, header_short]
      · rw [string_of_length_ne_one h1, List.append_assoc]
  · rintro ⟨rfl, hlt⟩
    by_cases h1 : payload.length = 1
    · obtain ⟨c, rfl⟩ := List.length_eq_one_iff.mp h1
      by_cases hc : c < 0x80
      · have : c.toNat < 0x80 := by rw [UInt8.lt_iff_toNat_lt] at hc; simpa using hc
        simpa [string, hc] using Headed.byte this
      · have hge : 0x80 ≤ c.toNat := by rw [UInt8.lt_iff_toNat_lt] at hc; simpa using hc
        have : Headed (header 0x80 1 ++ c :: rest) ⟨false, 1⟩ (c :: rest) :=
          .string (by decide) fun _ => ⟨c, rest, rfl, hge⟩
        simpa [string, hc, header_short] using this
    · rw [string_of_length_ne_one h1, List.append_assoc]
      exact .string hlt fun h => absurd h h1

/-- A list is ahead exactly if its header is, with the length of its payload. -/
theorem headed_list_iff {bytes payload rest : List UInt8} :
    Headed bytes ⟨true, payload.length⟩ (payload ++ rest) ↔
      bytes = list payload ++ rest ∧ payload.length < UInt64.size := by
  rw [list, List.append_assoc]
  constructor
  · intro hh
    generalize hlen : payload.length = n at hh
    generalize hafter : payload ++ rest = after at hh
    cases hh with
    | list hn => exact ⟨rfl, hn⟩
  · rintro ⟨rfl, hlt⟩
    exact .list hlt

/-- A payload is what follows a header of its kind, up to the length that the header announces. Strings and
lists are read alike, but for the kind. -/
theorem readPayload_eq_ok_iff {read : Reader (List UInt8)} {isList : Bool} (wrongKind : Error)
    (reads : ∀ bytes, read bytes = readHeader bytes >>= fun ahead =>
      if ahead.1.isList = isList then
        .ok (ahead.2.take ahead.1.length, ahead.2.drop ahead.1.length)
      else .error wrongKind)
    {bytes payload rest : List UInt8} :
    read bytes = .ok (payload, rest) ↔ Headed bytes ⟨isList, payload.length⟩ (payload ++ rest) := by
  rw [reads, Except.bind_eq_ok_iff]
  constructor
  · rintro ⟨⟨⟨kind, n⟩, after⟩, hr, taken⟩
    split at taken
    · next same =>
      obtain rfl : kind = isList := same
      cases taken
      obtain ⟨hh, hlen⟩ := readHeader_eq_ok_iff.mp hr
      rwa [List.take_append_drop, List.length_take_of_le hlen]
    · cases taken
  · intro hh
    -- The payload is there, so the header that is ahead can be read.
    have hlen : payload.length ≤ (payload ++ rest).length := by
      rw [List.length_append]
      exact Nat.le_add_right ..
    refine ⟨(⟨isList, payload.length⟩, payload ++ rest), readHeader_eq_ok_iff.mpr ⟨hh, hlen⟩, ?_⟩
    rw [if_pos rfl, List.take_left, List.drop_left]

/-- A string is read exactly from its written form. -/
theorem readString_eq_ok_iff {bytes payload rest : List UInt8} :
    readString bytes = .ok (payload, rest) ↔
      bytes = string payload ++ rest ∧ payload.length < UInt64.size := by
  rw [← headed_string_iff]
  refine readPayload_eq_ok_iff .unexpectedList fun bytes => ?_
  rw [readString]
  cases readHeader bytes with
  | error e => rfl
  | ok header => cases hkind : header.1.isList <;> simp [hkind, Except.ok_bind]

/-- The payload of a list is read exactly from the written form of the list. -/
theorem readListPayload_eq_ok_iff {bytes payload rest : List UInt8} :
    readListPayload bytes = .ok (payload, rest) ↔
      bytes = list payload ++ rest ∧ payload.length < UInt64.size := by
  rw [← headed_list_iff]
  refine readPayload_eq_ok_iff .unexpectedString fun bytes => ?_
  rw [readListPayload]
  cases readHeader bytes with
  | error e => rfl
  | ok header => rfl

/-- What fits into the input fits into a header. -/
theorem length_lt_of_string {payload rest : List UInt8}
    (short : (string payload ++ rest).length < UInt64.size) : payload.length < UInt64.size := by
  refine Nat.lt_of_le_of_lt ?_ short
  rw [List.length_append]
  by_cases h1 : payload.length = 1
  · obtain ⟨c, rfl⟩ := List.length_eq_one_iff.mp h1
    rw [string]
    split
    · simp
    · simp
      omega
  · rw [string_of_length_ne_one h1, List.length_append]
    omega

theorem length_lt_of_list {payload rest : List UInt8}
    (short : (list payload ++ rest).length < UInt64.size) : payload.length < UInt64.size := by
  refine Nat.lt_of_le_of_lt ?_ short
  rw [list, List.append_assoc, List.length_append, List.length_append]
  omega

theorem length_payload_lt {payload : List UInt8} (short : (list payload).length < UInt64.size) :
    payload.length < UInt64.size := by
  rw [← List.append_nil (list payload)] at short
  exact length_lt_of_list short

theorem takes_string : Takes readString (fun _ => True) string := by
  intro bytes short payload rest
  rw [readString_eq_ok_iff, true_and]
  refine and_iff_left_of_imp ?_
  rintro rfl
  exact length_lt_of_string short

/-! ### Values of a fixed size -/

theorem ofList?_eq_some_iff {size : Nat} {bytes : List UInt8} {a : FixedBytes size} :
    FixedBytes.ofList? size bytes = some a ↔ bytes = a.toList := by
  rw [FixedBytes.ofList?]
  constructor
  · intro h
    split at h
    · cases h; rfl
    · cases h
  · rintro rfl
    rw [dif_pos a.length_toList]

/-- Byte strings of a given length are read from their written form and from nothing else. -/
theorem takes_fixed (size : Nat) :
    Takes (readFixed size) (fun _ => True) fun a => string a.toList := by
  intro bytes short a rest
  dsimp only
  rw [readFixed]
  constructor
  · intro h
    split at h
    · cases h
    · next payload after hs =>
      split at h
      · cases h
      · next a' ha =>
        cases h
        rw [← ofList?_eq_some_iff.mp ha]
        exact (takes_string bytes short _ _).mp hs
  · intro h
    rw [(takes_string bytes short _ _).mpr h]
    simp

/-- The payloads that a number of `size` bytes may have: of all the strings with its value, the one
without leading zeros. -/
theorem payload_eq_minimal_iff {size : Nat} {payload : List UInt8} {w : BitVec (8 * size)} :
    payload.length ≤ size ∧ payload.head? ≠ some 0 ∧
      BitVec.ofNat (8 * size) (BigEndian.value payload) = w ↔
    payload = BigEndian.minimal w.toNat := by
  have hpow : 2 ^ (8 * size) = 256 ^ size := Nat.pow_mul 2 8 size
  constructor
  · rintro ⟨hlen, hhead, rfl⟩
    have hval : BigEndian.value payload < 2 ^ (8 * size) := by
      rw [hpow]
      exact BigEndian.value_lt_of_length_le hlen
    rw [BitVec.toNat_ofNat, Nat.mod_eq_of_lt hval, BigEndian.minimal_value hhead]
  · rintro rfl
    have hlen : (BigEndian.minimal w.toNat).length ≤ size := by
      rw [BigEndian.length_minimal_le_iff, ← hpow]
      exact w.isLt
    refine ⟨hlen, BigEndian.head?_minimal_ne_zero _, ?_⟩
    rw [BigEndian.value_minimal]
    simp

/-- Numbers of a given width are read from their written form and from nothing else. -/
theorem takes_word (size : Nat) :
    Takes (readWord size) (fun _ => True) fun w => number w.toNat := by
  intro bytes short w rest
  dsimp only
  rw [readWord]
  constructor
  · intro h
    split at h
    · cases h
    · next payload after hs =>
      split at h
      · cases h
      · next hlen =>
        split at h
        · cases h
        · next hhead =>
          injection h with h
          obtain ⟨hw, rfl⟩ := Prod.mk.inj h
          -- Short enough and without a leading zero: this is the shortest form of its number.
          rw [number, ← payload_eq_minimal_iff.mp ⟨by omega, hhead, hw⟩]
          exact (takes_string bytes short _ _).mp hs
  · intro h
    obtain ⟨hlen, hhead, hw⟩ := payload_eq_minimal_iff.mpr (rfl : BigEndian.minimal w.toNat = _)
    rw [(takes_string bytes short _ _).mpr h]
    dsimp only
    rw [if_neg (by omega), if_neg hhead, hw]

/-- Amounts are read like words of 32 bytes; only the order of the two checks differs. -/
theorem takes_amount : Takes readAmount (fun _ => True) fun w => number w.toNat := by
  intro bytes short w rest
  rw [← takes_word 32 bytes short w rest, readAmount, readWord]
  cases readString bytes with
  | error e => simp
  | ok r =>
    dsimp only
    by_cases hhead : r.1.head? = some 0
    · rw [if_pos hhead]
      split <;> simp
    · rw [if_neg hhead, if_neg hhead]

/-! ### Lists and records -/

/-- The fields of a record are read without regard to its end; the comparison afterwards puts the end
where the header has it. -/
theorem takes_record {fields : Reader α} {write : α → List UInt8}
    (hf : Takes fields (fun _ => True) write) :
    Takes (readRecord fields) (fun _ => True) fun a => list (write a) := by
  intro bytes short a rest
  dsimp only
  rw [readRecord, true_and]
  constructor
  · intro h
    split at h
    · cases h
    · next head after hr =>
      obtain ⟨isList, n⟩ := head
      cases isList with
      | false => cases h
      | true =>
        have hh := (readHeader_eq_ok_iff.mp hr).1
        have hafter : after.length < UInt64.size := Nat.lt_of_le_of_lt hh.length_le short
        dsimp only at h
        rw [if_neg (by decide)] at h
        split at h
        · cases h
        · next a' after' hfields =>
          obtain ⟨-, rfl⟩ := (hf after hafter a' after').mp hfields
          split at h
          · next hgot =>
            cases h
            -- The fields may have gone beyond the end of the list; this compares what they took with its
            -- length.
            rw [List.length_append, Nat.add_sub_cancel] at hgot
            subst hgot
            exact (headed_list_iff.mp hh).1
          · cases h
  · rintro rfl
    have hh := headed_list_iff.mpr ⟨(rfl : list (write a) ++ rest = _), length_lt_of_list short⟩
    have hafter := Nat.lt_of_le_of_lt hh.length_le short
    rw [readHeader_eq_ok_iff.mpr ⟨hh, by rw [List.length_append]; exact Nat.le_add_right ..⟩]
    dsimp only
    rw [if_neg (by decide), (hf _ hafter a rest).mpr ⟨trivial, rfl⟩]
    dsimp only
    rw [List.length_append, Nat.add_sub_cancel, if_pos rfl]

/-- Items are read until nothing is left. Every item takes a byte at least, so the fuel lasts. -/
theorem readUntilEnd_eq_ok_iff {item : Reader α} {write : α → List UInt8}
    (hi : Takes item (fun _ => True) write) (hne : ∀ a, write a ≠ []) {fuel : Nat}
    {bytes : List UInt8} {items : List α} (short : bytes.length < UInt64.size)
    (hfuel : bytes.length ≤ fuel) :
    readUntilEnd item fuel bytes = .ok items ↔ bytes = items.flatMap write := by
  induction fuel generalizing bytes items with
  | zero =>
    have hnil : bytes = [] := List.length_eq_zero_iff.mp (by omega)
    subst hnil
    cases items with
    | nil => simp [readUntilEnd]
    | cons a items => simp [readUntilEnd, hne a]
  | succ fuel ih =>
    cases bytes with
    | nil =>
      cases items with
      | nil => simp [readUntilEnd]
      | cons a items => simp [readUntilEnd, hne a]
    | cons b bytes =>
      -- An item takes a byte at least, so the fuel lasts for the items behind it.
      have shorter {a : α} {rest : List UInt8} (heq : b :: bytes = write a ++ rest) :
          rest.length ≤ fuel ∧ rest.length < UInt64.size := by
        have hpos : 0 < (write a).length := List.length_pos_iff.mpr (hne a)
        have hlen := congrArg List.length heq
        rw [List.length_append] at hlen
        omega
      rw [readUntilEnd]
      constructor
      · intro h
        split at h
        · cases h
        · next a rest hitem =>
          obtain ⟨-, heq⟩ := (hi _ short a rest).mp hitem
          obtain ⟨hle, hlt⟩ := shorter heq
          obtain ⟨others, hothers, rfl⟩ := Except.map_eq_ok_iff.mp h
          rw [List.flatMap_cons, ← (ih hlt hle).mp hothers, heq]
      · intro h
        cases items with
        | nil => cases h
        | cons a items =>
          rw [List.flatMap_cons] at h
          obtain ⟨hle, hlt⟩ := shorter h
          rw [(hi _ short a _).mpr ⟨trivial, h⟩]
          dsimp only
          rw [(ih hlt hle).mpr rfl]
          rfl

/-- Lists are read item by item from their written form and from nothing else. -/
theorem takes_list {item : Reader α} {write : α → List UInt8}
    (hi : Takes item (fun _ => True) write) (hne : ∀ a, write a ≠ []) :
    Takes (readList item) (fun _ => True) fun items => list (items.flatMap write) := by
  intro bytes short items rest
  dsimp only
  rw [readList, true_and]
  constructor
  · intro h
    split at h
    · cases h
    · next payload after hr =>
      obtain ⟨rfl, hlt⟩ := readListPayload_eq_ok_iff.mp hr
      obtain ⟨items', hitems, heq⟩ := Except.map_eq_ok_iff.mp h
      cases heq
      rw [← (readUntilEnd_eq_ok_iff hi hne hlt (Nat.le_refl _)).mp hitems]
  · rintro rfl
    have hlt := length_lt_of_list short
    rw [readListPayload_eq_ok_iff.mpr ⟨rfl, hlt⟩]
    dsimp only
    rw [(readUntilEnd_eq_ok_iff hi hne hlt (Nat.le_refl _)).mpr rfl]
    rfl

/-! ### Unique reading

A reader gives one result, so bytes begin with one written form at most. Where an item ends is settled by
the item itself, whatever follows it. -/

/-- Where two written values begin the same bytes, they are the same, and so is what follows. -/
theorem Takes.append_inj {read : Reader α} {p : α → Prop} {write : α → List UInt8}
    (h : Takes read p write) {a b : α} {rest rest' : List UInt8} (ha : p a) (hb : p b)
    (short : (write a ++ rest).length < UInt64.size) (same : write a ++ rest = write b ++ rest') :
    a = b ∧ rest = rest' := by
  have first : read (write a ++ rest) = .ok (a, rest) := (h _ short a rest).mpr ⟨ha, rfl⟩
  have second : read (write a ++ rest) = .ok (b, rest') := (h _ short b rest').mpr ⟨hb, same⟩
  rw [first] at second
  exact Prod.mk.inj (Except.ok.inj second)

theorem number_append_inj {m n : Nat} {rest rest' : List UInt8}
    (short : (number m ++ rest).length < UInt64.size)
    (same : number m ++ rest = number n ++ rest') : m = n ∧ rest = rest' := by
  obtain ⟨digits, after⟩ := takes_string.append_inj trivial trivial short same
  have value := congrArg BigEndian.value digits
  rw [BigEndian.value_minimal, BigEndian.value_minimal] at value
  exact ⟨value, after⟩

theorem number_inj {m n : Nat} (short : (number m).length < UInt64.size)
    (same : number m = number n) : m = n := by
  rw [← List.append_nil (number m)] at short
  rw [← List.append_nil (number m), ← List.append_nil (number n)] at same
  exact (number_append_inj short same).1

/-- A written list tells its payload from what follows. -/
theorem list_append_inj {payload payload' rest rest' : List UInt8}
    (short : payload.length < UInt64.size) (short' : payload'.length < UInt64.size)
    (same : list payload ++ rest = list payload' ++ rest') : payload = payload' ∧ rest = rest' := by
  have first := readListPayload_eq_ok_iff.mpr ⟨(rfl : list payload ++ rest = _), short⟩
  have second := readListPayload_eq_ok_iff.mpr ⟨same, short'⟩
  rw [first] at second
  exact Prod.mk.inj (Except.ok.inj second)

theorem list_inj {payload payload' : List UInt8} (short : (list payload).length < UInt64.size)
    (same : list payload = list payload') : payload = payload' := by
  have short' : (list payload').length < UInt64.size := by rwa [← same]
  rw [← List.append_nil (list payload), ← List.append_nil (list payload')] at same
  exact (list_append_inj (length_payload_lt short) (length_payload_lt short') same).1

end WalletRelay.Rlp
