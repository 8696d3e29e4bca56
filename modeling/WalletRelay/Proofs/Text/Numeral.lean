import Mathlib.Logic.Basic
import WalletRelay.Text.Numeral

/-!
# What a numeral stands for

`Numeral.Spells` says which texts stand for a number, without regard to how large a number may be. A number
below a bound is read from exactly the texts that stand for it (`Numeral.read_eq_ok_iff`): no digit is lost
before the bound is reached, because further digits never make a number smaller.
-/

namespace WalletRelay.Numeral

/-- The text stands for a number: it is made of digits, which may begin with zeros, and a plus sign may stand
in front of them. -/
def Spells (cs : List Char) (n : Nat) : Prop :=
  ∃ digits, (cs = digits ∨ cs = '+' :: digits) ∧ digits ≠ [] ∧ (∀ c ∈ digits, c.isDigit = true) ∧
    Nat.ofDigitChars 10 digits 0 = n

/-- Further digits never make a number smaller. -/
theorem le_ofDigitChars (cs : List Char) (value : Nat) : value ≤ Nat.ofDigitChars 10 cs value := by
  induction cs generalizing value with
  | nil => exact Nat.le_of_eq Nat.ofDigitChars_nil.symm
  | cons c rest ih =>
    have longer := ih (10 * value + (c.toNat - '0'.toNat))
    rw [Nat.ofDigitChars_cons]
    omega

variable {bound value n : Nat} {cs : List Char}

/-- Digits are read exactly if all characters are digits and the number stays below the bound. -/
theorem readDigits_eq_ok_iff (low : value < bound) :
    readDigits bound value cs = .ok n ↔
      (∀ c ∈ cs, c.isDigit = true) ∧ Nat.ofDigitChars 10 cs value = n ∧ n < bound := by
  induction cs generalizing value with
  | nil =>
    rw [readDigits, Nat.ofDigitChars_nil, Except.ok.injEq]
    constructor
    · rintro rfl
      exact ⟨nofun, rfl, low⟩
    · rintro ⟨-, same, -⟩
      exact same
  | cons c rest ih =>
    have zero : '0'.toNat = 48 := rfl
    rw [readDigits, Nat.ofDigitChars_cons, List.forall_mem_cons, zero]
    split
    next digit =>
      dsimp only
      split
      next high =>
        -- What follows does not bring the number back below the bound.
        have larger := le_ofDigitChars rest (10 * value + (c.toNat - 48))
        constructor
        · nofun
        · rintro ⟨-, rfl, small⟩
          omega
      next small =>
        rw [ih (Nat.not_le.1 small)]
        constructor
        · rintro ⟨digits, same, small⟩
          exact ⟨⟨digit, digits⟩, same, small⟩
        · rintro ⟨⟨-, digits⟩, same, small⟩
          exact ⟨digits, same, small⟩
    next other =>
      constructor
      · nofun
      · rintro ⟨⟨digit, -⟩, -⟩
        exact absurd digit other

/-- What stands for a number behind a sign has no second one. -/
theorem spells_signed_iff {digits : List Char} :
    Spells ('+' :: digits) n ↔
      digits ≠ [] ∧ (∀ c ∈ digits, c.isDigit = true) ∧ Nat.ofDigitChars 10 digits 0 = n := by
  constructor
  · rintro ⟨digits', rfl | signed, given, all, same⟩
    · exact absurd (all '+' List.mem_cons_self) (by decide)
    · cases signed
      exact ⟨given, all, same⟩
  · rintro ⟨given, all, same⟩
    exact ⟨digits, .inr rfl, given, all, same⟩

theorem spells_unsigned_iff (unsigned : ∀ digits, cs ≠ '+' :: digits) :
    Spells cs n ↔
      cs ≠ [] ∧ (∀ c ∈ cs, c.isDigit = true) ∧ Nat.ofDigitChars 10 cs 0 = n := by
  constructor
  · rintro ⟨digits, rfl | signed, given, all, same⟩
    · exact ⟨given, all, same⟩
    · exact absurd signed (unsigned digits)
  · rintro ⟨given, all, same⟩
    exact ⟨cs, .inl rfl, given, all, same⟩

/-- A number below the bound is read from the texts that stand for it, and nothing else is read. -/
theorem read_eq_ok_iff (positive : 0 < bound) : read bound cs = .ok n ↔ Spells cs n ∧ n < bound := by
  unfold read
  split
  next =>
    have unsigned : ∀ digits, [] ≠ '+' :: digits := nofun
    rw [spells_unsigned_iff unsigned]
    constructor
    · nofun
    · rintro ⟨⟨given, -⟩, -⟩
      exact absurd rfl given
  next =>
    rw [spells_signed_iff]
    constructor
    · nofun
    · rintro ⟨⟨given, -⟩, -⟩
      exact absurd rfl given
  next digits given =>
    rw [readDigits_eq_ok_iff positive, spells_signed_iff, and_assoc, and_assoc, and_iff_right given]
  next given _ unsigned =>
    rw [readDigits_eq_ok_iff positive, spells_unsigned_iff unsigned, and_assoc, and_assoc,
      and_iff_right given]

/-- A number that cannot be read is too large. -/
theorem le_of_read_error {problem : Error} (positive : 0 < bound)
    (unread : read bound cs = .error problem) (spells : Spells cs n) : bound ≤ n := by
  refine Nat.not_lt.1 ?_
  intro small
  rw [(read_eq_ok_iff positive).2 ⟨spells, small⟩] at unread
  cases unread

/-- A text stands for one number at most. -/
theorem Spells.unique {m : Nat} (h : Spells cs n) (h' : Spells cs m) : n = m := by
  have first := (read_eq_ok_iff (Nat.zero_lt_succ (max n m))).2 ⟨h, by omega⟩
  have second := (read_eq_ok_iff (Nat.zero_lt_succ (max n m))).2 ⟨h', by omega⟩
  exact Except.ok.inj (first.symm.trans second)

/-! ### Written numbers -/

theorem toList_toString_ne_nil (n : Nat) : (toString n).toList ≠ [] := by
  rw [Nat.toString_eq_repr, Nat.toList_repr]
  exact Nat.toDigits_ne_nil

theorem isDigit_of_mem_toString {c : Char} (mem : c ∈ (toString n).toList) : c.isDigit = true := by
  rw [Nat.toString_eq_repr, Nat.toList_repr] at mem
  exact Nat.isDigit_of_mem_toDigits (by decide) (by decide) mem

/-- The written form of a number stands for it. -/
theorem spells_toString (n : Nat) : Spells (toString n).toList n := by
  refine ⟨(toString n).toList, .inl rfl, toList_toString_ne_nil n, fun _ => isDigit_of_mem_toString, ?_⟩
  rw [Nat.toString_eq_repr, Nat.toList_repr, Nat.ofDigitChars_ten_toDigits]

/-- Different numbers have different written forms. -/
theorem toString_inj {m : Nat} : toString n = toString m ↔ n = m := by
  constructor
  · intro same
    have spells := spells_toString n
    rw [same] at spells
    exact spells.unique (spells_toString m)
  · rintro rfl
    rfl

end WalletRelay.Numeral
