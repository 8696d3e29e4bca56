/-!
# Byte strings and numbers

A byte string is a `List UInt8`. Addresses and hashes are byte strings of one length, so the length
is part of their type. Numbers are written big-endian, either in as few bytes as possible or padded
to a given length.

Main statements: a number written in as few bytes as possible reads back and starts with no zero
byte (`value_minimal`, `head?_minimal_ne_zero`), and bytes are the padded form of their own number
(`padded_value`), so that bytes of one length are told apart by it (`eq_of_value_eq`).
-/

namespace WalletRelay

structure FixedBytes (n : Nat) where
  /-- The bytes in order. -/
  toList : List UInt8
  /-- There are `n` of them. -/
  length_toList : toList.length = n
deriving DecidableEq, Repr

namespace FixedBytes

@[ext] theorem ext {n : Nat} {a b : FixedBytes n} (h : a.toList = b.toList) : a = b := by
  cases a; cases b; simp_all

def ofList? (n : Nat) (bytes : List UInt8) : Option (FixedBytes n) :=
  if h : bytes.length = n then some ⟨bytes, h⟩ else none

/-- The last `n` bytes of a byte string, with zero bytes in front of a shorter one. -/
def lastBytes (n : Nat) (bytes : List UInt8) : FixedBytes n where
  toList := List.replicate (n - bytes.length) 0 ++ bytes.drop (bytes.length - n)
  length_toList := by simp; omega

@[simp] theorem ofList?_toList {n : Nat} (a : FixedBytes n) : ofList? n a.toList = some a := by
  simp [ofList?, a.length_toList]

end FixedBytes

namespace BigEndian

/-- The number whose base-256 digits are the bytes, the most significant first. -/
def value (bytes : List UInt8) : Nat :=
  bytes.foldl (fun n b => 256 * n + b.toNat) 0

/-- The fewest bytes that write `n`: none at all for zero. -/
def minimal (n : Nat) : List UInt8 :=
  if n = 0 then [] else minimal (n / 256) ++ [UInt8.ofNat n]

/-- The last `length` base-256 digits of `n`. -/
def padded : (length : Nat) → (n : Nat) → List UInt8
  | 0, _ => []
  | length + 1, n => padded length (n / 256) ++ [UInt8.ofNat n]

@[simp] theorem value_append_singleton (bytes : List UInt8) (b : UInt8) :
    value (bytes ++ [b]) = 256 * value bytes + b.toNat := by
  simp [value]

@[simp] theorem value_minimal (n : Nat) : value (minimal n) = n := by
  fun_induction minimal n with
  | case1 => rfl
  | case2 n _ ih => simp [ih]; omega

@[simp] theorem padded_value (bytes : List UInt8) : padded bytes.length (value bytes) = bytes := by
  generalize hn : bytes.length = n
  induction n generalizing bytes with
  | zero => simpa [padded] using (List.length_eq_zero_iff.1 hn).symm
  | succ n ih =>
    rcases List.eq_nil_or_concat bytes with rfl | ⟨front, b, rfl⟩
    · simp at hn
    · have hb : b.toNat < 256 := b.toNat_lt
      have hq : (256 * value front + b.toNat) / 256 = value front := by omega
      have hr : UInt8.ofNat (256 * value front + b.toNat) = b := by
        apply UInt8.toNat_inj.1
        simp
      simp only [List.concat_eq_append, List.length_append, List.length_singleton,
        Nat.add_right_cancel_iff] at hn
      simp [padded, hq, hr, ih front hn]

/-- Byte strings of one length are told apart by their values. -/
theorem eq_of_value_eq {a b : List UInt8} (length : a.length = b.length)
    (h : value a = value b) : a = b := by
  rw [← padded_value a, ← padded_value b, length, h]

theorem minimal_eq_nil_iff {n : Nat} : minimal n = [] ↔ n = 0 := by
  rw [minimal]; split <;> simp_all

/-- The shortest bytes of a number do not begin with a zero. -/
theorem head?_minimal_ne_zero (n : Nat) : (minimal n).head? ≠ some 0 := by
  fun_induction minimal n with
  | case1 => simp
  | case2 n hn ih =>
    by_cases h : n / 256 = 0
    · have small : n < 256 := by omega
      have step : minimal (n / 256) = [] := by rw [h]; simp [minimal]
      simp only [step, List.nil_append, List.head?_cons, ne_eq, Option.some.injEq]
      intro h0
      have : (UInt8.ofNat n).toNat = 0 := by rw [h0]; rfl
      simp at this
      omega
    · have := mt minimal_eq_nil_iff.1 h
      cases hm : minimal (n / 256) with
      | nil => exact absurd hm this
      | cons b r => simpa [hm] using ih

end BigEndian
end WalletRelay
