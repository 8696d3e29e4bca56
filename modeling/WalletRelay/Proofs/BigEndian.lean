import Mathlib.Algebra.Group.Nat.Defs
import WalletRelay.Bytes

/-!
# Numbers and their bytes

The bytes of a number without leading zeros are the *only* bytes without a leading zero that have its
value, so reading and writing such numbers are inverse to each other:

    minimal_value  : bytes.head? ≠ some 0 → minimal (value bytes) = bytes
    value_minimal  : value (minimal n) = n

The lengths say which numbers fit into a field: `n` has at most `k` bytes exactly if `n < 256 ^ k`.
-/

namespace WalletRelay.BigEndian

/-! ### The value of some bytes -/

/-- A number written in so many bytes is below the power of 256. -/
theorem value_lt (bytes : List UInt8) : value bytes < 256 ^ bytes.length := by
  generalize hn : bytes.length = n
  induction n generalizing bytes with
  | zero =>
    rw [List.length_eq_zero_iff.mp hn]
    decide
  | succ n ih =>
    rcases List.eq_nil_or_concat bytes with rfl | ⟨front, b, rfl⟩
    · simp at hn
    · have hfront : front.length = n := by simpa using hn
      have hlt : value front < 256 ^ n := ih front hfront
      have hb : b.toNat < 256 := b.toNat_lt
      rw [List.concat_eq_append, value_append_singleton, Nat.pow_succ]
      omega

theorem value_lt_of_length_le {bytes : List UInt8} {k : Nat} (h : bytes.length ≤ k) :
    value bytes < 256 ^ k :=
  Nat.lt_of_lt_of_le (value_lt bytes) (Nat.pow_le_pow_right (by decide) h)

/-! ### The fewest bytes of a number -/

theorem minimal_eq_append {n : Nat} (h : n ≠ 0) :
    minimal n = minimal (n / 256) ++ [UInt8.ofNat n] := by
  rw [minimal, if_neg h]

/-- The shortest form of a number fits into `k` bytes exactly if the number does. -/
theorem length_minimal_le_iff {n k : Nat} : (minimal n).length ≤ k ↔ n < 256 ^ k := by
  constructor
  · intro h
    have := value_lt_of_length_le h
    rwa [value_minimal] at this
  · intro h
    -- The last byte is one of the `k` bytes, and the others write the quotient.
    induction k generalizing n with
    | zero =>
      have : n = 0 := by simpa using h
      simp [minimal_eq_nil_iff.mpr this]
    | succ k ih =>
      by_cases hn : n = 0
      · simp [minimal_eq_nil_iff.mpr hn]
      · have hq : n / 256 < 256 ^ k := by rw [Nat.pow_succ] at h; omega
        have := ih hq
        rw [minimal_eq_append hn, List.length_append, List.length_singleton]
        omega

/-- Bytes without a leading zero are the fewest bytes of their value. -/
theorem minimal_value {bytes : List UInt8} (h : bytes.head? ≠ some 0) :
    minimal (value bytes) = bytes := by
  generalize hn : bytes.length = n
  induction n generalizing bytes with
  | zero => rw [List.length_eq_zero_iff.mp hn]; exact minimal_eq_nil_iff.mpr rfl
  | succ n ih =>
    rcases List.eq_nil_or_concat bytes with rfl | ⟨front, b, rfl⟩
    · simp at hn
    · have hb : b.toNat < 256 := b.toNat_lt
      rw [List.concat_eq_append] at h hn ⊢
      have hfront : minimal (value front) = front := by
        cases front with
        | nil => exact minimal_eq_nil_iff.mpr rfl
        | cons c front => exact ih (by simpa using h) (by simpa using hn)
      -- the number is not zero: either the front part counts, or `b` is the leading byte
      have hne : 256 * value front + b.toNat ≠ 0 := by
        intro h0
        have hzero : value front = 0 := by omega
        have hnil : front = [] := by rw [← hfront, hzero]; exact minimal_eq_nil_iff.mpr rfl
        have : b = 0 := UInt8.toNat_inj.mp (show b.toNat = 0 by omega)
        simp [hnil, this] at h
      have hq : (256 * value front + b.toNat) / 256 = value front := by omega
      have hr : UInt8.ofNat (256 * value front + b.toNat) = b := by
        apply UInt8.toNat_inj.mp
        simp
      rw [value_append_singleton, minimal_eq_append hne, hq, hr, hfront]

end WalletRelay.BigEndian
