import WalletRelay.Crypto.Secp256k1

/-!
# Evaluating signatures

Powers and multiples are computed by recursion on the size of a number. Here the same steps are counted
by the bits of the number (`powMod_eq_powBits`, `addMultiple_eq_addBits`): in this form the kernel can
carry them out, so that what is recovered from a given signature can be computed in a proof.
-/

namespace WalletRelay.Secp256k1

/-- A positive number has one bit more than its half. -/
theorem log2_half {n : Nat} (pos : n ≠ 0) (notOne : n ≠ 1) : n.log2 = (n / 2).log2 + 1 := by
  rw [Nat.log2_def, if_pos (by omega)]

theorem log2_one : Nat.log2 1 = 0 := by
  simp [Nat.log2_def]

/-- `powMod` with one step for each of the `bits` of the exponent. -/
def powBits (modulus : Nat) : (bits : Nat) → (base exponent : Nat) → Nat
  | 0, _, _ => 1
  | bits + 1, base, exponent =>
    if exponent = 0 then 1
    else
      let half := powBits modulus bits (base * base % modulus) (exponent / 2)
      if exponent % 2 = 1 then half * base % modulus else half

/-- The bits of the exponent are as many steps as the loop makes. -/
theorem powMod_eq_powBits (modulus base exponent : Nat) :
    powMod modulus base exponent = powBits modulus (exponent.log2 + 1) base exponent := by
  induction exponent using Nat.div2Induction generalizing base with
  | _ exponent ih =>
    rw [powMod, powBits]
    by_cases zero : exponent = 0
    · simp [zero]
    · -- At one bit the recursion on bits has run out, and the other ends at exponent zero.
      have half : powMod modulus (base * base % modulus) (exponent / 2) =
          powBits modulus exponent.log2 (base * base % modulus) (exponent / 2) := by
        by_cases one : exponent = 1
        · subst one
          simp [log2_one, powMod, powBits]
        · rw [log2_half zero one]
          exact ih (by omega) _
      simp only [half]

namespace Point

/-- `addMultiple` with one step for each of the `bits` of the factor. -/
def addBits : (bits : Nat) → (p : Point) → (k : Nat) → (sum : Point) → Point
  | 0, _, _, sum => sum
  | bits + 1, p, k, sum =>
    if k = 0 then sum
    else addBits bits p.double (k / 2) (if k % 2 = 1 then sum.add p else sum)

/-- The bits of the factor are as many steps as the loop makes. -/
theorem addMultiple_eq_addBits (p : Point) (k : Nat) (sum : Point) :
    p.addMultiple k sum = p.addBits (k.log2 + 1) k sum := by
  induction k using Nat.div2Induction generalizing p sum with
  | _ k ih =>
    rw [addMultiple, addBits]
    by_cases zero : k = 0
    · simp [zero]
    · by_cases one : k = 1
      · subst one
        simp [log2_one, addMultiple, addBits]
      · rw [log2_half zero one]
        simp only [zero, if_false]
        exact ih (by omega) _ _

end Point
end WalletRelay.Secp256k1
