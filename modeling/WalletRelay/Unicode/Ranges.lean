/-!
# Sets of characters

A property of characters is given by the closed ranges of code points that have it, in increasing
order.
-/

namespace WalletRelay.Unicode

abbrev Ranges := List (Nat × Nat)

def Ranges.contains (ranges : Ranges) (c : Char) : Bool :=
  ranges.any fun r => r.1 ≤ c.toNat && c.toNat ≤ r.2

end WalletRelay.Unicode
