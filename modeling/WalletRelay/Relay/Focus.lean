/-!
# Focus

Several relays may run side by side; only the one in focus answers calls. Whoever sets the focus last
decides, and is told what it was before.
-/

namespace WalletRelay

structure FocusGate where
  isFocused : Bool := true
deriving DecidableEq, Repr

/-- Set the focus; the answer is what it was before. -/
def FocusGate.setFocused (gate : FocusGate) (focused : Bool) : Bool × FocusGate :=
  (gate.isFocused, ⟨focused⟩)

end WalletRelay
