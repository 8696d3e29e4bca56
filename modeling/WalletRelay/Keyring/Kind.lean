import WalletRelay.Json.Decode

/-!
# Kinds of keyring

One kind for each make of hardware wallet. A kind has a tag for requests, a name for people and a
root path under which its first accounts are looked for. The serialized form of a kind is its tag.
-/

namespace WalletRelay

/-- The root path at which accounts differ in their account level. -/
def ledgerLivePath : String := "m/44'/60'/0'/0/0"

/-- The root path at which accounts differ in their last index. -/
def bip44Path : String := "m/44'/60'/0'/0"

inductive KeyringKind where
  | ledger
  | trezor
  | lattice
deriving DecidableEq, Repr

namespace KeyringKind

def all : List KeyringKind := [.ledger, .trezor, .lattice]

def tag : KeyringKind → String
  | .ledger => "ledger"
  | .trezor => "trezor"
  | .lattice => "lattice"

def displayName : KeyringKind → String
  | .ledger => "Ledger Hardware"
  | .trezor => "Trezor Hardware"
  | .lattice => "Lattice Hardware"

def defaultPath : KeyringKind → String
  | .ledger => ledgerLivePath
  | .trezor => bip44Path
  | .lattice => bip44Path

/-- The kind with the given tag or name. -/
def ofText? (s : String) : Option KeyringKind :=
  all.find? fun kind => kind.tag == s || kind.displayName == s

def ofJson (j : Json) : Decoded KeyringKind :=
  j.asWord (all.map fun kind => (kind.tag, kind))

end KeyringKind

/-- One value for each kind. -/
structure ByKind (α : Type) where
  ledger : α
  trezor : α
  lattice : α
deriving DecidableEq, Repr

namespace ByKind

variable {α β : Type}

def get (b : ByKind α) : KeyringKind → α
  | .ledger => b.ledger
  | .trezor => b.trezor
  | .lattice => b.lattice

def set (b : ByKind α) (kind : KeyringKind) (x : α) : ByKind α :=
  match kind with
  | .ledger => { b with ledger := x }
  | .trezor => { b with trezor := x }
  | .lattice => { b with lattice := x }

def ofFn (f : KeyringKind → α) : ByKind α :=
  ⟨f .ledger, f .trezor, f .lattice⟩

def const (x : α) : ByKind α :=
  ⟨x, x, x⟩

@[simp] theorem get_set_self (b : ByKind α) (kind : KeyringKind) (x : α) :
    (b.set kind x).get kind = x := by
  cases kind <;> rfl

theorem get_set_of_ne (b : ByKind α) {kind other : KeyringKind} (h : other ≠ kind) (x : α) :
    (b.set kind x).get other = b.get other := by
  cases kind <;> cases other <;> first | rfl | exact absurd rfl h

@[simp] theorem get_ofFn (f : KeyringKind → α) (kind : KeyringKind) : (ofFn f).get kind = f kind := by
  cases kind <;> rfl

@[simp] theorem get_const (x : α) (kind : KeyringKind) : (const x).get kind = x := by
  cases kind <;> rfl

@[ext] theorem ext_get {b c : ByKind α} (h : ∀ kind, b.get kind = c.get kind) : b = c := by
  cases b; cases c
  simpa [get] using And.intro (h .ledger) ⟨h .trezor, h .lattice⟩

end ByKind
end WalletRelay
