import WalletRelay.Transaction.Basic

/-!
# Hardware devices

A device holds the keys of a wallet. It is asked for the address at a path and for signatures, and it
may refuse. Nothing is assumed about its answers: a device is any machine with a state of its own that
answers requests one after another.
-/

namespace WalletRelay

inductive DeviceError where
  | userRejected
  | disconnected
  | locked
  /-- The path is not one that the device can follow. -/
  | invalidPath (detail : String)
  /-- The device could not be talked to. -/
  | communication (detail : String)
deriving DecidableEq, Repr

def DeviceError.message : DeviceError → String
  | .userRejected => "User rejected"
  | .disconnected => "Device disconnected"
  | .locked => "Device is locked"
  | .invalidPath detail => "Invalid derivation path: " ++ detail
  | .communication detail => "Device communication failed: " ++ detail

/-- The behaviour of a device whose state is a `σ`. -/
structure Device (σ : Type) where
  /-- Whether the device is attached and ready. -/
  isConnected : σ → Bool × σ
  /-- The address of the key at a path. -/
  address : (path : String) → σ → Except DeviceError Address × σ
  /-- Sign a transaction with the key at a path. -/
  signTransaction : (path : String) → UnsignedTransaction → σ → Except DeviceError Signature × σ
  /-- Sign a message of a person with the key at a path. -/
  signMessage : (path : String) → (message : List UInt8) → σ → Except DeviceError Signature × σ
  /-- End the pairing and drop what was kept for it. -/
  forget : σ → σ

/-- The hash that is signed for a message: the text in front keeps it from being a transaction. -/
def messageHash (message : List UInt8) : Hash32 :=
  Hash32.keccak (25 :: Hex.utf8 "Ethereum Signed Message:\n".toList ++
    Hex.utf8 (toString message.length).toList ++ message)

namespace Device

variable {σ : Type}

/-- The device of a kind to which none is attached. -/
def unavailable : Device σ where
  isConnected s := (false, s)
  address _ s := (.error .disconnected, s)
  signTransaction _ _ s := (.error .disconnected, s)
  signMessage _ _ s := (.error .disconnected, s)
  forget s := s

inductive Request where
  | isConnected
  | address (path : String)
  | signTransaction (path : String) (tx : UnsignedTransaction)
  | signMessage (path : String) (message : List UInt8)
  | forget
deriving DecidableEq, Repr

/-- The device that answers as `d` does and notes every request, the latest first. -/
def recording (d : Device σ) : Device (σ × List Request) where
  isConnected s :=
    let (answer, inner) := d.isConnected s.1
    (answer, inner, .isConnected :: s.2)
  address path s :=
    let (answer, inner) := d.address path s.1
    (answer, inner, .address path :: s.2)
  signTransaction path tx s :=
    let (answer, inner) := d.signTransaction path tx s.1
    (answer, inner, .signTransaction path tx :: s.2)
  signMessage path message s :=
    let (answer, inner) := d.signMessage path message s.1
    (answer, inner, .signMessage path message :: s.2)
  forget s := (d.forget s.1, .forget :: s.2)

end Device
end WalletRelay
