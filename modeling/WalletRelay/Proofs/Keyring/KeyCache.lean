import WalletRelay.Keyring.Emulated
import WalletRelay.Proofs.Keyring.Simulation

/-!
# The key cache of an emulated device

An emulated device keeps the keys that it has derived. No answer shows whether a key was kept: every key
that is kept is the one that its path leads to (`DerivedKeys.Sound`), which holds of no keys, of the keys
after one more has been derived, and so after every request. A path that leads to no key is never kept,
and its error comes again.

So the device answers as the one that keeps nothing (`emulatedFrom_simulates`), to any requests in any
order, and what it was asked before changes no answer (`key_cache_invisible`).
-/

namespace WalletRelay

variable {σ τ : Type} {R : σ → τ → Prop}

namespace Device

/-! ### Replies -/

inductive Reply where
  | connected (ready : Bool)
  | address (answer : Except DeviceError Address)
  | signature (answer : Except DeviceError Signature)
  | forgotten

def reply (d : Device σ) (s : σ) : Request → Reply × σ
  | .isConnected =>
    let (ready, s) := d.isConnected s
    (.connected ready, s)
  | .address path =>
    let (answer, s) := d.address path s
    (.address answer, s)
  | .signTransaction path tx =>
    let (answer, s) := d.signTransaction path tx s
    (.signature answer, s)
  | .signMessage path message =>
    let (answer, s) := d.signMessage path message s
    (.signature answer, s)
  | .forget => (.forgotten, d.forget s)

def replies (d : Device σ) (s : σ) : List Request → List Reply
  | [] => []
  | request :: requests => (d.reply s request).1 :: replies d (d.reply s request).2 requests

def stateAfter (d : Device σ) (s : σ) (requests : List Request) : σ :=
  requests.foldl (fun s request => (d.reply s request).2) s

namespace Simulates

variable {d : Device σ} {e : Device τ} {u : σ} {v : τ}

/-- Devices in related states say the same to a request, and stay in related states. -/
theorem reply_alike (sim : d.Simulates R e) (related : R u v) (request : Request) :
    AnswersAlike R (d.reply u request) (e.reply v request) := by
  cases request with
  | isConnected =>
    obtain ⟨answer, states⟩ := sim.isConnected related
    exact ⟨congrArg Reply.connected answer, states⟩
  | address path =>
    obtain ⟨answer, states⟩ := sim.address related path
    exact ⟨congrArg Reply.address answer, states⟩
  | signTransaction path tx =>
    obtain ⟨answer, states⟩ := sim.signTransaction related path tx
    exact ⟨congrArg Reply.signature answer, states⟩
  | signMessage path message =>
    obtain ⟨answer, states⟩ := sim.signMessage related path message
    exact ⟨congrArg Reply.signature answer, states⟩
  | forget => exact ⟨rfl, sim.forget related⟩

/-- Devices in related states say the same to any number of requests. -/
theorem replies_eq (sim : d.Simulates R e) (related : R u v) (requests : List Request) :
    d.replies u requests = e.replies v requests := by
  induction requests generalizing u v with
  | nil => rfl
  | cons request requests ih =>
    obtain ⟨answer, states⟩ := sim.reply_alike related request
    rw [replies, replies, answer, ih states]

theorem stateAfter_related (sim : d.Simulates R e) (related : R u v) (requests : List Request) :
    R (d.stateAfter u requests) (e.stateAfter v requests) := by
  induction requests generalizing u v with
  | nil => exact related
  | cons request requests ih => exact ih (sim.reply_alike related request).2

end Simulates
end Device

/-! ### The keys that are kept -/

namespace DerivedKeys

/-- Every key that is kept is the one that its path leads to. -/
def Sound (root : Except PhraseError ExtendedKey) (keys : DerivedKeys) : Prop :=
  ∀ path secret, keys.lookup path = some secret → Device.deriveSecret root path = .ok secret

variable {root : Except PhraseError ExtendedKey} {keys : DerivedKeys}

theorem Sound.nil (root : Except PhraseError ExtendedKey) : Sound root [] := by
  intro path secret kept
  cases kept

/-- A key can be kept with the path that leads to it. -/
theorem Sound.cons (sound : Sound root keys) {path : String} {secret : Nat}
    (derived : Device.deriveSecret root path = .ok secret) : Sound root ((path, secret) :: keys) := by
  intro path' secret' kept
  rw [List.lookup_cons] at kept
  split at kept
  · next same =>
    obtain rfl := eq_of_beq same
    obtain rfl := Option.some.inj kept
    exact derived
  · exact sound path' secret' kept

end DerivedKeys

namespace Device

variable {root : Except PhraseError ExtendedKey} {keys : DerivedKeys}

/-- Looking a key up comes to the same as deriving it, and what is kept stays sound. -/
theorem lookUpSecret_eq (sound : keys.Sound root) (path : String) :
    (lookUpSecret root path keys).1 = deriveSecret root path ∧
      DerivedKeys.Sound root (lookUpSecret root path keys).2 := by
  unfold lookUpSecret
  split
  · next secret kept => exact ⟨(sound path secret kept).symm, sound⟩
  · split
    · next e refused => exact ⟨refused.symm, sound⟩
    · next secret derived => exact ⟨derived.symm, sound.cons derived⟩

/-- With keys that are sound, the device answers as the one that derives each key when it is needed. -/
theorem emulatedFrom_simulates (root : Except PhraseError ExtendedKey) :
    (emulatedFrom root).Simulates (fun keys _ => DerivedKeys.Sound root keys) (emulatedAfresh root) where
  isConnected sound := ⟨rfl, sound⟩
  address sound path := by
    obtain ⟨answer, still⟩ := lookUpSecret_eq sound path
    exact ⟨congrArg (·.map addressOfSecret) answer, still⟩
  signTransaction sound path tx := by
    obtain ⟨answer, still⟩ := lookUpSecret_eq sound path
    exact ⟨congrArg (·.map fun secret => Secp256k1.sign secret tx.signatureHash) answer, still⟩
  signMessage sound path message := by
    obtain ⟨answer, still⟩ := lookUpSecret_eq sound path
    exact ⟨congrArg (·.map fun secret => Secp256k1.sign secret (messageHash message)) answer, still⟩
  forget _ := .nil root

/-- Whatever the phrase and whatever is asked, an emulated device gives the replies of one that keeps no
keys. After any requests it replies to the next one as if that were its first. -/
theorem key_cache_invisible (phrase : String) :
    (∀ requests, (emulated phrase).replies [] requests =
      (emulatedAfresh (Mnemonic.rootKey phrase)).replies () requests) ∧
    ∀ before request,
      ((emulated phrase).reply ((emulated phrase).stateAfter [] before) request).1 =
        ((emulated phrase).reply [] request).1 := by
  have sim := emulatedFrom_simulates (Mnemonic.rootKey phrase)
  have start := DerivedKeys.Sound.nil (Mnemonic.rootKey phrase)
  refine ⟨fun requests => sim.replies_eq (v := ()) start requests, ?_⟩
  intro before request
  have sound := sim.stateAfter_related (v := ()) start before
  calc ((emulated phrase).reply ((emulated phrase).stateAfter [] before) request).1
      = ((emulatedAfresh (Mnemonic.rootKey phrase)).reply () request).1 :=
        (sim.reply_alike sound request).1
    _ = ((emulated phrase).reply [] request).1 :=
        (sim.reply_alike (v := ()) start request).1.symm

end Device
end WalletRelay
