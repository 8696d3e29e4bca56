import WalletRelay.Proofs.Relay.Process
import WalletRelay.Proofs.Secp256k1
import WalletRelay.Proofs.Transaction.Codec

/-!
# Signatures that leave the relay

Nothing is assumed of the devices here: one may answer with any signature, of any hash and by any key.
`Keyring.Signed` says what is certain of a signature that a keyring lets pass, and
`resolved_signature_recovers` that the response to a resolved request carries such a signature, for the
payload and the account that the request names.
-/

namespace WalletRelay

variable {σ : Type}

namespace Keyring

/-- The account `a` of the keyring has signed a hash: its path is on record, the device has answered
the request at this path with the signature, and the address is recovered from the signature. -/
structure Signed (ask : String → σ → Except DeviceError Signature × σ) (hash : Hash32)
    (k : Keyring σ) (a : Address) (g : Signature) : Prop where
  answered : ∃ path, k.state.pathOf? a = some path ∧ (ask path k.device).1 = .ok g
  recovered : Secp256k1.recover? g hash = some a

/-- A signature passes as it is, if the account is recovered from it. -/
theorem checkSigner_eq_ok_iff {g g' : Signature} {hash : Hash32} {a : Address} :
    checkSigner g hash a = .ok g' ↔ Secp256k1.recover? g hash = some a ∧ g' = g := by
  unfold checkSigner
  grind

/-- A keyring signs exactly if it has a path for the account, the device answers, and the answer is the
signature of the account. -/
theorem signWith_eq_ok_iff {ask : String → σ → Except DeviceError Signature × σ} {hash : Hash32}
    {k k' : Keyring σ} {a : Address} {g : Signature} :
    k.signWith ask hash a = (.ok g, k') ↔
      ∃ path device, k.state.pathOf? a = some path ∧ ask path k.device = (.ok g, device) ∧
        Secp256k1.recover? g hash = some a ∧ k' = { k with device } := by
  unfold signWith
  constructor
  · intro h
    -- The account is looked up, the device asked and its answer checked, in this order.
    split at h
    · cases h
    · next path known =>
      split at h
      · cases h
      · next g' device answer =>
        obtain ⟨checked, rfl⟩ := Prod.mk.inj h
        obtain ⟨recovered, rfl⟩ := checkSigner_eq_ok_iff.1 checked
        exact ⟨path, device, known, answer, recovered, rfl⟩
  · rintro ⟨path, device, known, answer, recovered, rfl⟩
    simp only [known, answer, checkSigner_eq_ok_iff.2 ⟨recovered, rfl⟩]

/-- A signature that a keyring gives out is certain to be the account's. -/
theorem signed_of_signWith {ask : String → σ → Except DeviceError Signature × σ} {hash : Hash32}
    {k k' : Keyring σ} {a : Address} {g : Signature} (h : k.signWith ask hash a = (.ok g, k')) :
    k.Signed ask hash a g ∧ k'.state = k.state := by
  obtain ⟨path, device, known, answer, recovered, rfl⟩ := signWith_eq_ok_iff.1 h
  exact ⟨⟨⟨path, known, congrArg Prod.fst answer⟩, recovered⟩, rfl⟩

end Keyring

namespace Call

/-- An answer as a response succeeds exactly if the operation does. -/
theorem respond_eq_ok_iff {α : Type} {toJson : α → Json} {result : Keyring.Result σ α}
    {response : Json} {k : Keyring σ} :
    respond toJson result = (.ok response, k) ↔ ∃ x, result = (.ok x, k) ∧ toJson x = response := by
  constructor
  · intro h
    obtain ⟨answer, rfl⟩ := Prod.mk.inj h
    obtain ⟨x, made, shown⟩ := Except.map_eq_ok_iff.1 answer
    exact ⟨x, Prod.ext made rfl, shown⟩
  · rintro ⟨x, rfl, rfl⟩
    rfl

/-- A transaction that is signed carries such a signature of its own hash. -/
theorem signed_of_invoke_signTransaction {d : Device σ} {k k' : Keyring σ} {a : Address}
    {tx : UnsignedTransaction} {response : Json}
    (h : (Call.signTransaction a tx).invoke d k = (.ok response, k')) :
    ∃ g, k.Signed (d.signTransaction · tx) tx.signatureHash a g ∧ k'.state = k.state ∧
      response = .string (tx.withSignature g).toHex := by
  obtain ⟨signed, made, rfl⟩ := respond_eq_ok_iff.1 h
  obtain ⟨answer, rfl⟩ := Prod.mk.inj made
  obtain ⟨g, passed, rfl⟩ := Except.map_eq_ok_iff.1 answer
  have signed := Keyring.signed_of_signWith (Prod.ext passed rfl)
  exact ⟨g, signed.1, signed.2, rfl⟩

/-- A message that is signed is answered with such a signature. -/
theorem signed_of_invoke_signPersonalMessage {d : Device σ} {k k' : Keyring σ} {a : Address}
    {message : List UInt8} {response : Json}
    (h : (Call.signPersonalMessage a message).invoke d k = (.ok response, k')) :
    ∃ g, k.Signed (d.signMessage · message) (messageHash message) a g ∧ k'.state = k.state ∧
      response = .string (Hex.encodePrefixed g.toBytes) := by
  obtain ⟨g, made, rfl⟩ := respond_eq_ok_iff.1 h
  have signed := Keyring.signed_of_signWith made
  exact ⟨g, signed.1, signed.2, rfl⟩

end Call

namespace Relay

/-- A signature that is handed out was made for the payload and by the account that the request names,
whatever the device has answered, and handing it out changes no state. -/
theorem resolved_signature_recovers {ds : ByKind (Device σ)} {r r' : Relay σ} {q : CallRequest}
    {o : CallOutcome} (answered : r.process ds q = (some o, r')) (resolved : o.isResolved) :
    (q.method = "signTransaction" →
      ∃ kind k text tx j a g, KeyringKind.ofText? q.type = some kind ∧
        (r.keyring kind).adopt q.prevState = (.ok (), k) ∧
        q.args[1]? = some (.string text) ∧ UnsignedTransaction.ofHex text = .ok tx ∧
        q.args[0]? = some j ∧ j.asAddress = .ok a ∧
        k.Signed ((ds.get kind).signTransaction · tx) tx.signatureHash a g ∧
        o = .resolve q.promiseId k.state.toJson (.string (tx.withSignature g).toHex)) ∧
    (q.method = "signPersonalMessage" →
      ∃ kind k text message j a g, KeyringKind.ofText? q.type = some kind ∧
        (r.keyring kind).adopt q.prevState = (.ok (), k) ∧
        q.args[1]? = some (.string text) ∧ Hex.decode (Text.trim text) = .ok message ∧
        q.args[0]? = some j ∧ j.asAddress = .ok a ∧
        k.Signed ((ds.get kind).signMessage · message) (messageHash message) a g ∧
        o = .resolve q.promiseId k.state.toJson (.string (Hex.encodePrefixed g.toBytes))) := by
  obtain ⟨-, kind, method, call, k, final, response, steps, rfl, -⟩ :=
    process_resolved_iff.1 ⟨answered, resolved⟩
  -- The name decides the method, the method the form of the call, and the call what is signed.
  have named := (Method.find?_eq_some_iff.1 steps.known).2
  have parsed := steps.parsed
  have invoked := steps.invoked
  constructor
  · intro asked
    obtain rfl : method = .signTransaction := Method.name_injective (named.trans asked)
    obtain ⟨text, tx, j, a, payload, transaction, account, address, rfl⟩ :=
      Call.parse_signTransaction_eq_ok_iff.1 parsed
    obtain ⟨g, signed, same, rfl⟩ := Call.signed_of_invoke_signTransaction invoked
    rw [same]
    exact ⟨kind, k, text, tx, j, a, g, steps.named, steps.adopted, payload, transaction, account,
      address, signed, rfl⟩
  · intro asked
    obtain rfl : method = .signPersonalMessage := Method.name_injective (named.trans asked)
    obtain ⟨text, message, j, a, payload, bytes, account, address, rfl⟩ :=
      Call.parse_signPersonalMessage_eq_ok_iff.1 parsed
    obtain ⟨g, signed, same, rfl⟩ := Call.signed_of_invoke_signPersonalMessage invoked
    rw [same]
    exact ⟨kind, k, text, message, j, a, g, steps.named, steps.adopted, payload, bytes, account,
      address, signed, rfl⟩

end Relay

/-! ### A device with one signature -/

/-- The device that answers every request for a signature with the same one. -/
def Device.stamping (g : Signature) : Device Unit where
  isConnected u := (true, u)
  address _ u := (.error .locked, u)
  signTransaction _ _ u := (.ok g, u)
  signMessage _ _ u := (.ok g, u)
  forget u := u

/-- A signature whose point is the generator of the group. -/
def stamp : Signature where
  r := BitVec.ofNat 256 Secp256k1.generator.x
  s := 1
  yParity := false

def stampedTransaction : UnsignedTransaction :=
  .creationOnChainZero

/-- Some account has made this signature. -/
theorem exists_recover?_stamp :
    ∃ a, Secp256k1.recover? stamp stampedTransaction.signatureHash = some a := by
  rw [← Option.isSome_iff_exists]
  -- What is left after the recursions on bits are put in is closed and can be computed.
  simp only [Secp256k1.recover?, Secp256k1.recoverKey?, Secp256k1.Point.ofAbscissa?,
    Secp256k1.Point.multiple, Secp256k1.PublicKey.ofPoint?, Secp256k1.Point.coordinates?,
    Secp256k1.inverse, Secp256k1.powMod_eq_powBits, Secp256k1.Point.addMultiple_eq_addBits]
  decide +kernel

def stampingKeyring (a : Address) : Keyring Unit where
  kind := .trezor
  state := (KeyringState.new bip44Path).track a ⟨accountPath bip44Path 0, 0⟩
  device := ()

def stampingRelay (a : Address) : Relay Unit :=
  (Relay.new (.const ()) ⟨true⟩).setKeyring .trezor (stampingKeyring a)

def stampingRequest (a : Address) : CallRequest where
  type := "trezor"
  method := "signTransaction"
  args := [.string a.toText, .string stampedTransaction.toHex]
  prevState := .null
  promiseId := "1"

/-- A call for the account that made the one signature is resolved with it. -/
theorem invoke_stamping {k : Keyring Unit} {a : Address} {path : String} {g : Signature}
    {tx : UnsignedTransaction} (known : k.state.pathOf? a = some path)
    (recovered : Secp256k1.recover? g tx.signatureHash = some a) :
    (Call.signTransaction a tx).invoke (.stamping g) k =
      (.ok (.string (tx.withSignature g).toHex), k) := by
  have signed : k.signWith (fun _ _ => (.ok g, ())) tx.signatureHash a = (.ok g, k) :=
    Keyring.signWith_eq_ok_iff.2 ⟨path, (), known, rfl, recovered, rfl⟩
  rw [Call.invoke, Call.respond_eq_ok_iff]
  refine ⟨tx.withSignature g, ?_, rfl⟩
  simp only [Keyring.signTransaction, Device.stamping, signed, Except.map]

/-- All steps of a request for that account succeed. -/
theorem resolves_stamping {a : Address}
    (recovered : Secp256k1.recover? stamp stampedTransaction.signatureHash = some a) :
    (stampingRelay a).Resolves (.const (.stamping stamp)) (stampingRequest a) .trezor
      .signTransaction (.signTransaction a stampedTransaction) (stampingKeyring a)
      (stampingKeyring a) (.string (stampedTransaction.withSignature stamp).toHex) := by
  -- The payload is short enough to be read back.
  have short : stampedTransaction.encodeForSigning.length < UInt64.size := by decide +kernel
  have known : (stampingKeyring a).state.pathOf? a = some (accountPath bip44Path 0) := by
    simp [stampingKeyring, KeyringState.track, KeyringState.contains, KeyringState.new,
      KeyringState.pathOf?, AddressMap.get?_insert]
  refine ⟨by rfl, by rfl, rfl, ?_, invoke_stamping known recovered⟩
  exact Call.parse_signTransaction_eq_ok_iff.2 ⟨_, stampedTransaction, _, a, rfl,
    UnsignedTransaction.ofHex_of_isSpelling short (Hex.isSpelling_encode _), rfl,
    Json.asAddress_toText a, rfl⟩

/-- The one signature passes for the account that is recovered from it, whatever else the device can do. -/
theorem resolved_signature_recovers_stamp :
    ∃ a o r',
      (stampingRelay a).process (.const (.stamping stamp)) (stampingRequest a) = (some o, r') ∧
        o.isResolved ∧
        ∃ (k : Keyring Unit) (tx : UnsignedTransaction) (j : Json) (signer : Address)
          (g : Signature),
          (stampingRequest a).args[0]? = some j ∧ j.asAddress = .ok signer ∧
          Secp256k1.recover? g tx.signatureHash = some signer ∧
          o = .resolve "1" k.state.toJson (.string (tx.withSignature g).toHex) := by
  obtain ⟨a, recovered⟩ := exists_recover?_stamp
  obtain ⟨answered, resolved⟩ := Relay.process_resolved_iff.2
    ⟨rfl, .trezor, _, _, _, _, _, resolves_stamping recovered, rfl, rfl⟩
  obtain ⟨kind, k, text, tx, j, signer, g, -, -, -, -, account, address, signed, same⟩ :=
    (Relay.resolved_signature_recovers answered resolved).1 rfl
  exact ⟨a, _, _, answered, resolved, k, tx, j, signer, g, account, address, signed.recovered, same⟩

end WalletRelay
