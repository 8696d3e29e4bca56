import WalletRelay.Background.Sink
import WalletRelay.Relay.Call
import WalletRelay.Relay.Failure
import WalletRelay.Relay.Focus

/-!
# The relay

The relay answers requests. A request is passed over while the relay is out of focus. Otherwise the
keyring and the method are looked up, the keyring takes over the state that comes with the request, the
arguments are read and the call is run; the first step that fails rejects the request. Keyrings come
into being when they are first asked for.
-/

namespace WalletRelay

structure Relay (σ : Type) where
  /-- The states of the devices, one for each kind of keyring. -/
  devices : ByKind σ
  /-- The states of the keyrings that were asked for. -/
  keyrings : ByKind (Option KeyringState)
  gate : FocusGate

/-- The failure that a rejection reports. -/
def RelayError.failure (e : RelayError) : Failure where
  message := e.message
  causes := match e with
    | .keyring (.invalidState cause) => [cause.message]
    | _ => []
  debug := reprStr e

/-- Take over the state that comes with a request, if there is one. -/
def Keyring.adopt {σ : Type} (k : Keyring σ) (prevState : Json) : Keyring.Result σ Unit :=
  if prevState.isNull then (.ok (), k) else k.restore prevState

/-- Carry out a method of a keyring: its state afterwards and the response. -/
def Keyring.perform {σ : Type} (d : Device σ) (k : Keyring σ) (method : Method) (args : List Json)
    (prevState : Json) : Except RelayError (KeyringState × Json) × Keyring σ :=
  match k.adopt prevState with
  | (.error e, k) => (.error (.keyring e), k)
  | (.ok (), k) =>
    match Call.parse method args with
    | .error e => (.error e, k)
    | .ok call =>
      match call.invoke d k with
      | (.error e, k) => (.error (.keyring e), k)
      | (.ok response, k) => (.ok (k.state, response), k)

namespace Relay

variable {σ τ : Type}

def new (devices : ByKind σ) (gate : FocusGate) : Relay σ :=
  ⟨devices, .const none, gate⟩

/-- The keyring of a kind, a new one if it was not asked for yet. -/
def keyring (r : Relay σ) (kind : KeyringKind) : Keyring σ :=
  let device := r.devices.get kind
  match r.keyrings.get kind with
  | none => .new kind device
  | some state => ⟨kind, state, device⟩

def setKeyring (r : Relay σ) (kind : KeyringKind) (k : Keyring σ) : Relay σ :=
  { r with devices := r.devices.set kind k.device, keyrings := r.keyrings.set kind (some k.state) }

/-- Carry out a request: the new state and the response. -/
def execute (ds : ByKind (Device σ)) (r : Relay σ) (q : CallRequest) :
    Except RelayError (KeyringState × Json) × Relay σ :=
  match Method.resolve q.type q.method with
  | .error e => (.error e, r)
  | .ok (kind, method) =>
    let (answer, k) := (r.keyring kind).perform (ds.get kind) method q.args q.prevState
    (answer, r.setKeyring kind k)

/-- The outcome that tells how a request ended. -/
def outcomeOf (promiseId : String) : Except RelayError (KeyringState × Json) → CallOutcome
  | .ok (state, response) => .resolve promiseId state.toJson response
  | .error e => .reject promiseId e.failure.reason

/-- Answer a request; there is no outcome while the relay is out of focus. -/
def process (ds : ByKind (Device σ)) (r : Relay σ) (q : CallRequest) : Option CallOutcome × Relay σ :=
  if r.gate.isFocused then
    let (answer, r) := r.execute ds q
    (some (outcomeOf q.promiseId answer), r)
  else (none, r)

/-- Answer a request and deliver the outcome. A delivery that fails is not repeated. -/
def handle (ds : ByKind (Device σ)) (sink : Sink τ) (r : Relay σ) (s : τ) (q : CallRequest) :
    Relay σ × τ :=
  match r.process ds q with
  | (none, r) => (r, s)
  | (some outcome, r) => (r, (sink.deliver outcome s).2)

/-- Set the focus; the answer is what it was before. -/
def setFocused (r : Relay σ) (focused : Bool) : Bool × Relay σ :=
  let (previous, gate) := r.gate.setFocused focused
  (previous, { r with gate })

end Relay
end WalletRelay
