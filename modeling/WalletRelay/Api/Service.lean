import WalletRelay.Http.MediaType
import WalletRelay.Http.Message
import WalletRelay.Relay.Focus
import WalletRelay.Relay.Message
import WalletRelay.Relay.Method
import WalletRelay.Text.Blank

/-!
# The HTTP service

Calls come in over HTTP and wait in a queue of bounded length for the worker. The service also tells what
keyrings there are, shows and sets the focus, and reports whether it is alive and ready. It is ready as
long as the worker takes calls.

A call is accepted only with a promise id. While the queue is full, a submission waits; one that is given
up leaves nothing behind.
-/

namespace WalletRelay

structure ApiService where
  /-- Most calls that may wait. -/
  capacity : Nat
  /-- The calls that wait, in order. -/
  queue : List CallRequest
  /-- Whether the worker takes calls. -/
  isReceiving : Bool
  gate : FocusGate

/-- What a request can be about. -/
inductive Resource where
  | call
  | keyrings
  | focus
  | liveness
  | readiness
deriving DecidableEq, Repr

/-- The resource at a path. The pages that document the interface, at `/docs` and `/api-doc/openapi.json`,
are left out: they count as paths without a resource here. -/
def Resource.ofPath? (path : String) : Option Resource :=
  match path with
  | "/v1/keyring/call" => some .call
  | "/v1/keyrings" => some .keyrings
  | "/v1/focus" => some .focus
  | "/health/live" => some .liveness
  | "/health/ready" => some .readiness
  | _ => none

inductive ApiAction where
  | submitCall
  | listKeyrings
  | showFocus
  | setFocus
  | showLiveness
  | showReadiness
deriving DecidableEq, Repr

/-- What a method does to a resource. A `HEAD` request does what a `GET` request does. -/
def Resource.action? (r : Resource) (method : String) : Option ApiAction :=
  let isGet := method = "GET" ∨ method = "HEAD"
  match r with
  | .call => if method = "POST" then some .submitCall else none
  | .keyrings => if isGet then some .listKeyrings else none
  | .focus =>
    if isGet then some .showFocus else if method = "PUT" then some .setFocus else none
  | .liveness => if isGet then some .showLiveness else none
  | .readiness => if isGet then some .showReadiness else none

namespace ApiService

open Http

/-- A service without calls. There is room for one call at least. -/
def start (capacity : Nat) (gate : FocusGate) : ApiService :=
  ⟨max 1 capacity, [], true, gate⟩

/-! ### The worker's end of the queue -/

/-- The worker takes a call. -/
def receive (s : ApiService) : Option CallRequest × ApiService :=
  match s.queue with
  | [] => (none, s)
  | q :: queue => (some q, { s with queue })

/-- The worker goes away; calls that wait are lost. -/
def stopReceiving (s : ApiService) : ApiService :=
  { s with queue := [], isReceiving := false }

/-! ### Bodies -/

structure FocusUpdate where
  focused : Bool

def FocusUpdate.shape : List Json.Field :=
  [⟨"focused", .flag, true⟩]

def FocusUpdate.ofText (s : String) : Except Json.Problem FocusUpdate :=
  (Json.parseRecord shape s).bind fun j =>
    match j.field? "focused" with
    | some (.bool focused) => .ok ⟨focused⟩
    | _ => .error .mismatch

def bodyLimit : Nat := 2 * 1024 * 1024

/-- Read the body of a request, or tell the status of its refusal. -/
def readBody {α : Type} (ofText : String → Except Json.Problem α) (q : Request) : Except Nat α :=
  if (q.contentType.map isJsonMediaType).getD false then
    if bodyLimit < q.body.utf8ByteSize then .error 413
    else
      match ofText q.body with
      | .ok a => .ok a
      | .error .mismatch => .error 422
      | .error _ => .error 400
  else .error 415

def describeKind (kind : KeyringKind) : Json :=
  .object [("defaultHdPath", .string kind.defaultPath),
    ("methods", .ofTexts ((Method.supported kind).map Method.name)),
    ("name", .string kind.displayName), ("type", .string kind.tag)]

def errorBody (message : String) : Json :=
  .object [("error", .string message)]

def focusBody (gate : FocusGate) : Json :=
  .object [("focused", .bool gate.isFocused)]

/-! ### Responses -/

/-- Whether the service is ready, and what of it is. -/
def readiness (s : ApiService) : Response :=
  let checks : Json := .object
    [("focused", .bool s.gate.isFocused),
      ("relay_worker", .string (if s.isReceiving then "ok" else "stopped")),
      ("service", .string "ok")]
  let status := if s.isReceiving then "ok" else "degraded"
  ⟨if s.isReceiving then 200 else 503, some (.object [("checks", checks), ("status", .string status)])⟩

/-- Submit a call; there is no response while the queue is full. -/
def submit (s : ApiService) (requestId : String) (call : CallRequest) :
    Option Response × ApiService :=
  if Text.isBlankText call.promiseId then
    (some ⟨400, some (errorBody "promiseId must not be empty")⟩, s)
  else if !s.isReceiving then
    (some ⟨503, some (errorBody "Keyring relay is not running")⟩, s)
  else if s.capacity ≤ s.queue.length then (none, s)
  else
    let accepted : Json :=
      .object [("promiseId", .string call.promiseId), ("requestId", .string requestId)]
    (some ⟨202, some accepted⟩, { s with queue := s.queue ++ [call] })

def perform (s : ApiService) (requestId : String) (q : Request) :
    ApiAction → Option Response × ApiService
  | .submitCall =>
    match readBody CallRequest.ofText q with
    | .error status => (some ⟨status, none⟩, s)
    | .ok call => s.submit requestId call
  | .listKeyrings => (some ⟨200, some (.array (KeyringKind.all.map describeKind))⟩, s)
  | .showFocus => (some ⟨200, some (focusBody s.gate)⟩, s)
  | .setFocus =>
    match readBody FocusUpdate.ofText q with
    | .error status => (some ⟨status, none⟩, s)
    | .ok update =>
      let (_, gate) := s.gate.setFocused update.focused
      (some ⟨200, some (focusBody gate)⟩, { s with gate })
  | .showLiveness => (some ⟨200, some (.object [("status", .string "ok")])⟩, s)
  | .showReadiness => (some s.readiness, s)

/-- Answer a request. Any path answers an `OPTIONS` request, and the response to a `HEAD` request has no
body. `requestId` names the submission if the request is one. -/
def answer (s : ApiService) (requestId : String) (q : Request) : Option Response × ApiService :=
  if q.method = "OPTIONS" then (some ⟨200, none⟩, s)
  else
    match Resource.ofPath? q.path with
    | none => (some ⟨404, none⟩, s)
    | some resource =>
      match resource.action? q.method with
      | none => (some ⟨405, none⟩, s)
      | some action =>
        let (response, s) := s.perform requestId q action
        (if q.method = "HEAD" then response.map fun r => { r with body := none } else response, s)

end ApiService
end WalletRelay
