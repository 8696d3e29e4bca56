import WalletRelay.Background.Sink
import WalletRelay.Http.Status
import WalletRelay.Text.Blank
import WalletRelay.Url.Basic

/-!
# Delivery over HTTP

The background is told of an outcome by a JSON-RPC request in a POST to its URL. Requests are numbered
from one, whatever becomes of them. A reply accepts the outcome if its status tells of success and its body is
blank or a JSON value without an error.
-/

namespace WalletRelay

inductive BackgroundReply where
  /-- The connection is closed without a reply. -/
  | dropped
  /-- A reply with its status and the body that was received. -/
  | received (status : Nat) (body : String)
deriving DecidableEq, Repr

/-- The reply that arrives when a status and a body are sent. -/
def BackgroundReply.ofSent (status : Nat) (body : String) : BackgroundReply :=
  .received status (if Http.isBodiless status then "" else body)

structure BackgroundRequest where
  id : UInt64
  outcome : CallOutcome

def BackgroundRequest.toJson (q : BackgroundRequest) : Json :=
  .object [("id", .ofNat q.id.toNat), ("jsonrpc", .string "2.0"),
    ("method", .string "closeBackgroundPromise"), ("params", .array [q.outcome.toJson])]

structure HttpBackground where
  endpoint : Url
  /-- The number of the next request. -/
  nextId : UInt64

namespace HttpBackground

def start (endpoint : Url) : HttpBackground :=
  ⟨endpoint, 1⟩

def requestLine (b : HttpBackground) : String :=
  "POST " ++ b.endpoint.path ++ Url.markedPart "?" b.endpoint.query ++ " HTTP/1.1"

def request (b : HttpBackground) (outcome : CallOutcome) : BackgroundRequest × HttpBackground :=
  (⟨b.nextId, outcome⟩, { b with nextId := b.nextId + 1 })

def judgeJson (reply : Json) : Except DeliveryError Unit :=
  match reply.field? "error" with
  | none => .ok ()
  | some e => if e.isNull then .ok () else .error (.rejected e.print)

/-- What a reply says of the outcome. -/
def judge : BackgroundReply → Except DeliveryError Unit
  | .dropped => .error (.transport "connection closed before the reply was complete")
  | .received status body =>
    if !Http.isSuccess status then .error (.rejected ("HTTP " ++ Http.statusText status))
    else if Text.isBlankText body then .ok ()
    else
      match Json.parse body with
      | .error _ => .error (.transport "the reply is not JSON")
      | .ok reply => judgeJson reply

/-- A delivery: what was sent and what came of it. -/
structure Delivery where
  request : BackgroundRequest
  result : Except DeliveryError Unit

/-- Deliver an outcome to a background that replies with `reply`. -/
def deliver (b : HttpBackground) (outcome : CallOutcome) (reply : BackgroundReply) :
    Delivery × HttpBackground :=
  let (request, b) := b.request outcome
  (⟨request, judge reply⟩, b)

/-- Deliver outcomes one after another, each with its reply. -/
def deliverAll (b : HttpBackground) : List (CallOutcome × BackgroundReply) → List Delivery
  | [] => []
  | (outcome, reply) :: rest =>
    let (delivery, b) := b.deliver outcome reply
    delivery :: deliverAll b rest

end HttpBackground
end WalletRelay
