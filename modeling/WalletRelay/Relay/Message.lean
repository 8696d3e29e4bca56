import WalletRelay.Json.Decode
import WalletRelay.Json.Reader

/-!
# Requests and outcomes

A request asks for one call on a keyring and carries the id of the promise that waits for it. The
outcome carries the id back, with the new state and the response of a call that was resolved, or the
reason of a rejection.
-/

namespace WalletRelay

structure CallRequest where
  /-- The kind of keyring, by tag or name. -/
  type : String
  method : String
  args : List Json
  /-- The state to take over before the call; `null` keeps the present one. -/
  prevState : Json
  promiseId : String

/-- Whether a call was carried out. -/
inductive OutcomeKind where
  | resolve
  | reject
deriving DecidableEq, Repr

def OutcomeKind.tag : OutcomeKind → String
  | .resolve => "resolve"
  | .reject => "reject"

/-- The outcome of a call. -/
structure CallOutcome where
  promiseId : String
  result : OutcomeKind
  data : Json

/-! ### Requests -/

namespace CallRequest

def toJson (q : CallRequest) : Json :=
  .object [("args", .array q.args), ("method", .string q.method), ("prevState", q.prevState),
    ("promiseId", .string q.promiseId), ("type", .string q.type)]

/-- The fields found while reading a request. -/
structure Draft where
  type : Option String
  method : Option String
  args : Option (List Json)
  prevState : Option Json
  promiseId : Option String

def Draft.visit (draft : Draft) (name : String) (value : Json) : Decoded Draft :=
  if name = "type" then value.asText.map fun v => { draft with type := some v }
  else if name = "method" then value.asText.map fun v => { draft with method := some v }
  else if name = "args" then value.asItems.map fun v => { draft with args := some v }
  else if name = "prevState" then .ok { draft with prevState := some value }
  else if name = "promiseId" then value.asText.map fun v => { draft with promiseId := some v }
  else .ok draft

/-- The fields in their declared order. -/
def shape : List Json.Field :=
  [⟨"type", .text, true⟩, ⟨"method", .text, true⟩, ⟨"args", .sequence, false⟩,
    ⟨"prevState", .anything, false⟩, ⟨"promiseId", .text, true⟩]

def ofJson (j : Json) : Decoded CallRequest := do
  let r ← Json.visitFields "CallRequest" (shape.map (·.name)) Draft.visit
    ⟨none, none, none, none, none⟩ j
  let type ← r.require "type" r.found.type
  let method ← r.require "method" r.found.method
  let promiseId ← r.require "promiseId" r.found.promiseId
  return { type, method, args := r.found.args.getD [], prevState := r.found.prevState.getD .null,
           promiseId }

def ofText (s : String) : Except Json.Problem CallRequest :=
  (Json.parseRecord shape s).bind fun j => (ofJson j).mapError fun _ => .mismatch

end CallRequest

/-! ### Outcomes -/

namespace CallOutcome

def resolve (promiseId : String) (newState response : Json) : CallOutcome where
  promiseId := promiseId
  result := .resolve
  data := .object [("newState", newState), ("response", response)]

def reject (promiseId reason : String) : CallOutcome where
  promiseId := promiseId
  result := .reject
  data := .string reason

def isResolved (o : CallOutcome) : Bool :=
  o.result = .resolve

def toJson (o : CallOutcome) : Json :=
  .object [("data", o.data), ("promiseId", .string o.promiseId), ("result", .string o.result.tag)]

def kinds : List (String × OutcomeKind) :=
  [("resolve", .resolve), ("reject", .reject)]

/-- The fields found while reading an outcome. -/
structure Draft where
  promiseId : Option String
  result : Option OutcomeKind
  data : Option Json

def Draft.visit (draft : Draft) (name : String) (value : Json) : Decoded Draft :=
  if name = "promiseId" then value.asText.map fun v => { draft with promiseId := some v }
  else if name = "result" then (value.asWord kinds).map fun v => { draft with result := some v }
  else if name = "data" then .ok { draft with data := some value }
  else .ok draft

/-- The fields in their declared order. -/
def shape : List Json.Field :=
  [⟨"promiseId", .text, true⟩, ⟨"result", .choice (kinds.map (·.1)), true⟩,
    ⟨"data", .anything, true⟩]

def ofJson (j : Json) : Decoded CallOutcome := do
  let r ← Json.visitFields "CallOutcome" (shape.map (·.name)) Draft.visit ⟨none, none, none⟩ j
  let promiseId ← r.require "promiseId" r.found.promiseId
  let result ← r.require "result" r.found.result
  let data ← r.require "data" r.found.data
  return { promiseId, result, data }

def ofText (s : String) : Except Json.Problem CallOutcome :=
  (Json.parseRecord shape s).bind fun j => (ofJson j).mapError fun _ => .mismatch

end CallOutcome
end WalletRelay
