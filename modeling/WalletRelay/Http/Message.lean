import WalletRelay.Json.Value

/-!
# HTTP messages

What the service sees of a request and what it answers.
-/

namespace WalletRelay.Http

structure Request where
  method : String
  /-- The path with the query behind it; a scheme and a host may stand before it. -/
  target : String
  contentType : Option String
  /-- The body as a text. Bodies whose bytes are no UTF-8 text are left out. -/
  body : String

def endsPath (c : Char) : Bool :=
  c = '?' || c = '#'

/-- The part of a target from its path on: a target that does not start with a slash names a scheme and
a host first. -/
def withoutAuthority (target : List Char) : List Char :=
  match target with
  | '/' :: _ => target
  | _ =>
    match target.dropWhile (· != ':') with
    | ':' :: '/' :: '/' :: rest => rest.dropWhile fun c => !(c = '/' || endsPath c)
    | _ => target

/-- The path of a request: what stands between the host, if there is one, and the query. -/
def Request.path (q : Request) : String :=
  String.ofList ((withoutAuthority q.target.toList).takeWhile fun c => !endsPath c)

structure Response where
  status : Nat
  /-- The body, if it is a JSON value. -/
  body : Option Json

end WalletRelay.Http
