import WalletRelay.Url.Host
import WalletRelay.Url.Path

/-!
# URLs

A URL is a scheme, an authority for most schemes, a path, a query and a fragment. Reading normalizes: the
scheme and the host are written in small letters, the usual port of the scheme is left out, the dots of a
path are resolved, and characters that may not stand where they do are percent-encoded.

Some schemes are *special*: their URLs have a host and a path that starts with a slash, and a backslash
counts as a slash. A URL of files may do without the host.
-/

namespace WalletRelay

/-- What stands between the two slashes and the path. -/
structure UrlAuthority where
  /-- The user name and password with the `@` behind them, or nothing. -/
  user : String
  host : String
  port : Option Nat
deriving DecidableEq, Repr

/-- A URL in its normal form. -/
structure Url where
  scheme : String
  authority : Option UrlAuthority
  path : String
  query : Option String
  fragment : Option String
deriving DecidableEq, Repr

namespace Url

/-! ### Writing -/

def authorityText (a : UrlAuthority) : String :=
  let port := match a.port with
    | none => ""
    | some n => ":" ++ toString n
  "//" ++ a.user ++ a.host ++ port

/-- The text in front of the path. A path that starts with two slashes must not look like a host. -/
def beforePath (u : Url) : String :=
  match u.authority with
  | some a => authorityText a
  | none => if "//".toList.isPrefixOf u.path.toList then "/." else ""

def markedPart (mark : String) : Option String → String
  | none => ""
  | some text => mark ++ text

def toText (u : Url) : String :=
  u.scheme ++ ":" ++ beforePath u ++ u.path ++ markedPart "?" u.query ++ markedPart "#" u.fragment

/-! ### Schemes -/

/-- How the rest of a URL is read. -/
inductive SchemeKind where
  | file
  /-- A special scheme with its usual port. -/
  | special (port : Nat)
  | other
deriving DecidableEq, Repr

/-- Whether a backslash counts as a slash. -/
def SchemeKind.isSpecial : SchemeKind → Bool
  | .other => false
  | _ => true

def schemeKind (scheme : String) : SchemeKind :=
  match scheme with
  | "file" => .file
  | "http" => .special 80
  | "ws" => .special 80
  | "https" => .special 443
  | "wss" => .special 443
  | "ftp" => .special 21
  | _ => .other

/-- Whether a character may stand in a scheme after its first letter. -/
def isSchemeChar (c : Char) : Bool :=
  c.isAlphanum || c = '+' || c = '-' || c = '.'

/-- The scheme of a text in small letters and what follows its colon. -/
def splitScheme? (cs : List Char) : Option (String × List Char) :=
  match cs.span isSchemeChar with
  | (letter :: more, ':' :: rest) =>
    if letter.isAlpha then some (String.ofList ((letter :: more).map Char.toLower), rest) else none
  | _ => none

/-! ### Parts -/

/-- Cut a text at the first occurrence of a mark. -/
def cutAt (mark : Char) (cs : List Char) : List Char × Option (List Char) :=
  match cs.span (· != mark) with
  | (front, []) => (front, none)
  | (front, _ :: back) => (front, some back)

def cutAtLast (mark : Char) (cs : List Char) : Option (List Char) × List Char :=
  match cs.reverse.span (· != mark) with
  | (back, []) => (none, back.reverse)
  | (back, _ :: front) => (some front.reverse, back.reverse)

def isSlash (kind : SchemeKind) (c : Char) : Bool :=
  c = '/' || (kind.isSpecial && c = '\\')

/-- The segments of a path without its first slash, percent-encoded. -/
def segmentsOf (kind : SchemeKind) (cs : List Char) : List (List Char) :=
  (Text.splitAt '/' (cs.map fun c => if isSlash kind c then '/' else c)).map (percentEncode pathSet)

/-- A path without its first slash. -/
def pathOf (kind : SchemeKind) (cs : List Char) : List Char :=
  pathText (readSegments (kind == .file) (segmentsOf kind cs)).segments

/-! ### Authorities -/

/-- The written form of a user name and password. An empty password is left out, and so is everything if
both are empty. -/
def userText (cs : List Char) : List Char :=
  let (name, password) := cutAt ':' cs
  let password := match password with
    | none => []
    | some [] => []
    | some password => ':' :: percentEncode userSet password
  match percentEncode userSet name ++ password with
  | [] => []
  | written => written ++ ['@']

/-- Cut a host from the port behind it: the first colon outside brackets. -/
def cutHost : (inBrackets : Bool) → List Char → List Char × List Char
  | _, [] => ([], [])
  | inBrackets, c :: rest =>
    if c = ':' && !inBrackets then ([], c :: rest)
    else
      let (host, port) := cutHost (c = '[' || (inBrackets && c != ']')) rest
      (c :: host, port)

/-- Read a port: its number, unless it is the usual one, and what follows its digits. Only a backslash
may follow, and then it belongs to the path. -/
def readPort (kind : SchemeKind) : List Char → Except UrlError (Option Nat × List Char)
  | ':' :: cs =>
    let (digits, rest) := cs.span Char.isDigit
    let port := digits.foldl (fun n c => 10 * n + (c.toNat - 48)) 0
    if 65535 < port then .error .invalidPort
    else
      match rest with
      | [] | '\\' :: _ =>
        let isUsual := match kind with
          | .special usual => usual == port
          | _ => false
        .ok (if digits.isEmpty || isUsual then none else some port, rest)
      | _ => .error .invalidPort
  | rest => .ok (none, rest)

/-- Read a host that stands behind `user`. -/
def readHost (kind : SchemeKind) (user : List Char) (hasPort : Bool) (host : List Char) :
    Except UrlError String :=
  if host.isEmpty then
    if kind.isSpecial || hasPort || !user.isEmpty then .error .emptyHost else .ok ""
  else if kind.isSpecial then specialHost host
  else plainHost host

/-- Read an authority and the path behind it. `endsHere` says that nothing follows them. -/
def readAuthority (kind : SchemeKind) (endsHere : Bool) (cs : List Char) :
    Except UrlError (UrlAuthority × List Char) := do
  let (section_, path) := cs.span (!isSlash kind ·)
  let (user, address) := cutAtLast '@' section_
  if user = some [] ∧ address = [] ∧ !(path.isEmpty && endsHere) then .error .emptyHost
  let user := (user.map userText).getD []
  let (host, port) := cutHost false address
  let host ← readHost kind user (!port.isEmpty) host
  let (port, extra) ← readPort kind port
  let path := match extra ++ path with
    | [] => if kind.isSpecial then ['/'] else []
    | c :: rest => pathOf kind (if isSlash kind c then rest else c :: rest)
  return (⟨String.ofList user, host, port⟩, path)

/-! ### Files -/

/-- The host and path of files on a host. The host does not count if the path starts with the name of a
drive, and empty segments at the start of the path are dropped. -/
def fileOn (host : String) (cs : List Char) : UrlAuthority × List Char :=
  let path := readSegments true (segmentsOf .file cs)
  (⟨"", if path.isOnDrive then "" else host, none⟩, '/' :: (pathText path.segments).dropWhile (· == '/'))

/-- Read the host and path of files. A slash behind an empty host, or behind the name of this machine,
is part of the path. -/
def readFile (cs : List Char) : Except UrlError (UrlAuthority × List Char) :=
  match cs with
  | [] => .ok (fileOn "" [])
  | c :: cs =>
    if !isSlash .file c then .ok (fileOn "" (c :: cs))
    else
      match cs with
      | [] => .ok (fileOn "" [])
      | d :: cs =>
        if !isSlash .file d then .ok (fileOn "" (d :: cs))
        else
          let (host, path) := cs.span (!isSlash .file ·)
          if isDrive host then .ok (fileOn "" cs)
          else if host.isEmpty then .ok (fileOn "" path)
          else
            match specialHost host with
            | .error e => .error e
            | .ok host => .ok (if host = "localhost" then fileOn "" path else fileOn host path.tail)

/-! ### Reading -/

/-- Read what follows a scheme, up to the query. -/
def readBody (kind : SchemeKind) (endsHere : Bool) (cs : List Char) :
    Except UrlError (Option UrlAuthority × List Char) :=
  let withAuthority (r : UrlAuthority × List Char) : Option UrlAuthority × List Char :=
    (some r.1, r.2)
  match kind with
  | .file => (readFile cs).map withAuthority
  | .special _ => (readAuthority kind endsHere (cs.dropWhile (isSlash kind))).map withAuthority
  | .other =>
    match cs with
    | '/' :: '/' :: rest => (readAuthority kind endsHere rest).map withAuthority
    | '/' :: rest => .ok (none, pathOf kind rest)
    | rest => .ok (none, percentEncode [] rest)

/-- The characters that count: neither controls and blanks at the ends nor tabs and line breaks. -/
def significant (s : String) : List Char :=
  let isEnd (c : Char) : Bool := c.toNat ≤ 0x20
  let trimmed := ((s.toList.dropWhile isEnd).reverse.dropWhile isEnd).reverse
  trimmed.filter fun c => !(c = '\t' || c = '\n' || c = '\r')

def parse (s : String) : Except UrlError Url :=
  match splitScheme? (significant s) with
  | none => .error .relativeWithoutBase
  | some (scheme, rest) =>
    let kind := schemeKind scheme
    let (rest, fragment) := cutAt '#' rest
    let (body, query) := cutAt '?' rest
    match readBody kind (query.isNone && fragment.isNone) body with
    | .error e => .error e
    | .ok (authority, path) =>
      let encode (set : List Char) (part : List Char) : String := String.ofList (percentEncode set part)
      .ok {
        scheme, authority
        path := String.ofList path
        query := query.map (encode (if kind.isSpecial then specialQuerySet else querySet))
        fragment := fragment.map (encode fragmentSet) }

end Url
end WalletRelay
