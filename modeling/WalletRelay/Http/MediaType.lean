import WalletRelay.Text.Case

/-!
# Media types

A media type is two words with a slash between them and parameters behind semicolons. It is one of JSON
when the first word is `application` and the second is `json`, starts with `json+` or ends with `+json`;
letter case does not count. The whole text has to be well-formed, parameters included.
-/

namespace WalletRelay.Http

def isTokenChar (c : Char) : Bool :=
  c.isAlphanum || "!#$%&'*+-.^_`|~".toList.contains c

def isQuotedChar (c : Char) : Bool :=
  0x20 ≤ c.toNat && c.toNat != 0x7F

/-- The text after a quoted value that has begun. A quote right at its start does not end it, any later
one does: a backslash in front of a quote is a character like others. -/
def skipQuoted : (atStart : Bool) → List Char → Option (List Char)
  | _, [] => none
  | atStart, c :: rest =>
    if c = '"' && !atStart then some rest
    else if isQuotedChar c then skipQuoted false rest
    else none

/-- The text after a quoted value and the blanks and semicolon behind it. -/
def skipGapAfterQuoted : List Char → Option (List Char)
  | [] => some []
  | ' ' :: rest => skipGapAfterQuoted rest
  | ';' :: rest => some rest
  | _ :: _ => none

/-- The text after the value of a parameter and the semicolon behind it. -/
def skipValue : List Char → Option (List Char)
  | '"' :: rest => (skipQuoted true rest).bind skipGapAfterQuoted
  | cs =>
    match cs.span isTokenChar with
    | (_, []) => some []
    | (value, c :: rest) => if c = ';' ∧ value ≠ [] then some rest else none

/-- Whether a text is a list of parameters; `fuel` bounds their number. -/
def areParameters : (fuel : Nat) → List Char → Bool
  | 0, cs => cs.isEmpty
  | fuel + 1, cs =>
    match cs.dropWhile (· == ' ') with
    | [] => true
    | cs =>
      match cs.span isTokenChar with
      | (name, '=' :: rest) =>
        if name.isEmpty then false
        else
          match skipValue rest with
          | none => false
          | some rest => areParameters fuel rest
      | _ => false

def namesJson (subtype : List Char) : Bool :=
  let reversed := subtype.reverse.span (· != '+')
  match reversed with
  | (_, []) => subtype == "json".toList
  | (tail, _ :: front) =>
    if front.isEmpty then false
    else tail.reverse == "json".toList || front.reverse == "json".toList

def isJsonMediaType (s : String) : Bool :=
  let (type, rest) := (Text.asciiLower s).toList.span isTokenChar
  match rest with
  | '/' :: rest =>
    let (subtype, rest) := rest.span isTokenChar
    let wellFormed := match rest with
      | [] => true
      | ';' :: parameters => !subtype.isEmpty && areParameters parameters.length parameters
      | _ => false
    type == "application".toList && wellFormed && namesJson subtype &&
      s.toList.all fun c => 0x20 ≤ c.toNat && c.toNat < 0x7F
  | _ => false

end WalletRelay.Http
