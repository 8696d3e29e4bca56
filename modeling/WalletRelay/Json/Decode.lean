import WalletRelay.Ethereum.Address
import WalletRelay.Json.Printer

/-!
# From JSON values to typed values

A decoder takes a value apart and says what is wrong with the first part that does not fit. The
fields of an object are visited in the order of their names; fields without a meaning are passed
over, and only then are missing ones reported. A record may also be written as an array of its
fields in their declared order.
-/

namespace WalletRelay

/-- Why a value does not fit. -/
inductive DecodeError where
  /-- The value has another kind. -/
  | invalidType (found : Json) (expected : String)
  /-- The value has the right kind but lies outside the allowed range. -/
  | invalidValue (found : Json) (expected : String)
  /-- A list has the wrong number of items. -/
  | invalidLength (length : Nat) (expected : String)
  /-- A record lacks a required field. -/
  | missingField (name : String)
  /-- A word that is not one of the known ones. -/
  | unknownWord (word : String) (known : List String)
  /-- A text that is not hexadecimal. -/
  | invalidHex (cause : Hex.Error)
deriving Repr

namespace Json

/-- How a value is named in a message. -/
def describe : Json → String
  | .null => "null"
  | .bool b => "boolean `" ++ (if b then "true" else "false") ++ "`"
  | .number (.int n) => "integer `" ++ toString n ++ "`"
  | .number (.float x) => "floating point `" ++ x.toText ++ "`"
  | .string s => "string " ++ Text.quoteText s
  | .array _ => "sequence"
  | .object _ => "map"

/-- A list of words for a message. -/
def oneOf : List String → String
  | [] => "no words"
  | [a] => "`" ++ a ++ "`"
  | [a, b] => "`" ++ a ++ "` or `" ++ b ++ "`"
  | words => "one of " ++ ", ".intercalate (words.map fun w => "`" ++ w ++ "`")

end Json

def DecodeError.message : DecodeError → String
  | .invalidType found expected =>
    "invalid type: " ++ found.describe ++ ", expected " ++ expected
  | .invalidValue found expected =>
    "invalid value: " ++ found.describe ++ ", expected " ++ expected
  | .invalidLength length expected =>
    "invalid length " ++ toString length ++ ", expected " ++ expected
  | .missingField name => "missing field `" ++ name ++ "`"
  | .unknownWord word known => "unknown variant `" ++ word ++ "`, expected " ++ Json.oneOf known
  | .invalidHex cause => cause.message

abbrev Decoded (α : Type) := Except DecodeError α

namespace Json

/-! ### Plain values -/

def asText : Json → Decoded String
  | .string s => .ok s
  | j => .error (.invalidType j "a string")

def asBool : Json → Decoded Bool
  | .bool b => .ok b
  | j => .error (.invalidType j "a boolean")

def asNatBelow (bound : Nat) (expected : String) : Json → Decoded Nat
  | .number (.int n) =>
    if 0 ≤ n ∧ n < bound then .ok n.toNat
    else .error (.invalidValue (.number (.int n)) expected)
  | j => .error (.invalidType j expected)

/-- A count, page or index: an unsigned 64-bit number. -/
def asIndex (j : Json) : Decoded UInt64 :=
  (asNatBelow UInt64.size "usize" j).map UInt64.ofNat

def asByte (j : Json) : Decoded UInt8 :=
  (asNatBelow UInt8.size "u8" j).map UInt8.ofNat

def asItems : Json → Decoded (List Json)
  | .array items => .ok items
  | j => .error (.invalidType j "a sequence")

def asList {α : Type} (item : Json → Decoded α) (j : Json) : Decoded (List α) :=
  j.asItems.bind fun items => items.mapM item

/-! ### Addresses -/

/-- What an address may be written as. -/
def addressForms : String :=
  "20 bytes, represented as a hex string of length 40, an array of u8, or raw bytes"

/-- An address written as a text. -/
def addressOfText (s : String) : Decoded Address :=
  match Address.ofText s with
  | .ok a => .ok a
  | .error e => .error (.invalidHex e)

/-- An address written as an array of twenty bytes. A twenty-first item that is no byte is passed
over if it is the last one. -/
def addressOfItems (items : List Json) : Decoded Address :=
  match (items.take 20).mapM asByte with
  | .error e => .error e
  | .ok bytes =>
    match FixedBytes.ofList? 20 bytes with
    | none => .error (.invalidLength items.length "exactly 20 bytes")
    | some a =>
      match items.drop 20 with
      | [] => .ok a
      | extra :: rest =>
        match asByte extra with
        | .ok _ => .error (.invalidLength 21 "exactly 20 bytes")
        | .error _ =>
          if rest.isEmpty then .ok a
          else .error (.invalidLength items.length "fewer elements in array")

def asAddress : Json → Decoded Address
  | .string s => addressOfText s
  | .array items => addressOfItems items
  | j => .error (.invalidType j addressForms)

/-! ### Records -/

/-- A record being read: the fields found so far and how a missing one is reported. -/
structure Fields (α : Type) where
  found : α
  missing : String → DecodeError

/-- A field that has to be there. -/
def Fields.require {α β : Type} (r : Fields α) (name : String) (value : Option β) : Decoded β :=
  match value with
  | some v => .ok v
  | none => .error (r.missing name)

/-- Visit the fields of the record `name`, whose declared fields are `declared`, with `visit`. -/
def visitFields {α : Type} (name : String) (declared : List String)
    (visit : α → String → Json → Decoded α) (start : α) : Json → Decoded (Fields α)
  | .object fields =>
    match fields.foldlM (fun acc f => visit acc f.1 f.2) start with
    | .error e => .error e
    | .ok found => .ok ⟨found, .missingField⟩
  | .array items =>
    match (declared.zip items).foldlM (fun acc f => visit acc f.1 f.2) start with
    | .error e => .error e
    | .ok found =>
      if declared.length < items.length then
        .error (.invalidLength items.length "fewer elements in array")
      else
        .ok ⟨found, fun field => .invalidLength (declared.idxOf field)
          ("struct " ++ name ++ " with " ++ toString declared.length ++ " elements")⟩
  | j => .error (.invalidType j ("struct " ++ name))

/-- One of several words: a text, or an object whose only field is the word with the value `null`. -/
def asWord {α : Type} (j : Json) (known : List (String × α)) : Decoded α :=
  let find (word : String) : Decoded α :=
    match known.lookup word with
    | some a => .ok a
    | none => .error (.unknownWord word (known.map (·.1)))
  match j with
  | .string s => find s
  | .object [(word, content)] =>
    match find word with
    | .error e => .error e
    | .ok a => if content.isNull then .ok a else .error (.invalidType content "unit")
  | .object fields => .error (.invalidValue (.object fields) "map with a single key")
  | j => .error (.invalidType j "string or map")

end Json
end WalletRelay
