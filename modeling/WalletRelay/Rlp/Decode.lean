import WalletRelay.Rlp.Encode

/-!
# RLP: reading

A reader takes the bytes ahead and returns a value and the bytes after it. Only the shortest written
form of an item is accepted: no length that fits a shorter header, no string prefix before a byte
that stands for itself, no leading zero in a number or a length. So a byte string has at most one
reading, and what was read can be written again unchanged.
-/

namespace WalletRelay.Rlp

inductive Error where
  /-- A number with more bytes than its type has. -/
  | overflow
  /-- A number or a length that starts with a zero byte. -/
  | leadingZero
  /-- The bytes end inside an item. -/
  | inputTooShort
  /-- A byte below `80` behind a string header. -/
  | nonCanonicalSingleByte
  /-- A length below 56 in the long form. -/
  | nonCanonicalSize
  /-- A string of another length than the fixed one asked for, or bytes left over. -/
  | unexpectedLength
  /-- A string where a list has to stand. -/
  | unexpectedString
  /-- A list where a string has to stand. -/
  | unexpectedList
  /-- The fields of a list take `got` bytes, but its header says `expected`. -/
  | listLengthMismatch (got expected : Nat)
deriving DecidableEq, Repr

def Error.message : Error → String
  | .overflow => "overflow"
  | .leadingZero => "leading zero"
  | .inputTooShort => "input too short"
  | .nonCanonicalSingleByte => "non-canonical single byte"
  | .nonCanonicalSize => "non-canonical size"
  | .unexpectedLength => "unexpected length"
  | .unexpectedString => "unexpected string"
  | .unexpectedList => "unexpected list"
  | .listLengthMismatch got expected =>
    "unexpected list length (got " ++ toString got ++ ", expected " ++ toString expected ++ ")"

/-- A reader of one item: the value and the bytes after it. -/
abbrev Reader (α : Type) := StateT (List UInt8) (Except Error) α

/-- The kind of an item and the length of its payload. -/
structure Header where
  /-- Whether the item is a list. -/
  isList : Bool
  /-- Number of bytes of the payload, which follows the header. -/
  length : Nat
deriving DecidableEq, Repr

/-! ### Headers -/

/-- The length written in the `count` bytes ahead. -/
def longLength (count : Nat) (bytes : List UInt8) : Except Error (Nat × List UInt8) :=
  if bytes.length < count then .error .inputTooShort
  else if bytes.head? = some 0 then .error .leadingZero
  else
    let length := BigEndian.value (bytes.take count)
    if length < 56 then .error .nonCanonicalSize else .ok (length, bytes.drop count)

/-- The header ahead, before its length is compared with the bytes left. -/
def looseHeader : List UInt8 → Except Error (Header × List UInt8)
  | [] => .error .inputTooShort
  | b :: rest =>
    let n := b.toNat
    if n < 0x80 then .ok (⟨false, 1⟩, b :: rest)
    else if n < 0xB8 then
      if n = 0x81 then
        match rest with
        | [] => .error .inputTooShort
        | c :: _ => if c < 0x80 then .error .nonCanonicalSingleByte else .ok (⟨false, 1⟩, rest)
      else .ok (⟨false, n - 0x80⟩, rest)
    else if n < 0xC0 then
      (longLength (n - 0xB7) rest).map fun r => (⟨false, r.1⟩, r.2)
    else if n < 0xF8 then .ok (⟨true, n - 0xC0⟩, rest)
    else (longLength (n - 0xF7) rest).map fun r => (⟨true, r.1⟩, r.2)

/-- The header ahead; the payload it announces is all there. -/
def readHeader : Reader Header := fun bytes =>
  match looseHeader bytes with
  | .error e => .error e
  | .ok (h, rest) => if rest.length < h.length then .error .inputTooShort else .ok (h, rest)

/-! ### Strings and lists -/

def readString : Reader (List UInt8) := fun bytes =>
  match readHeader bytes with
  | .error e => .error e
  | .ok (h, rest) =>
    if h.isList then .error .unexpectedList else .ok (rest.take h.length, rest.drop h.length)

def readListPayload : Reader (List UInt8) := fun bytes =>
  match readHeader bytes with
  | .error e => .error e
  | .ok (h, rest) =>
    if h.isList then .ok (rest.take h.length, rest.drop h.length) else .error .unexpectedString

/-- Read items until the bytes end; `fuel` is at least their number. -/
def readUntilEnd {α : Type} (item : Reader α) : (fuel : Nat) → List UInt8 → Except Error (List α)
  | _, [] => .ok []
  | 0, _ :: _ => .error .inputTooShort
  | fuel + 1, b :: bytes =>
    match item (b :: bytes) with
    | .error e => .error e
    | .ok (a, rest) => (readUntilEnd item fuel rest).map (a :: ·)

/-- A list of items of one kind. Every item takes at least one byte, so the length of the payload is
fuel enough. -/
def readList {α : Type} (item : Reader α) : Reader (List α) := fun bytes =>
  match readListPayload bytes with
  | .error e => .error e
  | .ok (payload, rest) =>
    (readUntilEnd item payload.length payload).map fun items => (items, rest)

/-- A list whose fields are read by `fields` from the bytes after its header. The fields may look
beyond the end of the list; afterwards they must have taken exactly its length. -/
def readRecord {α : Type} (fields : Reader α) : Reader α := fun bytes =>
  match readHeader bytes with
  | .error e => .error e
  | .ok (h, rest) =>
    if !h.isList then .error .unexpectedString
    else
      match fields rest with
      | .error e => .error e
      | .ok (a, after) =>
        let got := rest.length - after.length
        if got = h.length then .ok (a, after) else .error (.listLengthMismatch got h.length)

/-! ### Fixed-size values -/

/-- A byte string of exactly `size` bytes. -/
def readFixed (size : Nat) : Reader (FixedBytes size) := fun bytes =>
  match readString bytes with
  | .error e => .error e
  | .ok (payload, rest) =>
    match FixedBytes.ofList? size payload with
    | none => .error .unexpectedLength
    | some a => .ok (a, rest)

/-- A number of at most `size` bytes. Too many bytes are reported before a leading zero. -/
def readWord (size : Nat) : Reader (BitVec (8 * size)) := fun bytes =>
  match readString bytes with
  | .error e => .error e
  | .ok (payload, rest) =>
    if size < payload.length then .error .overflow
    else if payload.head? = some 0 then .error .leadingZero
    else .ok (BitVec.ofNat (8 * size) (BigEndian.value payload), rest)

/-- A 256-bit number. A leading zero is reported before too many bytes. -/
def readAmount : Reader (BitVec 256) := fun bytes =>
  match readString bytes with
  | .error e => .error e
  | .ok (payload, rest) =>
    if payload.head? = some 0 then .error .leadingZero
    else if 32 < payload.length then .error .overflow
    else .ok (BitVec.ofNat 256 (BigEndian.value payload), rest)

end WalletRelay.Rlp
