import WalletRelay.Json.Number

/-!
# Reading JSON texts

A text is read from left to right and the first problem met decides how it is refused: the text may
end early, break the grammar, or be well formed so far but hold a value of the wrong kind. A record
is read field by field against its shape, so a value of the wrong kind is noticed before anything
that comes after it.

Values are nested at most 127 deep. The values of fields that the shape does not name are only
checked against the grammar: they may be nested at any depth, hold numbers of any size and texts with
unpaired surrogates.
-/

namespace WalletRelay.Json

inductive Problem where
  /-- The text breaks the grammar. -/
  | malformed
  /-- The text ends early. -/
  | truncated
  /-- The text is well formed so far, but a value has the wrong kind. -/
  | mismatch
deriving DecidableEq, Repr

/-- The result of reading the text ahead: a value and the text after it. -/
abbrev ReadResult (α : Type) := Except Problem (α × List Char)

/-- The four characters that may stand between the parts of a text. -/
def isGap (c : Char) : Bool :=
  c == ' ' || c == '\n' || c == '\t' || c == '\r'

/-- The text from its next significant character on. -/
def skipGap (cs : List Char) : List Char :=
  cs.dropWhile isGap

/-! ### Words and texts -/

def readWord : List Char → List Char → Except Problem (List Char)
  | [], cs => .ok cs
  | _ :: _, [] => .error .truncated
  | w :: ws, c :: cs => if w = c then readWord ws cs else .error .malformed

def shortEscape? (c : Char) : Option Char :=
  if c = '"' ∨ c = '\\' ∨ c = '/' then some c
  else if c = 'b' then some '\x08'
  else if c = 'f' then some '\x0c'
  else if c = 'n' then some '\n'
  else if c = 'r' then some '\r'
  else if c = 't' then some '\t'
  else none

def hexValue? (c : Char) : Option Nat :=
  if '0' ≤ c ∧ c ≤ '9' then some (c.toNat - 48)
  else if 'a' ≤ c ∧ c ≤ 'f' then some (c.toNat - 87)
  else if 'A' ≤ c ∧ c ≤ 'F' then some (c.toNat - 55)
  else none

def byteCount (cs : List Char) : Nat :=
  cs.foldl (fun n c => n + c.utf8Size) 0

/-- Where the reader stands inside a text. -/
inductive TextState where
  /-- Between characters. -/
  | plain
  /-- After a backslash. -/
  | escape
  /-- Inside `\u`, after `count` digits; `lead` is the first half of a surrogate pair. -/
  | unit (lead : Option Nat) (count value : Nat)
  /-- After the first half of a surrogate pair; `marked` once the backslash is read. -/
  | pair (lead : Nat) (marked : Bool)

/-- What an escaped UTF-16 unit adds to the text: a character, or a wait for the other half of a
surrogate pair. An unpaired half breaks the grammar if `paired` is asked for. -/
def finishUnit (paired : Bool) (lead : Option Nat) (n : Nat) (acc : List Char) :
    Except Problem (TextState × List Char) :=
  match lead with
  | some high =>
    if 0xDC00 ≤ n ∧ n ≤ 0xDFFF then
      .ok (.plain, Char.ofNat (0x10000 + (high - 0xD800) * 0x400 + (n - 0xDC00)) :: acc)
    else .error .malformed
  | none =>
    if !paired then .ok (.plain, acc)
    else if 0xDC00 ≤ n ∧ n ≤ 0xDFFF then .error .malformed
    else if 0xD800 ≤ n ∧ n ≤ 0xDBFF then .ok (.pair n false, acc)
    else .ok (.plain, Char.ofNat n :: acc)

/-- Read a text after its opening quote. A `\u` with fewer than four bytes ahead of it is truncated,
whatever those bytes are. -/
def readTextFrom (paired : Bool) : TextState → (acc : List Char) → List Char → ReadResult String
  | _, _, [] => .error .truncated
  | .plain, acc, c :: rest =>
    if c = '"' then .ok (String.ofList acc.reverse, rest)
    else if c = '\\' then readTextFrom paired .escape acc rest
    else if c.toNat < 0x20 then .error .malformed
    else readTextFrom paired .plain (c :: acc) rest
  | .escape, acc, c :: rest =>
    if c = 'u' then readTextFrom paired (.unit none 0 0) acc rest
    else
      match shortEscape? c with
      | some e => readTextFrom paired .plain (e :: acc) rest
      | none => .error .malformed
  | .unit lead count value, acc, c :: rest =>
    match hexValue? c with
    | none => .error (if count + byteCount (c :: rest) < 4 then .truncated else .malformed)
    | some d =>
      if count = 3 then
        match finishUnit paired lead (16 * value + d) acc with
        | .error e => .error e
        | .ok (state, acc) => readTextFrom paired state acc rest
      else readTextFrom paired (.unit lead (count + 1) (16 * value + d)) acc rest
  | .pair lead marked, acc, c :: rest =>
    if marked then
      if c = 'u' then readTextFrom paired (.unit (some lead) 0 0) acc rest else .error .malformed
    else if c = '\\' then readTextFrom paired (.pair lead true) acc rest
    else .error .malformed

/-- Read a text after its opening quote; surrogates have to come in pairs. -/
def readText (cs : List Char) : ReadResult String :=
  readTextFrom true .plain [] cs

/-! ### Numbers -/

def spanDigits (cs : List Char) : List Char × List Char :=
  (cs.takeWhile Char.isDigit, cs.dropWhile Char.isDigit)

/-- How a number that stops too early is refused; `early` is the answer at the end of the text. -/
def missingDigit (early : Problem) : List Char → Problem
  | [] => early
  | _ :: _ => .malformed

/-- The digits before the point: a single zero, or digits that do not start with one. -/
def readWhole (early : Problem) (cs : List Char) : ReadResult (List Char) :=
  match cs with
  | [] => .error early
  | '0' :: rest =>
    match rest with
    | d :: _ => if d.isDigit then .error .malformed else .ok (['0'], rest)
    | [] => .ok (['0'], [])
  | c :: _ => if c.isDigit then .ok (spanDigits cs) else .error .malformed

def readFraction (early : Problem) : List Char → ReadResult (Option (List Char))
  | '.' :: rest =>
    match spanDigits rest with
    | ([], after) => .error (missingDigit early after)
    | (ds, after) => .ok (some ds, after)
  | cs => .ok (none, cs)

def readExponent (early : Problem) : List Char → ReadResult (Option Int)
  | [] => .ok (none, [])
  | c :: rest =>
    if c = 'e' ∨ c = 'E' then
      let (negative, digits) : Bool × List Char := match rest with
        | '+' :: r => (false, r)
        | '-' :: r => (true, r)
        | r => (false, r)
      match spanDigits digits with
      | ([], after) => .error (missingDigit early after)
      | (ds, after) =>
        let n : Int := Nat.ofDigitChars 10 ds 0
        .ok (some (if negative then -n else n), after)
    else .ok (none, c :: rest)

/-- The parts of the number ahead. -/
def readWrittenNumber (early : Problem) (cs : List Char) : ReadResult WrittenNumber :=
  let (negative, cs) : Bool × List Char := match cs with
    | '-' :: r => (true, r)
    | r => (false, r)
  match readWhole early cs with
  | .error e => .error e
  | .ok (whole, cs) =>
    match readFraction early cs with
    | .error e => .error e
    | .ok (fraction, cs) =>
      match readExponent early cs with
      | .error e => .error e
      | .ok (exponent, cs) => .ok (⟨negative, whole, fraction, exponent⟩, cs)

def readNumber (cs : List Char) : ReadResult JsonNumber :=
  match readWrittenNumber .truncated cs with
  | .error e => .error e
  | .ok (w, rest) =>
    match w.value? with
    | none => .error .malformed
    | some n => .ok (n, rest)

/-! ### Values -/

/-- How texts and numbers are read inside a value. -/
structure Leaves where
  text : List Char → ReadResult String
  number : List Char → ReadResult JsonNumber

/-- Values that are kept. -/
def keptLeaves : Leaves :=
  ⟨readText, readNumber⟩

/-- Values that are only checked against the grammar. -/
def ignoredLeaves : Leaves where
  text := readTextFrom false .plain []
  number := fun cs =>
    (readWrittenNumber .malformed cs).map fun r => (.int 0, r.2)

/-- The items of an array after its bracket or after an item; `fuel` bounds their number. -/
def readItems {α : Type} (item : List Char → ReadResult α) :
    (fuel : Nat) → (first : Bool) → List Char → ReadResult (List α)
  | 0, _, _ => .error .truncated
  | fuel + 1, first, cs =>
    let next (cs : List Char) : ReadResult (List α) :=
      match item cs with
      | .error e => .error e
      | .ok (a, rest) => (readItems item fuel false rest).map fun r => (a :: r.1, r.2)
    match skipGap cs with
    | [] => .error .truncated
    | ']' :: rest => .ok ([], rest)
    | c :: rest =>
      if first then next (c :: rest)
      else if c = ',' then
        match skipGap rest with
        | [] => .error .truncated
        | ']' :: _ => .error .malformed
        | after => next after
      else .error .malformed

/-- The text after the colon behind the name of a field. -/
def readColon (cs : List Char) : Except Problem (List Char) :=
  match skipGap cs with
  | [] => .error .truncated
  | c :: rest => if c = ':' then .ok rest else .error .malformed

/-- The place of the next field of an object: the text after the quote that opens its name, or the
text after the closing brace. -/
def nextField (first : Bool) (cs : List Char) : Except Problem (Bool × List Char) :=
  match skipGap cs with
  | [] => .error .truncated
  | c :: rest =>
    if c = '\x7d' then .ok (false, rest)
    else if first then if c = '"' then .ok (true, rest) else .error .malformed
    else if c = ',' then
      match skipGap rest with
      | [] => .error .truncated
      | d :: after => if d = '"' then .ok (true, after) else .error .malformed
    else .error .malformed

/-- The fields of an object after its brace or after a field; `fuel` bounds their number. -/
def readFields {α : Type} (text : List Char → ReadResult String)
    (value : List Char → ReadResult α) :
    (fuel : Nat) → (first : Bool) → List Char → ReadResult (List (String × α))
  | 0, _, _ => .error .truncated
  | fuel + 1, first, cs =>
    match nextField first cs with
    | .error e => .error e
    | .ok (false, rest) => .ok ([], rest)
    | .ok (true, rest) =>
      match text rest with
      | .error e => .error e
      | .ok (name, rest) =>
        match readColon rest with
        | .error e => .error e
        | .ok rest =>
          match value rest with
          | .error e => .error e
          | .ok (v, rest) =>
            (readFields text value fuel false rest).map fun r => ((name, v) :: r.1, r.2)

/-- Read a value with at most `depth` arrays and objects around one another. -/
def readValue (leaves : Leaves) : (depth : Nat) → List Char → ReadResult Json
  | depth, cs =>
    match skipGap cs with
    | [] => .error .truncated
    | c :: rest =>
      if c = 'n' then (readWord ['u', 'l', 'l'] rest).map fun r => (.null, r)
      else if c = 't' then (readWord ['r', 'u', 'e'] rest).map fun r => (.bool true, r)
      else if c = 'f' then (readWord ['a', 'l', 's', 'e'] rest).map fun r => (.bool false, r)
      else if c = '"' then (leaves.text rest).map fun r => (.string r.1, r.2)
      else if c = '-' ∨ c.isDigit then
        (leaves.number (c :: rest)).map fun r => (.number r.1, r.2)
      else if c = '[' then
        match depth with
        | 0 => .error .malformed
        | depth + 1 =>
          (readItems (readValue leaves depth) (rest.length + 1) true rest).map fun r =>
            (.array r.1, r.2)
      else if c = '\x7b' then
        match depth with
        | 0 => .error .malformed
        | depth + 1 =>
          (readFields leaves.text (readValue leaves depth) (rest.length + 1) true rest).map fun r =>
            (ofFields r.1, r.2)
      else .error .malformed

/-- Most arrays and objects that may stand around one another. -/
def depthLimit : Nat := 127

/-- The text after a document may hold nothing but gaps. -/
def endDocument {α : Type} (r : α × List Char) : Except Problem α :=
  match skipGap r.2 with
  | [] => .ok r.1
  | _ :: _ => .error .malformed

def parse (s : String) : Except Problem Json :=
  (readValue keptLeaves depthLimit s.toList).bind endDocument

/-! ### Records -/

/-- What a field of a record may hold. -/
inductive FieldKind where
  /-- Any value. -/
  | anything
  /-- A text. -/
  | text
  /-- A truth value. -/
  | flag
  /-- An array of any values. -/
  | sequence
  /-- One of several words, alone or as the only field of an object with the value `null`. -/
  | choice (words : List String)

structure Field where
  name : String
  kind : FieldKind
  required : Bool

/-- How a value of the wrong kind is refused. A word, text or number is read to its end first. -/
def wrongKind : List Char → Problem
  | [] => .truncated
  | c :: rest =>
    let after {α : Type} : Except Problem α → Problem
      | .error e => e
      | .ok _ => .mismatch
    if c = 'n' then after (readWord ['u', 'l', 'l'] rest)
    else if c = 't' then after (readWord ['r', 'u', 'e'] rest)
    else if c = 'f' then after (readWord ['a', 'l', 's', 'e'] rest)
    else if c = '"' then after (readText rest)
    else if c = '-' ∨ c.isDigit then after (readNumber (c :: rest))
    else if c = '[' ∨ c = '\x7b' then .mismatch
    else .malformed

/-- Read a text, where anything else has the wrong kind. -/
def readTextValue (cs : List Char) : ReadResult String :=
  match skipGap cs with
  | '"' :: rest => readText rest
  | cs => .error (wrongKind cs)

/-- Read the name of a field; anything but a text breaks the grammar. -/
def readName (cs : List Char) : ReadResult String :=
  match skipGap cs with
  | [] => .error .truncated
  | c :: rest => if c = '"' then readText rest else .error .malformed

def readNull (cs : List Char) : Except Problem (List Char) :=
  match skipGap cs with
  | 'n' :: rest => readWord ['u', 'l', 'l'] rest
  | cs => .error (wrongKind cs)

def readChoice (words : List String) (depth : Nat) (cs : List Char) : ReadResult String :=
  let check : String × List Char → ReadResult String := fun r =>
    if r.1 ∈ words then .ok r else .error .mismatch
  match skipGap cs with
  | [] => .error .truncated
  | c :: rest =>
    if c = '"' then (readText rest).bind check
    else if c = '\x7b' then
      if depth = 0 then .error .malformed
      else
        match (readName rest).bind check with
        | .error e => .error e
        | .ok (word, rest) =>
          match (readColon rest).bind readNull with
          | .error e => .error e
          | .ok rest =>
            match skipGap rest with
            | [] => .error .truncated
            | d :: after => if d = '\x7d' then .ok (word, after) else .error .malformed
    else .error .malformed

def readFieldValue (depth : Nat) (kind : FieldKind) (cs : List Char) : ReadResult Json :=
  match kind with
  | .anything => readValue keptLeaves depth cs
  | .text => (readTextValue cs).map fun r => (.string r.1, r.2)
  | .choice words => (readChoice words depth cs).map fun r => (.string r.1, r.2)
  | .flag =>
    match skipGap cs with
    | 't' :: rest => (readWord ['r', 'u', 'e'] rest).map fun r => (.bool true, r)
    | 'f' :: rest => (readWord ['a', 'l', 's', 'e'] rest).map fun r => (.bool false, r)
    | cs => .error (wrongKind cs)
  | .sequence =>
    match skipGap cs with
    | '[' :: rest =>
      match depth with
      | 0 => .error .malformed
      | depth + 1 =>
        (readItems (readValue keptLeaves depth) (rest.length + 1) true rest).map fun r =>
          (.array r.1, r.2)
    | cs => .error (wrongKind cs)

/-- Read the fields of a record written as an object; `found` holds the known fields so far. A known
field that comes again has the wrong kind; an unknown one is passed over. -/
def readNamedFields (shape : List Field) (depth : Nat) :
    (fuel : Nat) → (first : Bool) → (found : List (String × Json)) → List Char →
      ReadResult (List (String × Json))
  | 0, _, _, _ => .error .truncated
  | fuel + 1, first, found, cs =>
    match nextField first cs with
    | .error e => .error e
    | .ok (false, rest) => .ok (found, rest)
    | .ok (true, rest) =>
      match readText rest with
      | .error e => .error e
      | .ok (name, rest) =>
        match shape.find? (·.name == name) with
        | none =>
          match (readColon rest).bind fun cs => readValue ignoredLeaves (cs.length + 1) cs with
          | .error e => .error e
          | .ok (_, rest) => readNamedFields shape depth fuel false found rest
        | some field =>
          if (found.lookup name).isSome then .error .mismatch
          else
            match (readColon rest).bind (readFieldValue depth field.kind) with
            | .error e => .error e
            | .ok (v, rest) =>
              readNamedFields shape depth fuel false (found ++ [(name, v)]) rest

/-- Read the fields of a record written as an array, in the order of the shape. Fields at the end may
be left out if they are not required. -/
def readPlacedFields (depth : Nat) :
    (shape : List Field) → (first : Bool) → List Char → ReadResult (List (String × Json))
  | [], _, cs =>
    match skipGap cs with
    | [] => .error .truncated
    | c :: rest => if c = ']' then .ok ([], rest) else .error .malformed
  | field :: shape, first, cs =>
    let next (cs : List Char) : ReadResult (List (String × Json)) :=
      match readFieldValue depth field.kind cs with
      | .error e => .error e
      | .ok (v, rest) =>
        (readPlacedFields depth shape false rest).map fun r => ((field.name, v) :: r.1, r.2)
    match skipGap cs with
    | [] => .error .truncated
    | ']' :: rest =>
      if (field :: shape).any (·.required) then .error .mismatch else .ok ([], rest)
    | c :: rest =>
      if first then next (c :: rest)
      else if c = ',' then
        match skipGap rest with
        | [] => .error .truncated
        | ']' :: _ => .error .malformed
        | after => next after
      else .error .malformed

/-- Read a record of the given shape, as an object of its known fields. -/
def readRecord (shape : List Field) (cs : List Char) : ReadResult Json :=
  match skipGap cs with
  | [] => .error .truncated
  | c :: rest =>
    if c = '\x7b' then
      match readNamedFields shape (depthLimit - 1) (rest.length + 1) true [] rest with
      | .error e => .error e
      | .ok (found, rest) =>
        if shape.all fun f => !f.required || (found.lookup f.name).isSome then
          .ok (ofFields found, rest)
        else .error .mismatch
    else if c = '[' then
      (readPlacedFields (depthLimit - 1) shape true rest).map fun r => (ofFields r.1, r.2)
    else .error (wrongKind (c :: rest))

/-- Read a whole text as one record. -/
def parseRecord (shape : List Field) (s : String) : Except Problem Json :=
  (readRecord shape s.toList).bind endDocument

end WalletRelay.Json
