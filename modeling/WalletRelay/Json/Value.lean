import WalletRelay.Number.Shortest

/-!
# JSON values

Requests, outcomes and keyring states are JSON values. Whole numbers between `-2 ^ 63` and
`2 ^ 64 - 1` are kept exactly; every other number is a double. The fields of an object stand in the
order of their names, each name once: `Json.ofFields` builds objects that way, the last of several
fields of one name counting.
-/

namespace WalletRelay

inductive JsonNumber where
  | int (value : Int)
  | float (value : Binary64)
deriving DecidableEq, Repr

inductive Json where
  | null
  | bool (value : Bool)
  | number (value : JsonNumber)
  | string (value : String)
  | array (items : List Json)
  | object (fields : List (String × Json))
deriving Repr, Inhabited

namespace Json

/-- Put a field into its place, instead of one of the same name. -/
def insertField (name : String) (value : Json) : List (String × Json) → List (String × Json)
  | [] => [(name, value)]
  | (k, v) :: rest =>
    if name < k then (name, value) :: (k, v) :: rest
    else if name = k then (name, value) :: rest
    else (k, v) :: insertField name value rest

/-- The object with the given fields. -/
def ofFields (fields : List (String × Json)) : Json :=
  .object (fields.foldl (fun acc f => insertField f.1 f.2 acc) [])

def ofNat (n : Nat) : Json :=
  .number (.int n)

def ofTexts (texts : List String) : Json :=
  .array (texts.map .string)

def field? (name : String) : Json → Option Json
  | .object fields => fields.lookup name
  | _ => none

def isNull : Json → Bool
  | .null => true
  | _ => false

/-! ### Small lemmas -/

@[simp] theorem lookup_insertField_self (name : String) (value : Json)
    (fields : List (String × Json)) : (insertField name value fields).lookup name = some value := by
  induction fields with
  | nil => simp [insertField]
  | cons f rest ih =>
    obtain ⟨k, v⟩ := f
    by_cases h₁ : name < k
    · simp [insertField, h₁]
    · by_cases h₂ : name = k
      · simp [insertField, h₂]
      · have : (name == k) = false := by simpa using h₂
        simp [insertField, h₁, h₂, List.lookup_cons, this, ih]

end Json
end WalletRelay
