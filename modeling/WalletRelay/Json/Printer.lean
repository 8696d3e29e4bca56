import WalletRelay.Json.Value

/-!
# Printing JSON values

The compact form: no blanks, objects in their own order, and in texts only the double quote, the
backslash and the characters below `20` written as escapes.
-/

namespace WalletRelay.Json

def escapedChar (c : Char) : List Char :=
  if c = '"' then ['\\', '"']
  else if c = '\\' then ['\\', '\\']
  else if c = '\n' then ['\\', 'n']
  else if c = '\r' then ['\\', 'r']
  else if c = '\t' then ['\\', 't']
  else if c = '\x08' then ['\\', 'b']
  else if c = '\x0c' then ['\\', 'f']
  else if c.toNat < 0x20 then
    ['\\', 'u', '0', '0', Nat.digitChar (c.toNat / 16), Nat.digitChar (c.toNat % 16)]
  else [c]

def printString (s : String) : String :=
  String.ofList ('"' :: s.toList.flatMap escapedChar ++ ['"'])

def printNumber : JsonNumber → String
  | .int n => toString n
  | .float x => x.toText

mutual

/-- The compact form of a value. -/
def print : Json → String
  | .null => "null"
  | .bool b => if b then "true" else "false"
  | .number n => printNumber n
  | .string s => printString s
  | .array items => "[" ++ printItems items ++ "]"
  | .object fields => "\x7b" ++ printFields fields ++ "\x7d"

def printItems : List Json → String
  | [] => ""
  | [a] => print a
  | a :: b :: rest => print a ++ "," ++ printItems (b :: rest)

def printFields : List (String × Json) → String
  | [] => ""
  | [(k, v)] => printString k ++ ":" ++ print v
  | (k, v) :: f :: rest => printString k ++ ":" ++ print v ++ "," ++ printFields (f :: rest)

end

end WalletRelay.Json
