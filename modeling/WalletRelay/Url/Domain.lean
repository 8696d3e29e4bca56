import WalletRelay.Text.Split
import WalletRelay.Unicode.Normal
import WalletRelay.Url.Domain.Character
import WalletRelay.Url.Domain.Label
import WalletRelay.Url.Punycode

/-!
# Domain names

A domain name in a URL is written with ASCII characters only. Its characters are replaced by those that
stand for them and put in normal form; then every label with characters beyond ASCII is written in
punycode behind `xn--`. A label that comes in punycode has to be one that is written so.
-/

namespace WalletRelay.Url.Domain

/-- The characters of a domain name in the form in which they are compared; none if one is refused. -/
def normalize? (cs : List Char) : Option (List Char) :=
  match cs.mapM mapChar? with
  | none => none
  | some parts =>
    let cs := Unicode.normalForm parts.flatten
    if cs.any isForbidden then none else some cs

def longestCode : Nat := 2000

def readLabel? : List Char → Option (List Char)
  | 'x' :: 'n' :: '-' :: '-' :: code =>
    if code.isEmpty || code.getLast? = some '-' || longestCode < code.length then none
    else
      match Punycode.decode? code with
      | some label => if normalize? label = some label then some label else none
      | none => none
  | label => some label

def writeLabel (label : List Char) : List Char :=
  if label.all isAscii then label else 'x' :: 'n' :: '-' :: '-' :: Punycode.encode label

/-- The labels of a domain name, if they may stand there together. -/
def labels? (cs : List Char) : Option (List (List Char)) :=
  match (normalize? cs).bind fun cs => (Text.splitAt '.' cs).mapM readLabel? with
  | none => none
  | some labels =>
    if labels.all isWellFormed && (!labels.any hasRightToLeft || labels.all keepsDirection) then
      some labels
    else none

def toAscii? (cs : List Char) : Option (List Char) :=
  (labels? cs).map fun labels => Text.joinAt '.' (labels.map writeLabel)

end WalletRelay.Url.Domain
