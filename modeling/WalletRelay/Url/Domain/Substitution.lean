/-!
# Domain names: substitutions

A rule says what the characters of a range of code points are replaced by.
-/

namespace WalletRelay.Url.Domain

inductive Substitute where
  /-- In their order, by the characters from the given code point on. -/
  | shift (target : Nat)
  /-- The first by the second, the third by the fourth and so on; every second one stays. -/
  | everySecond
  /-- In their order, each by one character of the text. -/
  | each (targets : String)
  /-- In their order, each by one of the texts. -/
  | texts (targets : List String)

/-- What the characters from `first` to `last` are replaced by. -/
structure Rule where
  first : Nat
  last : Nat
  substitute : Substitute

/-- What a rule puts in the place of a character, if it replaces it. -/
def Rule.replace? (rule : Rule) (c : Char) : Option (List Char) :=
  let place := c.toNat - rule.first
  if c.toNat < rule.first ∨ rule.last < c.toNat then none
  else
    match rule.substitute with
    | .shift target => some [Char.ofNat (target + place)]
    | .everySecond => if place % 2 = 0 then some [Char.ofNat (c.toNat + 1)] else none
    | .each targets => targets.toList[place]?.map fun d => [d]
    | .texts targets => targets[place]?.map String.toList

end WalletRelay.Url.Domain
