import WalletRelay.Unicode.CombiningClass
import WalletRelay.Unicode.Composite

/-!
# The normal form of a text

A letter with marks can be written in several ways: as one character, as a letter and marks behind it,
and with the marks in different orders. In the normal form everything that can be one character is one.
It is reached in three steps: composites are taken apart, marks are put in the order of their classes,
and marks are put together with the character they belong to wherever a composite exists.
-/

namespace WalletRelay.Unicode

/-- Take a character apart; `depth` bounds the marks of a composite. -/
def takeApart : (depth : Nat) → Char → List Char
  | 0, c => [c]
  | depth + 1, c =>
    if c.toNat < 0xC0 then [c]
    else if syllableBase ≤ c.toNat ∧ c.toNat < syllableBase + syllableCount then
      (syllableParts (c.toNat - syllableBase)).map Char.ofNat
    else
      match parts? c with
      | some (base, mark) => takeApart depth base ++ [mark]
      | none => [c]

def maxMarks : Nat := 3

/-- Put a character behind a text that is given from its end: a mark goes in front of the marks with a
higher class. -/
def putInOrder : List Char → Char → List Char
  | [], c => [c]
  | d :: before, c =>
    if 0 < combiningClass c ∧ combiningClass c < combiningClass d then d :: putInOrder before c
    else c :: d :: before

def inOrder (cs : List Char) : List Char :=
  (cs.foldl putInOrder []).reverse

/-- Put a text together. `base` is the last character that starts anew, and `marks`, given from their
end, are those that stand behind it. A character joins the base unless a mark between them has the same
class or a higher one. -/
def putTogether (base : Option Char) (marks : List Char) : List Char → List Char
  | [] => base.toList ++ marks.reverse
  | c :: rest =>
    let isNext := match marks with
      | [] => true
      | mark :: _ => combiningClass mark < combiningClass c
    match base.bind fun b => if isNext then compose? b c else none with
    | some composite => putTogether (some composite) marks rest
    | none =>
      if combiningClass c = 0 then base.toList ++ marks.reverse ++ putTogether (some c) [] rest
      else putTogether base (c :: marks) rest

def normalForm (cs : List Char) : List Char :=
  putTogether none [] (inOrder (cs.flatMap (takeApart maxMarks)))

end WalletRelay.Unicode
