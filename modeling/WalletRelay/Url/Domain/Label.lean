import WalletRelay.Unicode.CombiningClass
import WalletRelay.Unicode.Direction
import WalletRelay.Unicode.Joining

/-!
# Domain names: labels

The labels of a domain name stand between its dots. A label does not start with a mark. The two joiners,
which are not seen, stand only where they change what is seen. In a name with letters that are written
from right to left every label keeps to one direction, so that labels do not run into one another when
they are shown.
-/

namespace WalletRelay.Url.Domain

open Unicode

def startsWithMark (label : List Char) : Bool :=
  label.head?.any isMark

/-! ### Joiners -/

def nonJoiner : Char := '\u200C'

def joiner : Char := '\u200D'

/-- Whether two letters would join: the last of `before`, which is given from its end, and the first of
`after`. -/
def wouldJoin (before after : List Char) : Bool :=
  (before.dropWhile isTransparent).head?.any canJoinAfter &&
    (after.dropWhile isTransparent).head?.any canJoinBefore

/-- Whether every joiner in a label has something to do: it stands behind a character that takes a vowel
away, or keeps two letters from joining. The text in front is given from its end. -/
def joinersAreUseful (before : List Char) : List Char → Bool
  | [] => true
  | c :: rest =>
    (if c = nonJoiner then before.head?.any isVirama || wouldJoin before rest
      else if c = joiner then before.head?.any isVirama
      else true) &&
    joinersAreUseful (c :: before) rest

/-! ### Directions -/

/-- Whether a label has letters or digits that are written from right to left. -/
def hasRightToLeft (label : List Char) : Bool :=
  label.any fun c => [Direction.rightToLeft, .arabicDigit].contains (direction c)

/-- Whether all directions in a label are among `inside` and the last one that is not a mark is among
`last`. -/
def hasDirections (label : List Char) (inside last : List Direction) : Bool :=
  let directions := label.map direction
  directions.all inside.contains &&
    (directions.reverse.dropWhile (· == .mark)).head?.any last.contains

/-- Whether a label keeps to the direction of its first letter. From right to left it has digits of one
kind only. -/
def keepsDirection (label : List Char) : Bool :=
  match label.head?.map direction with
  | none => true
  | some .leftToRight =>
    hasDirections label [.leftToRight, .europeanDigit, .neutral, .mark] [.leftToRight, .europeanDigit]
  | some .rightToLeft =>
    hasDirections label [.rightToLeft, .arabicDigit, .europeanDigit, .neutral, .mark]
        [.rightToLeft, .arabicDigit, .europeanDigit] &&
      !(label.any (direction · == .arabicDigit) && label.any (direction · == .europeanDigit))
  | some _ => false

/-! ### Labels -/

def longestLabel : Nat := 1000

def isAscii (c : Char) : Bool :=
  c.toNat < 0x80

/-- Whether a label in normal form may stand in a domain name, directions apart. -/
def isWellFormed (label : List Char) : Bool :=
  label.all isAscii ||
    (!startsWithMark label && joinersAreUseful [] label && label.length ≤ longestLabel)

end WalletRelay.Url.Domain
