/-!
# Blank characters

Texts that reach the relay — environment values, hex payloads, promise ids, error texts — are
compared after *trimming*, and a text with nothing left after trimming counts as absent. A character
is blank when it has the Unicode property `White_Space`; the zero-width space and the byte order
mark do not have it.
-/

namespace WalletRelay.Text

/-- The characters with the Unicode property `White_Space`. -/
def isBlank (c : Char) : Bool :=
  let n := c.toNat
  (0x09 ≤ n && n ≤ 0x0D) || n == 0x20 || n == 0x85 || n == 0xA0 || n == 0x1680 ||
    (0x2000 ≤ n && n ≤ 0x200A) || n == 0x2028 || n == 0x2029 || n == 0x202F || n == 0x205F ||
    n == 0x3000

/-- Drop the blank characters at both ends. -/
def trimChars (cs : List Char) : List Char :=
  ((cs.dropWhile isBlank).reverse.dropWhile isBlank).reverse

def trim (s : String) : String :=
  String.ofList (trimChars s.toList)

def isBlankText (s : String) : Bool :=
  s.toList.all isBlank

/-- Trim `s` and treat a blank text as absent. -/
def trimmed? (s : String) : Option String :=
  match trimChars s.toList with
  | [] => none
  | cs => some (String.ofList cs)

end WalletRelay.Text
