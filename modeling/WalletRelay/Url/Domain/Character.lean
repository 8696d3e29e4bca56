import WalletRelay.Unicode.Assigned
import WalletRelay.Url.Domain.Alphabets
import WalletRelay.Url.Domain.FurtherLetters
import WalletRelay.Url.Domain.Ideographs
import WalletRelay.Url.Domain.LetterForms
import WalletRelay.Url.Domain.Symbols

/-!
# Domain names: characters

Characters that differ in case, in width or in form mean the same in a domain name: each is replaced by
the one that stands for all. Some characters that are not seen are dropped, and some characters that are
not letters of any name are refused.
-/

namespace WalletRelay.Url.Domain

open Unicode

def rules : List Rule :=
  alphabetRules ++ symbolRules ++ formRules ++ ideographRules ++ furtherRules

def dropped : Ranges := [
  (0xAD, 0xAD), (0x34F, 0x34F), (0x115F, 0x1160), (0x17B4, 0x17B5), (0x180B, 0x180F),
  (0x200B, 0x200B), (0x2060, 0x2064), (0x206A, 0x206F), (0x3164, 0x3164), (0xFE00, 0xFE0F),
  (0xFEFF, 0xFEFF), (0xFFA0, 0xFFA0), (0x1BCA0, 0x1BCA3), (0x1D173, 0x1D17A), (0xE0100, 0xE01EF)]

def refused : Ranges := [
  (0x80, 0x9F), (0x600, 0x605), (0x61C, 0x61C), (0x6DD, 0x6DD), (0x70F, 0x70F), (0x890, 0x891),
  (0x8E2, 0x8E2), (0x1680, 0x1680), (0x200E, 0x200F), (0x2024, 0x2026), (0x2028, 0x202E),
  (0x2066, 0x2069), (0x2488, 0x249B), (0x2FF0, 0x2FFF), (0x31EF, 0x31EF), (0x33C2, 0x33C2),
  (0x33C7, 0x33C7), (0x33D8, 0x33D8), (0xE000, 0xF8FF), (0xFE12, 0xFE12), (0xFE19, 0xFE19),
  (0xFE30, 0xFE30), (0xFE52, 0xFE52), (0xFFF9, 0xFFFD), (0x110BD, 0x110BD), (0x110CD, 0x110CD),
  (0x13430, 0x1343F), (0x1F100, 0x1F100), (0xE0001, 0xE0001), (0xE0020, 0xE007F),
  (0xF0000, 0xFFFFD), (0x100000, 0x10FFFD)]

/-- Letters that names may hold although the table of assigned code points does not have them yet: those
of Jurchen. -/
def recentLetters : Ranges := [(0x18E00, 0x19191)]

/-- Whether a character beyond ASCII stays as it is. -/
def isKept (c : Char) : Bool :=
  (isAssigned c && !refused.contains c) || recentLetters.contains c

/-- What a character becomes, unless it is refused. -/
def mapChar? (c : Char) : Option (List Char) :=
  if c.toNat < 0x80 then some [c.toLower]
  else
    match rules.findSome? (·.replace? c) with
    | some text => some text
    | none =>
      if dropped.contains c then some [] else if isKept c then some [c] else none

/-- ASCII characters that no domain name has. -/
def isForbidden (c : Char) : Bool :=
  c.toNat ≤ 0x20 || c.toNat == 0x7F ||
    ['%', '#', '/', ':', '<', '>', '?', '@', '[', '\\', ']', '^', '|'].contains c

end WalletRelay.Url.Domain
