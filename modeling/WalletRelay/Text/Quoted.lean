import WalletRelay.Text.Printable

/-!
# Quoted texts and characters

Error messages quote the text or character at fault. The quote mark in use, the backslash and the
five short controls are written with a backslash, and a character that is not printable is written as
its code point in braces, in lower-case hexadecimal.
-/

namespace WalletRelay.Text

/-- The escaped form of a code point: `\u`, then the number in braces. -/
def codePointEscape (c : Char) : List Char :=
  ['\\', 'u', '\x7b'] ++ Nat.toDigits 16 c.toNat ++ ['\x7d']

/-- One character between two `mark`s; a mark inside is escaped. -/
def quotedChar (mark c : Char) : List Char :=
  if c = '\x00' then ['\\', '0']
  else if c = '\t' then ['\\', 't']
  else if c = '\n' then ['\\', 'n']
  else if c = '\r' then ['\\', 'r']
  else if c = '\\' then ['\\', '\\']
  else if c = mark then ['\\', mark]
  else if isPrintable c then [c]
  else codePointEscape c

def quoteText (s : String) : String :=
  String.ofList ('"' :: s.toList.flatMap (quotedChar '"') ++ ['"'])

def quoteChar (c : Char) : String :=
  String.ofList ('\'' :: quotedChar '\'' c ++ ['\''])

end WalletRelay.Text
