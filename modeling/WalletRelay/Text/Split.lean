/-!
# Parts of a text

Cutting a text at every occurrence of one character, and putting that character between texts. A text
without the character is one part, and so is the empty text.
-/

namespace WalletRelay.Text

/-- The parts between the separators. -/
def splitAt (separator : Char) : List Char → List (List Char)
  | [] => [[]]
  | c :: rest =>
    if c = separator then [] :: splitAt separator rest
    else
      match splitAt separator rest with
      | [] => [[c]]
      | part :: parts => (c :: part) :: parts

/-- The parts with separators between them. -/
def joinAt (separator : Char) : List (List Char) → List Char
  | [] => []
  | [part] => part
  | part :: next :: parts => part ++ separator :: joinAt separator (next :: parts)

end WalletRelay.Text
