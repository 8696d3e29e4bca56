/-!
# Letter case

Words in configuration and in HTTP headers are compared without regard to the case of their ASCII
letters.
-/

namespace WalletRelay.Text

def asciiLower (s : String) : String :=
  String.ofList (s.toList.map Char.toLower)

end WalletRelay.Text
