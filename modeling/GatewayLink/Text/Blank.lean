/-!
# White space

The characters with the Unicode property White_Space, and trimming by it.
-/

namespace GatewayLink

/-- Whether a character has the property White_Space. -/
def isWhiteSpace (character : Char) : Bool :=
  let code := character.toNat
  (0x09 ≤ code && code ≤ 0x0D) || code == 0x20 || code == 0x85 || code == 0xA0 ||
    code == 0x1680 || (0x2000 ≤ code && code ≤ 0x200A) || code == 0x2028 || code == 0x2029 ||
    code == 0x202F || code == 0x205F || code == 0x3000

/-- Drops characters at both ends. -/
def trimBy (drops : Char → Bool) (text : List Char) : List Char :=
  ((text.dropWhile drops).reverse.dropWhile drops).reverse

/-- A text without white space at its ends. -/
def trimmed (text : String) : String :=
  String.ofList (trimBy isWhiteSpace text.toList)

end GatewayLink
