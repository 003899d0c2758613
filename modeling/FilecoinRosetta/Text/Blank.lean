/-!
# Blanks

The characters that count as blank space in any script, and text
without them at its ends.
-/

namespace FilecoinRosetta.Text

/-- Whether a character is blank. -/
def isBlank (sign : Char) : Bool :=
  let code := sign.toNat
  (9 ≤ code && code ≤ 13) || code == 0x20 || code == 0x85 || code == 0xA0 || code == 0x1680 ||
    (0x2000 ≤ code && code ≤ 0x200A) || code == 0x2028 || code == 0x2029 || code == 0x202F ||
    code == 0x205F || code == 0x3000

/-- A text without the signs of a kind at its ends. -/
def trimWhere (drop : Char → Bool) (text : List Char) : List Char :=
  (((text.dropWhile drop).reverse).dropWhile drop).reverse

/-- A text without blanks at its ends. -/
def trimmed (text : String) : String :=
  String.ofList (trimWhere isBlank text.toList)

end FilecoinRosetta.Text
