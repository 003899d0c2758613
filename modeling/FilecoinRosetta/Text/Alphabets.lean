import FilecoinRosetta.Text.BitGroups

/-!
# The usual alphabets

Hexadecimal for addresses and hashes, the lower-case base 32 of addresses
and content identifiers, and the strict padded base 64 of message
parameters. The remaining alphabets occur only in content identifiers, where
any of them may be used.
-/

namespace FilecoinRosetta.Text

open BitGroups

/-- Hexadecimal digits in lower case. -/
def base16 : Alphabet := ⟨4, "0123456789abcdef".toList⟩

/-- The lower-case alphabet of addresses and content identifiers. -/
def base32 : Alphabet := ⟨5, "abcdefghijklmnopqrstuvwxyz234567".toList⟩

/-- The standard alphabet of message parameters and signatures. -/
def base64 : Alphabet :=
  ⟨6, "ABCDEFGHIJKLMNOPQRSTUVWXYZabcdefghijklmnopqrstuvwxyz0123456789+/".toList⟩

/-- Bytes in lower-case hexadecimal. -/
def hexText (bytes : Bytes) : String :=
  String.ofList (base16.encode bytes)

namespace Base64

/-- Write bytes with padding. -/
def encode (bytes : Bytes) : String :=
  String.ofList (base64.encodePadded bytes)

/-- Read bytes strictly: the text consists of full blocks, padding stands only at
    its end and takes at most two places, and no bit beyond the last byte is set. -/
def decode? (text : String) : Option Bytes :=
  let signs := text.toList
  let padding := ((signs.reverse.take 2).takeWhile (· == '=')).length
  if Alphabet.textSize signs % 4 = 0 then
    (base64.decode (signs.take (signs.length - padding))).toOption
  else none

end Base64

end FilecoinRosetta.Text
