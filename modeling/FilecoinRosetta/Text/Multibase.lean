import FilecoinRosetta.Text.Alphabets
import FilecoinRosetta.Text.Radix

/-!
# Self-describing base encodings

The first character of a content identifier's text names the alphabet of the
rest. Content identifiers are always displayed in lower-case base 32, and read in
any alphabet of the table.
-/

namespace FilecoinRosetta.Text

open BitGroups

/-- How the text behind the first character is read. -/
inductive Multibase where
  /-- Groups of bits without padding. -/
  | plain (alphabet : Alphabet)
  /-- Groups of bits in full blocks, each of which may end in padding. -/
  | padded (alphabet : Alphabet)
  /-- One large number. -/
  | radix (symbols : List Char)
  /-- One large number, written without regard to case; the symbols
  are lower-case ones. -/
  | caselessRadix (symbols : List Char)
  /-- The UTF-8 bytes of the text itself. -/
  | identity

namespace Multibase

/-- Decimal digits. -/
def decimalSymbols : List Char := "0123456789".toList

/-- Decimal digits and the lower-case alphabet. -/
def base36Symbols : List Char := "0123456789abcdefghijklmnopqrstuvwxyz".toList

/-- The symbols of base 58 in which capitals come first. -/
def base58Symbols : List Char :=
  "123456789ABCDEFGHJKLMNPQRSTUVWXYZabcdefghijkmnopqrstuvwxyz".toList

/-- The symbols of base 58 in which small letters come first. -/
def base58FlickrSymbols : List Char :=
  "123456789abcdefghijkmnopqrstuvwxyzABCDEFGHJKLMNPQRSTUVWXYZ".toList

/-- Base 32 in the order of extended hexadecimal. -/
def base32hexSymbols : List Char := "0123456789abcdefghijklmnopqrstuv".toList

/-- Base 32 in the order chosen for reading aloud. -/
def base32zSymbols : List Char := "ybndrfg8ejkmcpqxot1uwisza345h769".toList

/-- Base 64 with signs that are safe in addresses of the web. -/
def base64urlSymbols : List Char :=
  "ABCDEFGHIJKLMNOPQRSTUVWXYZabcdefghijklmnopqrstuvwxyz0123456789-_".toList

/-- Capital letters for small ones. -/
def capitals (symbols : List Char) : List Char :=
  symbols.map Char.toUpper

/-- The encoding that a first character names. -/
def ofCode? : Char → Option Multibase
  | '\x00' => some .identity
  | '0' => some (.plain ⟨1, "01".toList⟩)
  | '7' => some (.plain ⟨3, "01234567".toList⟩)
  | '9' => some (.radix decimalSymbols)
  | 'f' => some (.plain base16)
  | 'F' => some (.plain ⟨4, capitals base16.symbols⟩)
  | 'b' => some (.plain base32)
  | 'B' => some (.plain ⟨5, capitals base32.symbols⟩)
  | 'c' => some (.padded base32)
  | 'C' => some (.padded ⟨5, capitals base32.symbols⟩)
  | 'v' => some (.plain ⟨5, base32hexSymbols⟩)
  | 'V' => some (.plain ⟨5, capitals base32hexSymbols⟩)
  | 't' => some (.padded ⟨5, base32hexSymbols⟩)
  | 'T' => some (.padded ⟨5, capitals base32hexSymbols⟩)
  | 'h' => some (.plain ⟨5, base32zSymbols⟩)
  | 'k' => some (.caselessRadix base36Symbols)
  | 'K' => some (.caselessRadix base36Symbols)
  | 'z' => some (.radix base58Symbols)
  | 'Z' => some (.radix base58FlickrSymbols)
  | 'm' => some (.plain base64)
  | 'M' => some (.padded base64)
  | 'u' => some (.plain ⟨6, base64urlSymbols⟩)
  | 'U' => some (.padded ⟨6, base64urlSymbols⟩)
  | _ => none

/-- Read one block: padding at its end is taken off, and at least
one symbol must remain. -/
def decodeBlock? (alphabet : Alphabet) (block : List Char) : Option Bytes :=
  let symbols := (block.reverse.dropWhile (· == '=')).reverse
  if symbols.isEmpty then none else (alphabet.decode symbols).toOption

/-- Read full blocks of `size` symbols, each by itself. -/
def decodeBlocks? (alphabet : Alphabet) (size : Nat) (text : List Char) : Option Bytes :=
  match text with
  | [] => some []
  | first :: rest =>
      if _short : (first :: rest).length < size ∨ size = 0 then none
      else do
        let block ← decodeBlock? alphabet ((first :: rest).take size)
        let later ← decodeBlocks? alphabet size ((first :: rest).drop size)
        some (block ++ later)
termination_by text.length
decreasing_by
  simp only [List.length_drop, List.length_cons]
  omega

/-- Read the text behind the first character. -/
def decode? : Multibase → List Char → Option Bytes
  | plain alphabet, text => (alphabet.decode text).toOption
  | padded alphabet, text => decodeBlocks? alphabet alphabet.blockSize text
  | radix symbols, text => Radix.decode? symbols text
  | caselessRadix symbols, text => Radix.decode? symbols (text.map Char.toLower)
  | identity, text => some (utf8 (String.ofList text))

/-- Read a text whose first character names its encoding. -/
def read? : List Char → Option Bytes
  | [] => none
  | code :: text => do
      let encoding ← ofCode? code
      encoding.decode? text

/-- Write bytes in lower-case base 32. -/
def write (bytes : Bytes) : List Char :=
  'b' :: base32.encode bytes

end Multibase

end FilecoinRosetta.Text
