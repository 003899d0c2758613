import FilecoinRosetta.Bytes

/-!
# Bytes written as groups of bits

The alphabets of two, eight, sixteen, thirty-two and sixty-four symbols read a byte
string as one sequence of bits, most significant first, and cut it into groups of
equal width. Each group is one symbol; a short last group is filled up with zeros.
Reading refuses a text whose length no byte string has, then a foreign symbol, then
fill-up bits which are not zero, in this order.
-/

namespace FilecoinRosetta.Text.BitGroups

/-- The `width` lowest bits of a number, most significant first. -/
def bits : (width : Nat) → (number : Nat) → List Bool
  | 0, _ => []
  | width + 1, number => number.testBit width :: bits width number

/-- The number a sequence of bits stands for, most significant first. -/
def value : List Bool → Nat
  | [] => 0
  | bit :: rest => bit.toNat * Nat.pow 2 rest.length + value rest

/-- Cut a sequence of bits into groups of `width`; only the last may be shorter.
    There are no groups of width zero. -/
def groups (width : Nat) (sequence : List Bool) : List (List Bool) :=
  if _stop : width = 0 ∨ sequence = [] then []
  else sequence.take width :: groups width (sequence.drop width)
termination_by sequence.length
decreasing_by
  have positive : 0 < sequence.length := by
    cases sequence <;> simp_all
  simp only [List.length_drop]
  omega

/-- An alphabet: each symbol stands for its position, written in `width` bits. -/
structure Alphabet where
  /-- Bits per symbol. -/
  width : Nat
  /-- The symbols in the order of their values. -/
  symbols : List Char

/-- Why a text is not the written form of a byte string. Positions count
bytes of the text. -/
inductive DecodeError where
  /-- No byte string has a text of this length; the longest
  possible beginning ends here. -/
  | invalidLength (position : Nat)
  /-- The first symbol outside the alphabet. -/
  | invalidSymbol (position : Nat)
  /-- The last symbol, which carries bits beyond the last byte that are not zero. -/
  | trailingBits (position : Nat)
  deriving DecidableEq, Repr

/-- The wording of a decoding error. -/
def DecodeError.message : DecodeError → String
  | .invalidLength position => "invalid length at " ++ toString position
  | .invalidSymbol position => "invalid symbol at " ++ toString position
  | .trailingBits position => "non-zero trailing bits at " ++ toString position

namespace Alphabet

/-- The symbol of a value. Values of a group are always below
the number of symbols. -/
def symbol (alphabet : Alphabet) (number : Nat) : Char :=
  alphabet.symbols.getD number '?'

/-- The value of a symbol, if it belongs to the alphabet. -/
def value? (alphabet : Alphabet) (symbol : Char) : Option Nat :=
  alphabet.symbols.idxOf? symbol

/-- One symbol for a group of bits, filled up with zeros on the right. -/
def groupSymbol (alphabet : Alphabet) (group : List Bool) : Char :=
  alphabet.symbol (value (group ++ List.replicate (alphabet.width - group.length) false))

/-- Write a byte string, without padding. -/
def encode (alphabet : Alphabet) (bytes : Bytes) : List Char :=
  (groups alphabet.width (bytes.flatMap fun byte => bits 8 byte.toNat)).map alphabet.groupSymbol

/-- The bits of a text, or the position of its first foreign symbol. All
    symbols before that one take one byte each, so that positions in characters
    and in bytes agree. -/
def textBits (alphabet : Alphabet) : (position : Nat) → List Char → Except DecodeError (List Bool)
  | _, [] => .ok []
  | position, symbol :: rest =>
      match alphabet.value? symbol with
      | none => .error (.invalidSymbol position)
      | some number => do
          let later ← textBits alphabet (position + 1) rest
          .ok (bits alphabet.width number ++ later)

/-- The number of bytes a text takes in UTF-8. -/
def textSize (text : List Char) : Nat :=
  text.foldl (fun size sign => size + sign.utf8Size) 0

/-- Read a text without padding. -/
def decode (alphabet : Alphabet) (text : List Char) : Except DecodeError Bytes :=
  let size := textSize text
  let spare := alphabet.width * size % 8
  if alphabet.width ≤ spare then .error (.invalidLength (size - spare / alphabet.width))
  else do
    let sequence ← alphabet.textBits 0 text
    let whole := sequence.length - spare
    if (sequence.drop whole).any id then .error (.trailingBits (size - 1))
    else .ok ((groups 8 (sequence.take whole)).map fun group => UInt8.ofNat (value group))

/-- Symbols in a block: the least number of them that fills whole bytes. -/
def blockSize (alphabet : Alphabet) : Nat :=
  8 / alphabet.width.gcd 8

/-- Write a byte string and fill the last block up with the padding sign. -/
def encodePadded (alphabet : Alphabet) (bytes : Bytes) : List Char :=
  let text := alphabet.encode bytes
  text ++ List.replicate
    ((alphabet.blockSize - text.length % alphabet.blockSize) % alphabet.blockSize) '='

end Alphabet

end FilecoinRosetta.Text.BitGroups
