/-!
# Integers in decimal digits

Three readers of decimal digits: machine words, which admit one leading plus sign;
signed words; and integers of any size, which also admit underscores between digits.
Writing is always canonical, without sign for zero and without leading zeros.
-/

namespace FilecoinRosetta.Text.Integer

/-- The value of an ASCII digit. -/
def digit? (sign : Char) : Option Nat :=
  if '0' ≤ sign ∧ sign ≤ '9' then some (sign.toNat - '0'.toNat) else none

/-- Read digits from the left, continuing a number read so far. -/
def digitsFrom : (number : Nat) → List Char → Option Nat
  | number, [] => some number
  | number, sign :: rest => do
      let units ← digit? sign
      digitsFrom (number * 10 + units) rest

/-- At least one digit, and nothing else. -/
def natural? : List Char → Option Nat
  | [] => none
  | text => digitsFrom 0 text

/-- A natural number with at most one plus sign in front. -/
def unsigned? : List Char → Option Nat
  | '+' :: rest => natural? rest
  | text => natural? text

/-- An unsigned number below a bound: how machine words are read. -/
def word? (bound : Nat) (text : String) : Option Nat :=
  (unsigned? text.toList).filter (· < bound)

/-- An unsigned 64-bit word. -/
def uint64? (text : String) : Option UInt64 :=
  (word? UInt64.size text).map UInt64.ofNat

/-- An unsigned 32-bit word. -/
def uint32? (text : String) : Option UInt32 :=
  (word? UInt32.size text).map UInt32.ofNat

/-- An unsigned 16-bit word. -/
def uint16? (text : String) : Option UInt16 :=
  (word? UInt16.size text).map UInt16.ofNat

/-- Digits with underscores anywhere but in front. -/
def grouped? : List Char → Option Nat
  | [] => none
  | '_' :: _ => none
  | text => digitsFrom 0 (text.filter (· != '_'))

/-- An integer of any size. A sign may be followed by digits only,
never by another sign. -/
def integer? (text : String) : Option Int :=
  match text.toList with
  | '-' :: rest => (grouped? rest).map fun size => -(size : Int)
  | '+' :: rest => (grouped? rest).map fun size => (size : Int)
  | signs => (grouped? signs).map fun size => (size : Int)

/-- The canonical text of an integer. -/
def text (number : Int) : String :=
  toString number

end FilecoinRosetta.Text.Integer
