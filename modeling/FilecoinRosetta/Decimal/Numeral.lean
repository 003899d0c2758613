/-!
# Number literals

A literal is kept as it is written: sign, digits, fraction and exponent. What it
means depends on the reader. A field of whole numbers takes integer literals only; a
value which the service passes on takes any literal, at the precision of binary64.
-/

namespace FilecoinRosetta.Decimal

/-- A number as written. -/
structure Numeral where
  /-- Whether a minus sign stands in front. -/
  negative : Bool
  /-- The digits before the point, at least one; more than one does
  not start with zero. -/
  whole : List Nat
  /-- The digits behind the point. -/
  fraction : List Nat
  /-- The exponent of ten. -/
  exponent : Int
  /-- Whether a point or an exponent was written. -/
  fractional : Bool
  deriving DecidableEq, Repr

namespace Numeral

/-- The value of an ASCII digit. -/
def digitValue (sign : Char) : Nat :=
  sign.toNat - '0'.toNat

/-- The number that decimal digits stand for. -/
def natural (digits : List Nat) : Nat :=
  digits.foldl (fun higher digit => higher * 10 + digit) 0

/-- The value of a literal without point and exponent, other than minus zero. -/
def integer? (numeral : Numeral) : Option Int :=
  if numeral.fractional then none
  else
    let size := natural numeral.whole
    if numeral.negative then (if size = 0 then none else some (-(size : Int))) else some size

/-- The literal of an integer. -/
def ofInteger (number : Int) : Numeral :=
  { negative := number < 0
    whole := (toString number.natAbs).toList.map digitValue
    fraction := []
    exponent := 0
    fractional := false }

/-- Split the digits off the beginning of a text. -/
def spanDigits (text : List Char) : List Nat × List Char :=
  ((text.takeWhile Char.isDigit).map digitValue, text.dropWhile Char.isDigit)

/-- Read an optional exponent, which must end the text. -/
def readExponent? : List Char → Option (Option Int)
  | [] => some none
  | mark :: rest =>
      if mark = 'e' ∨ mark = 'E' then
        let (negative, digits) := match rest with
          | '-' :: later => (true, later)
          | '+' :: later => (false, later)
          | _ => (false, rest)
        match spanDigits digits with
        | ([], _) => none
        | (found, []) =>
            some (some (if negative then -(natural found : Int) else natural found))
        | _ => none
      else none

/-- Read an optional fraction and an optional exponent, which must end the text. -/
def readFraction? : List Char → Option (List Nat × Option Int)
  | '.' :: rest =>
      match spanDigits rest with
      | ([], _) => none
      | (digits, later) => (readExponent? later).map fun exponent => (digits, exponent)
  | rest => (readExponent? rest).map fun exponent => ([], exponent)

/-- Read a literal that takes up a whole word. -/
def parse? (word : List Char) : Option Numeral := do
  let (negative, unsigned) := match word with
    | '-' :: rest => (true, rest)
    | _ => (false, word)
  let (whole, rest) := spanDigits unsigned
  if whole.isEmpty ∨ (whole.head? = some 0 ∧ whole.length ≠ 1) then none
  else do
    let (fraction, exponent) ← readFraction? rest
    some { negative, whole, fraction, exponent := exponent.getD 0,
           fractional := !fraction.isEmpty || exponent.isSome }

end Numeral

end FilecoinRosetta.Decimal
