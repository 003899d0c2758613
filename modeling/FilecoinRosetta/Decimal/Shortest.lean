import FilecoinRosetta.Decimal.Binary64
import FilecoinRosetta.Decimal.Numeral

/-!
# The shortest decimal text of a binary number

A number is written with the fewest digits that read back as it, and among those
with the ones nearest to it. Positional notation is used from 0.00001 up to sixteen
places before the point; other numbers take an exponent, without plus sign. A point
always shows unless there is an exponent.
-/

namespace FilecoinRosetta.Decimal

namespace Binary64

/-- The interval of values that read back as a number, over a common denominator,
    and whether its ends belong to it. -/
structure Neighbourhood where
  /-- The lower end. -/
  low : Nat
  /-- The number itself. -/
  middle : Nat
  /-- The upper end. -/
  high : Nat
  /-- The denominator of all three. -/
  denominator : Nat
  /-- Ties go to even significands, so only those own their ends. -/
  closed : Bool

/-- The neighbourhood of a number. Below a power of two the numbers
lie twice as dense. -/
def neighbourhood (number : Binary64) : Neighbourhood :=
  let scale := 1 <<< number.exponent.toNat
  let below := if number.significand = leastNormal ∧ number.exponent ≠ leastExponent then 1 else 2
  { low := (4 * number.significand - below) * scale
    middle := 4 * number.significand * scale
    high := (4 * number.significand + 2) * scale
    denominator := 4 <<< (-number.exponent).toNat
    closed := number.significand % 2 = 0 }

/-- Whether a fraction lies in a neighbourhood. -/
def Neighbourhood.contains (around : Neighbourhood) (numerator denominator : Nat) : Bool :=
  let point := numerator * around.denominator
  let low := around.low * denominator
  let high := around.high * denominator
  if around.closed then low ≤ point && point ≤ high else low < point && point < high

/-- The decimal `digits * 10 ^ exponent` nearest to a number on the grid of one
    power of ten, if it reads back as the number. -/
def onGrid? (around : Neighbourhood) (exponent : Int) : Option (Nat × Int) :=
  let up := Nat.pow 10 exponent.toNat
  let down := Nat.pow 10 (-exponent).toNat
  let above := around.middle * down
  let below := around.denominator * up
  let floor := above / below
  let remainder := 2 * (above % below)
  let fits (digits : Nat) : Bool := around.contains (digits * up) down
  let upper := below < remainder || (remainder == below && floor % 2 == 1)
  let (near, far) := if upper then (floor + 1, floor) else (floor, floor + 1)
  if fits near then some (near, exponent) else if fits far then some (far, exponent) else none

/-- The exponent of ten just above a positive fraction, starting from a guess that
is not above it. -/
def decimalPlace (numerator denominator : Nat) : (steps : Nat) → (guess : Int) → Int
  | 0, guess => guess
  | steps + 1, guess =>
      if numerator * Nat.pow 10 (-guess).toNat < denominator * Nat.pow 10 guess.toNat then guess
      else decimalPlace numerator denominator steps (guess + 1)

/-- The shortest decimal of a positive number, as digits and exponent of ten.
    Seventeen digits always suffice. -/
def shortest (number : Binary64) : Nat × Int :=
  let around := number.neighbourhood
  let (above, below) := number.ratio
  let guess := ((above.log2 : Int) - below.log2 - 1) * 3 / 10 - 2
  let place := decimalPlace above below 310 guess
  let found := (List.range 17).findSome? fun (more : Nat) => onGrid? around (place - 1 - more)
  found.getD (number.significand, 0)

/-- Strip zeros off the end of digits, moving them into the exponent of ten. -/
def stripZeros : (steps : Nat) → (digits : Nat) → (exponent : Int) → Nat × Int
  | 0, digits, exponent => (digits, exponent)
  | steps + 1, digits, exponent =>
      if digits ≠ 0 ∧ digits % 10 = 0 then stripZeros steps (digits / 10) (exponent + 1)
      else (digits, exponent)

/-- The literal for digits times a power of ten. -/
def arrange (negative : Bool) (digits : List Nat) (exponent : Int) : Numeral :=
  let place := (digits.length : Int) + exponent
  let zeros (count : Int) : List Nat := List.replicate count.toNat 0
  if 0 ≤ exponent ∧ place ≤ 16 then ⟨negative, digits ++ zeros exponent, [0], 0, true⟩
  else if 0 < place ∧ place ≤ 16 then
    ⟨negative, digits.take place.toNat, digits.drop place.toNat, 0, true⟩
  else if -5 < place ∧ place ≤ 0 then ⟨negative, [0], zeros (-place) ++ digits, 0, true⟩
  else ⟨negative, digits.take 1, digits.drop 1, place - 1, true⟩

/-- The literal of a number under a sign. -/
def numeral (negative : Bool) (number : Binary64) : Numeral :=
  if number.significand = 0 then ⟨negative, [0], [0], 0, true⟩
  else
    let (digits, exponent) := number.shortest
    let (digits, exponent) := stripZeros 17 digits exponent
    arrange negative (Numeral.ofInteger digits).whole exponent

end Binary64

end FilecoinRosetta.Decimal
