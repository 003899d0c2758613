/-!
# Binary floating point by exact arithmetic

The finite numbers of binary64 as exact multiples of powers of two, with rounding to
nearest and ties to even. Everything is computed on natural numbers, so that no
property of the machine's own arithmetic is needed.
-/

namespace FilecoinRosetta.Decimal

/-- A finite, non-negative binary64 number: `significand * 2 ^ exponent`. The
    significand is below `2 ^ 53`, and not below `2 ^ 52` unless the exponent is the
    least possible one. -/
structure Binary64 where
  significand : Nat
  /-- The exponent of two, between -1074 and 971. -/
  exponent : Int
  deriving DecidableEq, Repr

namespace Binary64

/-- The least exponent of two. -/
def leastExponent : Int := -1074

/-- The greatest exponent of two. -/
def greatestExponent : Int := 971

/-- The least significand of 53 bits, which is two to the power of 52. -/
def leastNormal : Nat := 0x10000000000000

/-- Zero. -/
def zero : Binary64 := ⟨0, leastExponent⟩

/-- The exact value as a fraction. -/
def ratio (number : Binary64) : Nat × Nat :=
  (number.significand <<< number.exponent.toNat, 1 <<< (-number.exponent).toNat)

/-- A quotient rounded to the nearest integer, ties to the even one. -/
def roundDiv (numerator denominator : Nat) : Nat :=
  let quotient := numerator / denominator
  let twice := 2 * (numerator % denominator)
  if denominator < twice ∨ (twice = denominator ∧ quotient % 2 = 1) then quotient + 1 else quotient

/-- The number nearest to a quotient, or nothing if that exceeds
all finite numbers. -/
def ofRatio? (numerator denominator : Nat) : Option Binary64 :=
  if numerator = 0 then some zero
  else
    let estimate : Int := (numerator.log2 : Int) - denominator.log2 - 52
    let scaled (exponent : Int) : Nat × Nat :=
      (numerator <<< (-exponent).toNat, denominator <<< exponent.toNat)
    let exact := scaled estimate
    let exponent := max leastExponent
        (if exact.1 / exact.2 < leastNormal then estimate - 1 else estimate)
    let (above, below) := scaled exponent
    let rounded := roundDiv above below
    let (significand, exponent) :=
      if rounded = 2 * leastNormal then (leastNormal, exponent + 1) else (rounded, exponent)
    if greatestExponent < exponent then none else some ⟨significand, exponent⟩

/-- The number nearest to a natural number. -/
def ofNat? (number : Nat) : Option Binary64 :=
  ofRatio? number 1

/-- The rounded product. -/
def mul? (first second : Binary64) : Option Binary64 :=
  let (above, below) := first.ratio
  let (above', below') := second.ratio
  ofRatio? (above * above') (below * below')

/-- The rounded quotient by a number other than zero. -/
def div? (first second : Binary64) : Option Binary64 :=
  let (above, below) := first.ratio
  let (above', below') := second.ratio
  ofRatio? (above * below') (below * above')

end Binary64

end FilecoinRosetta.Decimal
