import FilecoinRosetta.Decimal.Binary64
import FilecoinRosetta.Decimal.Numeral

/-!
# The binary number of a literal

A literal is read in two roundings, which do not always give the nearest number: the
leading digits that fit 64 bits are rounded, and the result is multiplied or divided
by a power of ten. Digits behind those are dropped. A literal above all finite
numbers has no value; one below them is zero.
-/

namespace FilecoinRosetta.Decimal.Numeral

/-- Append digits to a number as long as it stays below `2 ^ 64`; the digits
left over are returned. -/
def fillWord : (number : Nat) → List Nat → Nat × List Nat
  | number, [] => (number, [])
  | number, digit :: rest =>
      if number * 10 + digit < UInt64.size then fillWord (number * 10 + digit) rest
      else (number, digit :: rest)

/-- The greatest power of ten that is used in one step. -/
def greatestPower : Nat := 308

/-- Multiply by a power of ten, at most `10 ^ 308` at a time. Two divisions by
that lead to zero. -/
def scale? : (steps : Nat) → Binary64 → (exponent : Int) → Option Binary64
  | 0, _, _ => some .zero
  | steps + 1, number, exponent =>
      if exponent.natAbs ≤ greatestPower then
        (Binary64.ofNat? (Nat.pow 10 exponent.natAbs)).bind fun power =>
          if 0 ≤ exponent then number.mul? power else number.div? power
      else if number.significand = 0 then some .zero
      else if 0 ≤ exponent then none
      else
        (Binary64.ofNat? (Nat.pow 10 greatestPower)).bind fun power =>
          (number.div? power).bind fun smaller => scale? steps smaller (exponent + greatestPower)

/-- The size of the binary number a literal stands for. -/
def binary64? (numeral : Numeral) : Option Binary64 :=
  let (whole, extra) := fillWord 0 numeral.whole
  let (digits, dropped) := fillWord whole numeral.fraction
  let shift : Int := (extra.length : Int) - ((numeral.fraction.length : Int) - dropped.length)
  (Binary64.ofNat? digits).bind fun number => scale? 4 number (shift + numeral.exponent)

end FilecoinRosetta.Decimal.Numeral
