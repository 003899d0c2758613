import FilecoinRosetta.Bytes

/-!
# Bytes written as one large number

The alphabets whose size is not a power of two (base 10, 36 and 58) write a byte
string as the number it stands for. Leading zero bytes are kept by writing one zero
symbol for each of them.
-/

namespace FilecoinRosetta.Text.Radix

/-- Write a number in a base of at least two, continuing digits written so far,
    which are the lower ones. Zero has no digits. -/
def digitsOnto (base : Nat) (number : Nat) (lower : List Nat) : List Nat :=
  if _stop : base < 2 ∨ number = 0 then lower
  else digitsOnto base (number / base) (number % base :: lower)
termination_by number
decreasing_by
  exact Nat.div_lt_self (by omega) (by omega)

/-- The number that digits stand for, most significant first. -/
def number (base : Nat) (digits : List Nat) : Nat :=
  digits.foldl (fun higher digit => higher * base + digit) 0

/-- Move digits from one base to another. Each leading zero is kept as one zero. -/
def convert (source target : Nat) (digits : List Nat) : List Nat :=
  (digits.takeWhile (· == 0)) ++ digitsOnto target (number source digits) []

/-- Write bytes with the given symbols. -/
def encode (symbols : List Char) (bytes : Bytes) : List Char :=
  (convert 256 symbols.length (bytes.map UInt8.toNat)).map fun digit => symbols.getD digit '?'

/-- Read bytes; a sign that is no symbol is refused. -/
def decode? (symbols : List Char) (text : List Char) : Option Bytes := do
  let digits ← text.mapM symbols.idxOf?
  some ((convert symbols.length 256 digits).map UInt8.ofNat)

end FilecoinRosetta.Text.Radix
