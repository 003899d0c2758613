import FilecoinRosetta.Text.Integer

/-!
# Token amounts

Amounts of FIL are integers of attoFIL, of any size and either sign. Clients see the
integer; people see the amount in FIL with its decimal point.
-/

namespace FilecoinRosetta

/-- An amount in attoFIL. -/
structure TokenAmount where
  /-- The number of attoFIL. -/
  atto : Int
  deriving DecidableEq, Repr

namespace TokenAmount

instance : Inhabited TokenAmount := ⟨⟨0⟩⟩

/-- Nothing. -/
def zero : TokenAmount := ⟨0⟩

instance : OfNat TokenAmount 0 := ⟨zero⟩

instance : Neg TokenAmount := ⟨fun amount => ⟨-amount.atto⟩⟩

instance : Add TokenAmount := ⟨fun first second => ⟨first.atto + second.atto⟩⟩

/-- Whether the amount is zero. -/
def isZero (amount : TokenAmount) : Bool :=
  amount.atto == 0

/-- Read an amount in attoFIL. -/
def parse? (source : String) : Option TokenAmount :=
  (Text.Integer.integer? source).map TokenAmount.mk

/-- The amount in attoFIL, in canonical decimal digits. -/
def attoText (amount : TokenAmount) : String :=
  Text.Integer.text amount.atto

/-- One FIL in attoFIL. -/
def precision : Nat := 1000000000000000000

/-- The fraction of a FIL: eighteen digits without the zeros at their end, but
at least one digit. -/
def fractionText (part : Nat) : String :=
  let digits := (toString part).toList
  let places := List.replicate (18 - digits.length) '0' ++ digits
  let significant := (places.reverse.dropWhile (· == '0')).reverse
  if significant.isEmpty then "0" else String.ofList significant

/-- The amount in FIL. -/
def filText (amount : TokenAmount) : String :=
  let size := amount.atto.natAbs
  let sign := if amount.atto < 0 then "-" else ""
  sign ++ toString (size / precision) ++ "." ++ fractionText (size % precision)

end TokenAmount

end FilecoinRosetta
