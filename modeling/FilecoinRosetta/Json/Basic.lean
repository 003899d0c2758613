import FilecoinRosetta.Decimal.Numeral

/-!
# JSON values

A value as it stands in a text: members keep their order and may repeat,
and numbers keep their literal form where it says more than an integer.
Some texts are well-formed and yet denote nothing, because they name a
character that does not exist, or hold bytes that belong to none. Such a
value may be skipped over, never read.
-/

namespace FilecoinRosetta

/-- A JSON value. -/
inductive Json where
  /-- The null value. -/
  | null
  /-- A truth value. -/
  | bool (value : Bool)
  /-- A literal without point and exponent, other than minus zero. -/
  | int (value : Int)
  /-- Any other number literal. -/
  | real (value : Decimal.Numeral)
  | str (value : String)
  | arr (items : List Json)
  /-- Members in the order of the text, repetitions included. -/
  | obj (members : List (String × Json))
  /-- A string that holds half of a character or a byte that belongs to none, or
      members with such a name. -/
  | unreadable
  deriving Inhabited

namespace Json

/-- A natural number. -/
def nat (number : Nat) : Json :=
  int number

end Json

end FilecoinRosetta
