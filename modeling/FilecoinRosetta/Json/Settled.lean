import FilecoinRosetta.Decimal.Scaling
import FilecoinRosetta.Decimal.Shortest
import FilecoinRosetta.Json.Basic

/-!
# Values which are passed on

Free-form members of a request are taken in as they are and may be shown to the
client again. Taking them in settles them: of members with one name the last counts,
members are in the order of their names, integers beyond 64 bits and fractions
become binary64 numbers, and nothing unreadable or out of range is accepted.
-/

namespace FilecoinRosetta.Json

/-- Put a member into its place by name, replacing one of the same name. -/
def insertMember (name : String) (value : Json) : List (String × Json) → List (String × Json)
  | [] => [(name, value)]
  | (other, old) :: rest =>
      if name < other then (name, value) :: (other, old) :: rest
      else if name = other then (name, value) :: rest
      else (other, old) :: insertMember name value rest

/-- Members in the order of their names, the last of each name only. -/
def sortMembers (members : List (String × Json)) : List (String × Json) :=
  members.foldl (fun sorted (name, value) => insertMember name value sorted) []

/-- A literal at the precision of binary64. -/
def settleNumeral? (numeral : Decimal.Numeral) : Option Json :=
  numeral.binary64?.map fun number => .real (number.numeral numeral.negative)

/-- Take a value in; `depth` is the number of containers that may be nested. -/
def settle? : (depth : Nat) → Json → Option Json
  | _, .null => some .null
  | _, .bool value => some (.bool value)
  | _, .str value => some (.str value)
  | _, .int value =>
      if Int64.minValue.toInt ≤ value ∧ value < UInt64.size then some (.int value)
      else settleNumeral? (.ofInteger value)
  | _, .real value => settleNumeral? value
  | _, .unreadable => none
  | 0, .arr _ => none
  | 0, .obj _ => none
  | depth + 1, .arr items => (items.mapM (settle? depth)).map .arr
  | depth + 1, .obj members =>
      (members.mapM fun member : String × Json =>
        (settle? depth member.2).map fun settled => (member.1, settled)).map
          fun settled => .obj (sortMembers settled)

end FilecoinRosetta.Json
