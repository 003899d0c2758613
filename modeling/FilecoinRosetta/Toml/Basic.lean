/-!
# TOML values

A document is a table. Dates and fractions are kept as they are written: nothing in
a configuration is one, but they may stand where nobody looks.
-/

namespace FilecoinRosetta

/-- A TOML value. -/
inductive Toml where
  | str (value : String)
  /-- A whole number. -/
  | int (value : Int)
  /-- A number with a fraction or an exponent, or none that is finite. -/
  | real (source : String)
  /-- A truth value. -/
  | bool (value : Bool)
  /-- A date or a time or both. -/
  | moment (source : String)
  | arr (items : List Toml)
  /-- A table, in the order of its keys. -/
  | table (members : List (String × Toml))
  deriving Inhabited

namespace Toml

/-- Whether the value is a table. -/
def isTable : Toml → Bool
  | table _ => true
  | _ => false

/-- Whether the value is a list of tables with at least one. -/
def isTableList : Toml → Bool
  | arr (first :: rest) => (first :: rest).all isTable
  | _ => false

end Toml

end FilecoinRosetta
