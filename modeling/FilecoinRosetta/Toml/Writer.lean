import FilecoinRosetta.Toml.Text
import FilecoinRosetta.Toml.Basic

/-!
# Writing TOML documents

Every table stands under a header of its own, a blank line in front of it, with its
plain values before its tables. The tables of a list each have a header in double
brackets. Other lists have one item per line.
-/

namespace FilecoinRosetta.Toml

/-- Whether a sign may stand in a key without quotes. -/
def isBareSign (sign : Char) : Bool :=
  sign.isAlphanum || sign == '_' || sign == '-'

/-- A key as it is written. -/
def writeKey (key : String) : String :=
  if !key.isEmpty && key.toList.all isBareSign then key else writeText key

mutual

/-- A value as it is written behind a key. -/
def writeValue : Toml → String
  | .str value => writeText value
  | .int value => toString value
  | .real source => source
  | .bool true => "true"
  | .bool false => "false"
  | .moment source => source
  | .arr [] => "[]"
  | .arr (first :: rest) => "[" ++ writeItems (first :: rest) ++ "\n]"
  | .table [] => "\x7b\x7d"
  | .table (first :: rest) => "\x7b " ++ ", ".intercalate (writeMembers (first :: rest)) ++ " \x7d"

/-- Items, each on its own line. -/
def writeItems : List Toml → String
  | [] => ""
  | item :: rest => "\n    " ++ writeValue item ++ "," ++ writeItems rest

/-- Members of a table in braces. -/
def writeMembers : List (String × Toml) → List String
  | [] => []
  | (key, value) :: rest => (writeKey key ++ " = " ++ writeValue value) :: writeMembers rest

end

/-- Whether a value has headers of its own. -/
def hasHeader (value : Toml) : Bool :=
  value.isTable || value.isTableList

/-- The lines of plain values. -/
def plainLines (members : List (String × Toml)) : List String :=
  (members.filter fun (_, value) => !hasHeader value).map fun (key, value) =>
    writeKey key ++ " = " ++ writeValue value

mutual

/-- The blocks of lines of the tables among some members, at a path. -/
def tableBlocks (path : List String) : List (String × Toml) → List (List String)
  | [] => []
  | (key, .table members) :: rest =>
      let inner := path ++ [writeKey key]
      (("[" ++ ".".intercalate inner ++ "]") :: plainLines members) ::
        (tableBlocks inner members ++ tableBlocks path rest)
  | (key, .arr items) :: rest =>
      (if (Toml.arr items).isTableList then listBlocks (path ++ [writeKey key]) items else []) ++
        tableBlocks path rest
  | (_, _) :: rest => tableBlocks path rest

/-- The blocks of lines of the tables of a list, at a path. -/
def listBlocks (path : List String) : List Toml → List (List String)
  | [] => []
  | .table members :: rest =>
      (("[[" ++ ".".intercalate path ++ "]]") :: plainLines members) ::
        (tableBlocks path members ++ listBlocks path rest)
  | _ :: rest => listBlocks path rest

end

/-- A document as it is written. -/
def write (members : List (String × Toml)) : String :=
  let blocks := (plainLines members :: tableBlocks [] members).filter fun block => !block.isEmpty
  "\n".intercalate (blocks.map fun block => String.join (block.map fun line => line ++ "\n"))

end FilecoinRosetta.Toml
