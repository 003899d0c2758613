import FilecoinRosetta.Json.Basic

/-!
# Writing JSON texts

Values are written without blanks, or with one member or item per line, indented by
two spaces. Strings escape the quote, the backslash and the control characters, the
latter by their short names where these exist.
-/

namespace FilecoinRosetta.Json

/-- The digits of a unit of sixteen bits in hexadecimal. -/
def unitDigits (unit : Nat) : List Char :=
  [unit / 4096 % 16, unit / 256 % 16, unit / 16 % 16, unit % 16].map fun digit =>
    "0123456789abcdef".toList.getD digit '0'

/-- A character of a string as it is written. -/
def writeSign (sign : Char) : List Char :=
  match sign with
  | '"' => ['\\', '"']
  | '\\' => ['\\', '\\']
  | '\x08' => ['\\', 'b']
  | '\x0c' => ['\\', 'f']
  | '\n' => ['\\', 'n']
  | '\r' => ['\\', 'r']
  | '\t' => ['\\', 't']
  | _ => if sign.toNat < 0x20 then '\\' :: 'u' :: unitDigits sign.toNat else [sign]

/-- A string as it is written. -/
def writeText (value : String) : List Char :=
  '"' :: value.toList.flatMap writeSign ++ ['"']

/-- A literal as it is written. -/
def writeNumeral (numeral : Decimal.Numeral) : List Char :=
  let digits (values : List Nat) : List Char := values.flatMap fun digit => (toString digit).toList
  let sign := if numeral.negative then ['-'] else []
  let fraction := if numeral.fraction.isEmpty then [] else '.' :: digits numeral.fraction
  let needed := numeral.fractional && (numeral.exponent != 0 || numeral.fraction.isEmpty)
  let exponent := if needed then 'e' :: (toString numeral.exponent).toList else []
  sign ++ digits numeral.whole ++ fraction ++ exponent

mutual

/-- The text of a value without blanks. A value that denotes nothing
is written as null. -/
def write : Json → List Char
  | .null => "null".toList
  | .bool true => "true".toList
  | .bool false => "false".toList
  | .int value => (toString value).toList
  | .real value => writeNumeral value
  | .str value => writeText value
  | .arr items => '[' :: writeItems items ++ [']']
  | .obj members => '{' :: writeMembers members ++ ['}']
  | .unreadable => "null".toList

/-- The items of a list, separated by commas. -/
def writeItems : List Json → List Char
  | [] => []
  | [last] => write last
  | item :: rest => write item ++ ',' :: writeItems rest

/-- Members, separated by commas. -/
def writeMembers : List (String × Json) → List Char
  | [] => []
  | [(name, last)] => writeText name ++ ':' :: write last
  | (name, value) :: rest => writeText name ++ ':' :: write value ++ ',' :: writeMembers rest

end

/-- The text of a value without blanks. -/
def text (json : Json) : String :=
  String.ofList json.write

/-- A new line with the indentation of a depth. -/
def newLine (depth : Nat) : List Char :=
  '\n' :: List.replicate (2 * depth) ' '

mutual

/-- The text of a value with one item or member per line, at a depth of indentation.
    Empty containers stay on their line. -/
def writeIndented (depth : Nat) : Json → List Char
  | .arr [] => "[]".toList
  | .obj [] => ['{', '}']
  | .arr (first :: rest) =>
      '[' :: newLine (depth + 1) ++ writeIndented (depth + 1) first ++
        writeIndentedItems (depth + 1) rest ++ newLine depth ++ [']']
  | .obj ((name, first) :: rest) =>
      '{' :: newLine (depth + 1) ++ writeText name ++ ':' :: ' ' ::
        writeIndented (depth + 1) first ++
        writeIndentedMembers (depth + 1) rest ++ newLine depth ++ ['}']
  | .null => "null".toList
  | .bool true => "true".toList
  | .bool false => "false".toList
  | .int value => (toString value).toList
  | .real value => writeNumeral value
  | .str value => writeText value
  | .unreadable => "null".toList

/-- The items behind the first, each on its own line. -/
def writeIndentedItems (depth : Nat) : List Json → List Char
  | [] => []
  | item :: rest =>
      ',' :: newLine depth ++ writeIndented depth item ++ writeIndentedItems depth rest

/-- The members behind the first, each on its own line. -/
def writeIndentedMembers (depth : Nat) : List (String × Json) → List Char
  | [] => []
  | (name, value) :: rest =>
      ',' :: newLine depth ++ writeText name ++ ':' :: ' ' :: writeIndented depth value ++
        writeIndentedMembers depth rest

end

end FilecoinRosetta.Json
