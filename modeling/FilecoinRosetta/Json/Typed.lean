import FilecoinRosetta.Json.Reader

/-!
# Typed reading of JSON values

A reader takes the number of containers that may still be nested and a value.
Records are read from members by name or from a list by position. A known name that
occurs twice makes a record unreadable; an unknown one is skipped whatever its value
is, and what is skipped may be nested at any depth.
-/

namespace FilecoinRosetta.Json

/-- How a type is read. The first argument is the number of nested containers
allowed. -/
abbrev Reader (α : Type) := (depth : Nat) → Json → Option α

/-- The number of containers that may be nested in a text. -/
def maxDepth : Nat := 127

/-- The integer of a literal between two bounds, the upper one excluded. -/
def integerBetween? (low high : Int) : Json → Option Int
  | int value => if low ≤ value ∧ value < high then some value else none
  | _ => none

namespace Reader

/-- A string. -/
def string : Reader String
  | _, str value => some value
  | _, _ => none

/-- A truth value. -/
def bool : Reader Bool
  | _, .bool value => some value
  | _, _ => none

/-- An unsigned 8-bit number. -/
def uint8 : Reader UInt8 := fun _ json =>
  (integerBetween? 0 UInt8.size json).map fun value => UInt8.ofNat value.toNat

/-- An unsigned 32-bit number. -/
def uint32 : Reader UInt32 := fun _ json =>
  (integerBetween? 0 UInt32.size json).map fun value => UInt32.ofNat value.toNat

/-- An unsigned 64-bit number. -/
def uint64 : Reader UInt64 := fun _ json =>
  (integerBetween? 0 UInt64.size json).map fun value => UInt64.ofNat value.toNat

/-- A signed 64-bit number. -/
def int64 : Reader Int64 := fun _ json =>
  (integerBetween? (-0x8000000000000000) 0x8000000000000000 json).map Int64.ofInt

/-- A string in the form that a parser accepts. -/
def parsed {α : Type} (parse? : String → Option α) : Reader α
  | _, str value => parse? value
  | _, _ => none

/-- Null, or a value. -/
def nullable {α : Type} (reader : Reader α) : Reader (Option α)
  | _, null => some none
  | depth, json => (reader depth json).map some

/-- A list. -/
def list {α : Type} (reader : Reader α) : Reader (List α)
  | depth + 1, arr items => items.mapM (reader depth)
  | _, _ => none

end Reader

/-- The members of a record that its type knows. -/
structure Fields where
  /-- Whether the record was written as a list. -/
  positional : Bool
  /-- How many containers may be nested in a member. -/
  depth : Nat
  /-- Each known name with its value, if it is there. -/
  entries : List (String × Option Json)

/-- Whether one of the known names occurs twice. -/
def repeatsKnown (names : List String) : List (String × Json) → Bool
  | [] => false
  | (name, _) :: rest =>
      (names.contains name && (rest.lookup name).isSome) || repeatsKnown names rest

/-- The known members of a record written by name. -/
def namedFields (names : List String) : Reader Fields
  | depth + 1, obj members =>
      if repeatsKnown names members then none
      else some ⟨false, depth, names.map fun name => (name, members.lookup name)⟩
  | _, _ => none

/-- The members of a record written by name or by position. A list may not be
longer than the record. -/
def fields (names : List String) : Reader Fields
  | depth + 1, arr items =>
      if names.length < items.length then none
      else
        let missing := List.replicate (names.length - items.length) none
        some ⟨true, depth, names.zip (items.map some ++ missing)⟩
  | depth, json => namedFields names depth json

namespace Fields

/-- The value of a name. -/
def value? (found : Fields) (name : String) : Option Json :=
  (found.entries.lookup name).join

/-- A member that must be there. -/
def required {α : Type} (found : Fields) (name : String) (reader : Reader α) : Option α :=
  (found.value? name).bind (reader found.depth)

/-- A member that has a value when it is not there. -/
def defaulted {α : Type} (found : Fields) (name : String) (reader : Reader α) (default : α) :
    Option α :=
  match found.value? name with
  | some json => reader found.depth json
  | none => some default

end Fields

/-- Read a text as a type. -/
def read? {α : Type} (reader : Reader α) (source : String) : Option α :=
  (parse? source).bind (reader maxDepth)

/-- Read what should be a text in UTF-8 as a type. Other bytes than those of
    characters are refused wherever they would be read, and passed over in the
    strings of what is skipped. -/
def readBytes? {α : Type} (reader : Reader α) (source : Bytes) : Option α :=
  (parseBytes? source).bind (reader maxDepth)

/-- A text is read as its UTF-8 form is, so all that holds of readers of texts
holds of bodies too. -/
theorem readBytes_utf8 {α : Type} (reader : Reader α) (text : String) :
    readBytes? reader (utf8 text) = read? reader text := by
  rw [readBytes?, parseBytes?, byteTokens_utf8]
  rfl

end FilecoinRosetta.Json
