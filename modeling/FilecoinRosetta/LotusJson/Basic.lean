import FilecoinRosetta.Address
import FilecoinRosetta.Cid
import FilecoinRosetta.Json.Typed
import FilecoinRosetta.Tipset
import FilecoinRosetta.TokenAmount

/-!
# Lotus JSON

Nodes speak a dialect of JSON of their own: content identifiers are records with the
single member `/`, amounts are decimal strings, bytes are base 64, and what is empty
is usually null. Addresses are written with the letter of the node's network; every
other part of a text is independent of it.
-/

namespace FilecoinRosetta

/-- A type with a form in Lotus JSON. -/
class LotusJson (α : Type) where
  /-- Write a value; the network decides the letter of addresses. -/
  write : Network → α → Json
  /-- Read a value. -/
  read : Json.Reader α

namespace LotusJson

/-- Read a text as a type. -/
def read? (α : Type) [LotusJson α] (source : String) : Option α :=
  Json.read? (read (α := α)) source

instance : LotusJson Bool where
  write _ value := .bool value
  read := Json.Reader.bool

instance : LotusJson UInt32 where
  write _ value := .nat value.toNat
  read := Json.Reader.uint32

instance : LotusJson UInt64 where
  write _ value := .nat value.toNat
  read := Json.Reader.uint64

instance : LotusJson Int64 where
  write _ value := .int value.toInt
  read := Json.Reader.int64

instance : LotusJson String where
  write _ value := .str value
  read := Json.Reader.string

/-- Addresses are strings in their display form. -/
instance : LotusJson Address where
  write network address := .str (address.text network)
  read := Json.Reader.parsed fun source => (Address.parse source).toOption

/-- Amounts are strings in attoFIL. -/
instance : LotusJson TokenAmount where
  write _ amount := .str amount.attoText
  read := Json.Reader.parsed TokenAmount.parse?

/-- Content identifiers are records with one member. -/
instance : LotusJson Cid where
  write _ cid := .obj [("/", .str cid.text)]
  read depth json := do
    let found ← Json.fields ["/"] depth json
    found.required "/" (Json.Reader.parsed fun source => (Cid.parse source).toOption)

instance {α : Type} [LotusJson α] : LotusJson (Option α) where
  write network value :=
    match value with
    | none => .null
    | some inner => write network inner
  read := Json.Reader.nullable read

/-- An empty list is written as null, and null is read as one. -/
instance {α : Type} [LotusJson α] : LotusJson (List α) where
  write network items :=
    match items with
    | [] => .null
    | first :: rest => .arr ((first :: rest).map (write network))
  read depth json := ((Json.Reader.list read).nullable depth json).map fun items => items.getD []

/-- Bytes are strings in base 64; no bytes are null. -/
instance : LotusJson Bytes where
  write _ bytes :=
    match bytes with
    | [] => .null
    | first :: rest => .str (Text.Base64.encode (first :: rest))
  read depth json :=
    ((Json.Reader.parsed Text.Base64.decode?).nullable depth json).map fun bytes => bytes.getD []

/-- The key of no blocks is written as an empty list, unlike other lists. -/
instance : LotusJson TipsetKey where
  write network key := .arr (key.cids.map (write network))
  read depth json :=
    ((Json.Reader.list (read (α := Cid))).nullable depth json).map fun cids => ⟨cids.getD []⟩

/-! ## Parameters of calls are lists by position -/

/-- The items of a list of known length, each still to be read. -/
def items? (count : Nat) : Json.Reader (List Json)
  | _ + 1, .arr items => if items.length = count then some items else none
  | _, _ => none

/-- A list of one item. -/
structure Single (α : Type) where
  item : α
  deriving DecidableEq

instance {α : Type} [LotusJson α] : LotusJson (Single α) where
  write network single := .arr [write network single.item]
  read depth json := do
    match ← items? 1 depth json with
    | [first] => some ⟨← read (depth - 1) first⟩
    | _ => none

instance {α β : Type} [LotusJson α] [LotusJson β] : LotusJson (α × β) where
  write network pair := .arr [write network pair.1, write network pair.2]
  read depth json := do
    match ← items? 2 depth json with
    | [first, second] => some (← read (depth - 1) first, ← read (depth - 1) second)
    | _ => none

/-- A list of three items. -/
structure Triple (α β γ : Type) where
  /-- The first item. -/
  first : α
  /-- The second item. -/
  second : β
  /-- The third item. -/
  third : γ
  deriving DecidableEq

instance {α β γ : Type} [LotusJson α] [LotusJson β] [LotusJson γ] : LotusJson (Triple α β γ) where
  write network triple :=
    .arr [write network triple.first, write network triple.second, write network triple.third]
  read depth json := do
    match ← items? 3 depth json with
    | [first, second, third] =>
        some ⟨← read (depth - 1) first, ← read (depth - 1) second, ← read (depth - 1) third⟩
    | _ => none

/-- A list of four items. -/
structure Quadruple (α β γ δ : Type) where
  /-- The first item. -/
  first : α
  /-- The second item. -/
  second : β
  /-- The third item. -/
  third : γ
  /-- The fourth item. -/
  fourth : δ
  deriving DecidableEq

instance {α β γ δ : Type} [LotusJson α] [LotusJson β] [LotusJson γ] [LotusJson δ] :
    LotusJson (Quadruple α β γ δ) where
  write network items :=
    .arr [write network items.first, write network items.second, write network items.third,
      write network items.fourth]
  read depth json := do
    match ← items? 4 depth json with
    | [first, second, third, fourth] =>
        some ⟨← read (depth - 1) first, ← read (depth - 1) second, ← read (depth - 1) third,
          ← read (depth - 1) fourth⟩
    | _ => none

end LotusJson

end FilecoinRosetta
