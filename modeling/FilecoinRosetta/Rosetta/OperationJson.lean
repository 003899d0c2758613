import FilecoinRosetta.Json.Basic
import FilecoinRosetta.Operation

/-!
# Operations as clients see them

Amounts are attoFIL in decimal digits, with the currency beside them. What an
operation lacks is left out.
-/

namespace FilecoinRosetta.Rosetta

/-- The members of a record whose optional ones may be missing. -/
def present (members : List (String × Option Json)) : Json :=
  .obj (members.filterMap fun (name, value) => value.map fun json => (name, json))

/-- The currency of all amounts. -/
def currencyJson : Json :=
  .obj [("symbol", .str "FIL"), ("decimals", .nat 18)]

/-- An amount. -/
def amountJson (amount : TokenAmount) : Json :=
  .obj [("value", .str amount.attoText), ("currency", currencyJson)]

/-- The position of an operation. -/
def positionJson (index : Nat) : Json :=
  .obj [("index", .nat index)]

/-- An operation. -/
def operationJson (operation : Operation) : Json :=
  present
    [("operation_identifier", some (positionJson operation.index)),
     ("related_operations", operation.related.map fun index => .arr [positionJson index]),
     ("type", some (.str operation.type)),
     ("status", operation.status.map fun status => .str status.name),
     ("account", some (.obj [("address", .str operation.account)])),
     ("amount", some (amountJson operation.amount))]

/-- The identifier of a transaction. -/
def transactionIdentifierJson (hash : String) : Json :=
  .obj [("hash", .str hash)]

/-- A transaction. -/
def transactionJson (transaction : Transaction) : Json :=
  .obj
    [("transaction_identifier", transactionIdentifierJson transaction.hash),
     ("operations", .arr (transaction.operations.map operationJson))]

end FilecoinRosetta.Rosetta
