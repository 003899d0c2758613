import FilecoinRosetta.TokenAmount

/-!
# Operations

What a message did to balances is told as a list of operations, each changing the
balance of one account. A transfer makes two of them: a debit, and a credit that
refers to it. The fee of a message comes last.
-/

namespace FilecoinRosetta

/-- Whether an operation took effect. -/
inductive OperationStatus where
  /-- It did. -/
  | ok
  /-- It did not. -/
  | failed
  deriving DecidableEq, Repr

namespace OperationStatus

/-- The name of a status. -/
def name : OperationStatus → String
  | ok => "Ok"
  | failed => "Fail"

/-- The status of a call that succeeded or not. -/
def ofSuccess (success : Bool) : OperationStatus :=
  if success then ok else failed

end OperationStatus

/-- One change of a balance. -/
structure Operation where
  /-- The position in its transaction. -/
  index : Nat
  /-- The position of the operation it belongs to. -/
  related : Option Nat
  type : String
  /-- Whether it took effect, unless that is open. -/
  status : Option OperationStatus
  account : String
  /-- The change of its balance. -/
  amount : TokenAmount
  deriving DecidableEq

/-- The operations of one message. -/
structure Transaction where
  /-- The identifier of the message. -/
  hash : String
  /-- The operations in order. -/
  operations : List Operation
  deriving DecidableEq

/-- A value that moves from one account to another. -/
structure Transfer where
  /-- The type of both operations. -/
  type : String
  /-- The status of both operations. -/
  status : Option OperationStatus
  /-- The account that pays. -/
  sender : String
  /-- The account that is paid. -/
  receiver : String
  value : TokenAmount
  deriving DecidableEq

namespace Transfer

/-- The debit of a transfer. -/
def debit (transfer : Transfer) (index : Nat) : Operation where
  index := index
  related := none
  type := transfer.type
  status := transfer.status
  account := transfer.sender
  amount := -transfer.value

/-- The credit of a transfer, right behind its debit. -/
def credit (transfer : Transfer) (debitIndex : Nat) : Operation where
  index := debitIndex + 1
  related := some debitIndex
  type := transfer.type
  status := transfer.status
  account := transfer.receiver
  amount := transfer.value

/-- The operations of transfers in order, from an index on. -/
def operationsFrom (index : Nat) : List Transfer → List Operation
  | [] => []
  | transfer :: rest =>
      transfer.debit index :: transfer.credit index :: operationsFrom (index + 2) rest

end Transfer

/-- What the sender of a message paid for its execution. -/
structure Fee where
  /-- The sender. -/
  account : String
  cost : TokenAmount
  deriving DecidableEq

namespace Fee

/-- The type of fees. -/
def typeName : String := "Fee"

/-- The fee as an operation. It is paid whether the message succeeded or not. -/
def operation (fee : Fee) (index : Nat) : Operation where
  index := index
  related := none
  type := typeName
  status := some .ok
  account := fee.account
  amount := -fee.cost

end Fee

/-- The operations of a message with its fee behind them. -/
def operationsOf (transfers : List Transfer) (fee : Option Fee) : List Operation :=
  let moved := Transfer.operationsFrom 0 transfers
  match fee with
  | none => moved
  | some fee => moved ++ [fee.operation moved.length]

end FilecoinRosetta
