import FilecoinRosetta.Message

/-!
# Execution traces

Computing the state of a tipset yields one invocation per message, explicit or
implicit, each with the gas it cost and the tree of calls it made. Value moves by
the calls of the tree, at any depth.
-/

namespace FilecoinRosetta

/-- One call of an actor by another. -/
structure CallTrace where
  /-- The caller. -/
  sender : Address
  /-- The actor called. -/
  receiver : Address
  /-- The value that moves with the call. -/
  value : TokenAmount
  method : UInt64
  /-- The parameters. -/
  params : Bytes
  /-- The codec of the parameters. -/
  paramsCodec : UInt64
  deriving DecidableEq

/-- How a call ended. -/
structure ReturnTrace where
  /-- Zero for success. -/
  exitCode : UInt32
  /-- The value returned. -/
  data : Bytes
  /-- The codec of the value. -/
  codec : UInt64
  deriving DecidableEq

/-- Whether the call succeeded. -/
def ReturnTrace.isSuccess (result : ReturnTrace) : Bool :=
  result.exitCode == 0

/-- A call with the calls made on its behalf. -/
inductive ExecutionTrace where
  /-- A call, how it ended, and its own calls in order. -/
  | node (call : CallTrace) (result : ReturnTrace) (subcalls : List ExecutionTrace)

namespace ExecutionTrace

/-- The call. -/
def call : ExecutionTrace → CallTrace
  | node call _ _ => call

end ExecutionTrace

/-- The receipt of a message. -/
structure Receipt where
  /-- Zero for success. -/
  exitCode : UInt32
  /-- The value returned. -/
  data : Bytes
  gasUsed : UInt64
  deriving DecidableEq

/-- What the gas of a message cost. -/
structure GasCost where
  /-- The message, where given. -/
  message : Option Cid
  gasUsed : TokenAmount
  /-- Burnt for the gas used. -/
  baseFeeBurn : TokenAmount
  /-- Burnt for gas reserved in excess. -/
  overEstimationBurn : TokenAmount
  /-- Taken from the miner. -/
  minerPenalty : TokenAmount
  /-- Paid to the miner. -/
  minerTip : TokenAmount
  /-- Returned to the sender. -/
  refund : TokenAmount
  /-- What the sender paid in all. -/
  totalCost : TokenAmount
  deriving DecidableEq

/-- The execution of one message. -/
structure Invocation where
  /-- The identifier of the message. -/
  messageCid : Cid
  message : Message
  /-- Its receipt, where there is one. -/
  receipt : Option Receipt
  /-- An error of the execution, empty for none. -/
  error : String
  gasCost : GasCost
  /-- The calls it made, where they were recorded. -/
  trace : Option ExecutionTrace

/-- The outcome of computing the state of a tipset. -/
structure ComputedState where
  /-- The root of the new state. -/
  root : Cid
  /-- The executions in order. -/
  invocations : List Invocation

end FilecoinRosetta
