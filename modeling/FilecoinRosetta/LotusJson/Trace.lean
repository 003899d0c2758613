import FilecoinRosetta.LotusJson.Chain
import FilecoinRosetta.Trace

/-!
# Lotus JSON of executions

What a node reports about executed messages. A tree of calls is written as deeply
nested as it is; each level of calls takes two containers.
-/

namespace FilecoinRosetta.LotusJson

instance : LotusJson CallTrace where
  write network call := .obj
    [("From", write network call.sender), ("To", write network call.receiver),
     ("Value", write network call.value), ("Method", write network call.method),
     ("Params", write network call.params), ("ParamsCodec", write network call.paramsCodec)]
  read depth json := do
    let found ← Json.fields ["From", "To", "Value", "Method", "Params", "ParamsCodec"] depth json
    let sender ← found.required "From" read
    let receiver ← found.required "To" read
    let value ← found.required "Value" read
    let method ← found.required "Method" read
    let params ← found.defaulted "Params" read []
    let paramsCodec ← found.defaulted "ParamsCodec" read 0
    some { sender, receiver, value, method, params, paramsCodec }

instance : LotusJson ReturnTrace where
  write network result := .obj
    [("ExitCode", write network result.exitCode), ("Return", write network result.data),
     ("ReturnCodec", write network result.codec)]
  read depth json := do
    let found ← Json.fields ["ExitCode", "Return", "ReturnCodec"] depth json
    let exitCode ← found.required "ExitCode" read
    let data ← found.defaulted "Return" read []
    let codec ← found.defaulted "ReturnCodec" read 0
    some { exitCode, data, codec }

mutual

/-- A tree of calls. -/
def writeTrace (network : Network) : ExecutionTrace → Json
  | .node call result subcalls => .obj
      [("Msg", write network call), ("MsgRct", write network result),
       ("Subcalls", match writeTraces network subcalls with
          | [] => .null
          | first :: rest => .arr (first :: rest))]

/-- The calls of a call. -/
def writeTraces (network : Network) : List ExecutionTrace → List Json
  | [] => []
  | first :: rest => writeTrace network first :: writeTraces network rest

end

/-- Read a call whose own calls are read by `readSubcall`. -/
def readTraceWith (readSubcall : Json.Reader ExecutionTrace) : Json.Reader ExecutionTrace :=
  fun depth json => do
    let found ← Json.fields ["Msg", "MsgRct", "Subcalls"] depth json
    let call ← found.required "Msg" read
    let result ← found.required "MsgRct" read
    let subcalls ← found.defaulted "Subcalls" (Json.Reader.list readSubcall).nullable none
    some (.node call result (subcalls.getD []))

/-- Read a tree of calls. Each level takes a record and a list. -/
def readTrace : Json.Reader ExecutionTrace
  | 0 => fun _ => none
  | 1 => readTraceWith (fun _ _ => none) 1
  | depth + 2 => readTraceWith (fun _ => readTrace depth) (depth + 2)

instance : LotusJson ExecutionTrace where
  write := writeTrace
  read := readTrace

instance : LotusJson Receipt where
  write network receipt := .obj
    [("ExitCode", write network receipt.exitCode), ("Return", write network receipt.data),
     ("GasUsed", write network receipt.gasUsed)]
  read depth json := do
    let found ← Json.fields ["ExitCode", "Return", "GasUsed"] depth json
    let exitCode ← found.required "ExitCode" read
    let data ← found.defaulted "Return" read []
    let gasUsed ← found.required "GasUsed" read
    some { exitCode, data, gasUsed }

instance : LotusJson GasCost where
  write network cost := .obj
    [("Message", write network cost.message), ("GasUsed", write network cost.gasUsed),
     ("BaseFeeBurn", write network cost.baseFeeBurn),
     ("OverEstimationBurn", write network cost.overEstimationBurn),
     ("MinerPenalty", write network cost.minerPenalty), ("MinerTip", write network cost.minerTip),
     ("Refund", write network cost.refund), ("TotalCost", write network cost.totalCost)]
  read depth json := do
    let found ← Json.fields
      ["Message", "GasUsed", "BaseFeeBurn", "OverEstimationBurn", "MinerPenalty",
       "MinerTip", "Refund", "TotalCost"] depth json
    let message ← found.defaulted "Message" read none
    let gasUsed ← found.required "GasUsed" read
    let baseFeeBurn ← found.required "BaseFeeBurn" read
    let overEstimationBurn ← found.required "OverEstimationBurn" read
    let minerPenalty ← found.required "MinerPenalty" read
    let minerTip ← found.required "MinerTip" read
    let refund ← found.required "Refund" read
    let totalCost ← found.required "TotalCost" read
    some { message, gasUsed, baseFeeBurn, overEstimationBurn, minerPenalty, minerTip,
           refund, totalCost }

instance : LotusJson Invocation where
  write network invocation := .obj
    [("MsgCid", write network invocation.messageCid), ("Msg", write network invocation.message),
     ("MsgRct", write network invocation.receipt), ("Error", write network invocation.error),
     ("GasCost", write network invocation.gasCost),
     ("ExecutionTrace", write network invocation.trace)]
  read depth json := do
    let found ← Json.fields
        ["MsgCid", "Msg", "MsgRct", "Error", "GasCost", "ExecutionTrace"] depth json
    let messageCid ← found.required "MsgCid" read
    let message ← found.required "Msg" read
    let receipt ← found.defaulted "MsgRct" read none
    let error ← found.defaulted "Error" read ""
    let gasCost ← found.required "GasCost" read
    let trace ← found.defaulted "ExecutionTrace" read none
    some { messageCid, message, receipt, error, gasCost, trace }

instance : LotusJson ComputedState where
  write network state := .obj
    [("Root", write network state.root), ("Trace", write network state.invocations)]
  read depth json := do
    let found ← Json.fields ["Root", "Trace"] depth json
    let root ← found.required "Root" read
    let invocations ← found.required "Trace" read
    some { root, invocations }

end FilecoinRosetta.LotusJson
