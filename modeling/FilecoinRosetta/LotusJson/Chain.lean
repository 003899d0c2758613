import FilecoinRosetta.LotusJson.Basic
import FilecoinRosetta.Message
import FilecoinRosetta.Sync

/-!
# Lotus JSON of the chain

Tipsets with their headers, messages with and without signature, and the
progress of a node. An identifier which is not known is left out; other absent
values are written as null.
-/

namespace FilecoinRosetta.LotusJson

instance : LotusJson BlockHeader where
  write network header := .obj
    [("Miner", write network header.miner), ("Parents", write network header.parents),
     ("Height", write network header.height), ("Timestamp", write network header.timestamp)]
  read depth json := do
    let found ← Json.fields ["Miner", "Parents", "Height", "Timestamp"] depth json
    let miner ← found.required "Miner" read
    let parents ← found.required "Parents" read
    let height ← found.required "Height" read
    let timestamp ← found.required "Timestamp" read
    some { miner, parents, height, timestamp }

/-- The headers are always a list, also when there are none. -/
instance : LotusJson Tipset where
  write network tipset := .obj
    [("Cids", write network tipset.key), ("Blocks", .arr (tipset.blocks.map (write network))),
     ("Height", write network tipset.height)]
  read depth json := do
    let found ← Json.fields ["Cids", "Blocks", "Height"] depth json
    let key ← found.required "Cids" read
    let blocks ← found.required "Blocks" (Json.Reader.list read)
    let height ← found.required "Height" read
    some { key, blocks, height }

/-- The member of an identifier which may not be known. -/
def cidMember (network : Network) (cid : Option Cid) : List (String × Json) :=
  match cid with
  | none => []
  | some known => [("CID", write network known)]

instance : LotusJson Message where
  write network message := .obj
    ([("Version", write network message.version), ("To", write network message.receiver),
      ("From", write network message.sender), ("Nonce", write network message.nonce),
      ("Value", write network message.value), ("GasLimit", write network message.gasLimit),
      ("GasFeeCap", write network message.gasFeeCap),
      ("GasPremium", write network message.gasPremium),
      ("Method", write network message.method), ("Params", write network message.params)] ++
      cidMember network message.cid)
  read depth json := do
    let found ← Json.fields
      ["Version", "To", "From", "Nonce", "Value", "GasLimit", "GasFeeCap", "GasPremium", "Method",
       "Params", "CID"] depth json
    let version ← found.defaulted "Version" read 0
    let receiver ← found.required "To" read
    let sender ← found.required "From" read
    let nonce ← found.required "Nonce" read
    let value ← found.required "Value" read
    let gasLimit ← found.required "GasLimit" read
    let gasFeeCap ← found.required "GasFeeCap" read
    let gasPremium ← found.required "GasPremium" read
    let method ← found.required "Method" read
    let params ← found.defaulted "Params" read []
    let cid ← found.defaulted "CID" read none
    some { version, receiver, sender, nonce, value, gasLimit, gasFeeCap, gasPremium, method, params,
           cid }

instance : LotusJson Signature where
  write network signature := .obj
    [("Type", .nat signature.type.toNat), ("Data", write network signature.data)]
  read depth json := do
    let found ← Json.fields ["Type", "Data"] depth json
    let type ← found.required "Type" Json.Reader.uint8
    let data ← found.required "Data" read
    some { type, data }

instance : LotusJson SignedMessage where
  write network signed := .obj
    ([("Message", write network signed.message), ("Signature", write network signed.signature)] ++
      cidMember network signed.cid)
  read depth json := do
    let found ← Json.fields ["Message", "Signature", "CID"] depth json
    let message ← found.required "Message" read
    let signature ← found.required "Signature" read
    let cid ← found.defaulted "CID" read none
    some { message, signature, cid }

/-- Stages are numbers; several may stand for one stage. -/
instance : LotusJson SyncStage where
  write _ stage := .nat stage.code.toNat
  read depth json := (Json.Reader.uint8 depth json).bind SyncStage.ofCode?

instance : LotusJson SyncWorker where
  write network worker := .obj
    [("WorkerID", write network worker.worker), ("Base", write network worker.base),
     ("Target", write network worker.target), ("Stage", write network worker.stage),
     ("Height", write network worker.height), ("Message", write network worker.remark)]
  read depth json := do
    let found ← Json.fields ["WorkerID", "Base", "Target", "Stage", "Height", "Message"] depth json
    let worker ← found.defaulted "WorkerID" read 0
    let base ← found.defaulted "Base" read none
    let target ← found.defaulted "Target" read none
    let stage ← found.required "Stage" read
    let height ← found.required "Height" read
    let remark ← found.defaulted "Message" read ""
    some { worker, base, target, stage, height, remark }

instance : LotusJson SyncState where
  write network state := .obj
    [("ActiveSyncs", write network state.workers), ("VMApplied", write network state.applied)]
  read depth json := do
    let found ← Json.fields ["ActiveSyncs", "VMApplied"] depth json
    let workers ← found.defaulted "ActiveSyncs" read []
    let applied ← found.defaulted "VMApplied" read 0
    some { workers, applied }

end FilecoinRosetta.LotusJson
