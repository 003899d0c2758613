import FilecoinRosetta.Json.Settled
import FilecoinRosetta.LotusJson.Node
import FilecoinRosetta.LotusJson.Trace
import FilecoinRosetta.Node.Basic

/-!
# Calls as remote procedure calls

Every call of a node has a method and parameters in Lotus JSON, and an answer
that is read as the type the call promises. Only tipsets by tag need the
second version of the interface.
-/

namespace FilecoinRosetta.Lotus

/-- The versions of the interface. -/
inductive ApiVersion where
  /-- The first one. -/
  | v1
  /-- The second one, which knows finality tags. -/
  | v2
  deriving DecidableEq, Repr

/-- What is sent to a node. -/
structure RpcRequest where
  /-- The version that is asked. -/
  api : ApiVersion
  method : String
  /-- The parameters by position. -/
  parameters : List Json

/-- What comes back. -/
inductive RpcReply where
  | result (value : Json)
  | refused (code : Int) (message : String)
  /-- Something that is no reply. -/
  | unreadable
  /-- Nothing at all. -/
  | lost

/-- A request to the first version. -/
def request (method : String) (parameters : List Json) : RpcRequest :=
  ⟨.v1, "Filecoin." ++ method, parameters⟩

/-- The request that makes a call, with addresses of a network. -/
def requestOf (network : Network) : Node.Call → RpcRequest
  | .chainHead => request "ChainHead" []
  | .chainGenesis => request "ChainGetGenesis" []
  | .tipset key => request "ChainGetTipSet" [json key]
  | .tipsetAtOrBelow height key => request "ChainGetTipSetByHeight" [json height, json key]
  | .tipsetAtOrAbove height key => request "ChainGetTipSetAfterHeight" [json height, json key]
  | .tipsetOfTag tag =>
      { request "ChainGetTipSet" [.obj [("tag", .str tag.name)]] with api := .v2 }
  | .computeState height key =>
      request "StateCompute" [json height, json ([] : List Message), json key]
  | .actor address key => request "StateGetActor" [json address, json key]
  | .accountKey address key => request "StateAccountKey" [json address, json key]
  | .idAddress address key => request "StateLookupID" [json address, json key]
  | .robustAddress address key => request "StateLookupRobustAddress" [json address, json key]
  | .networkName => request "StateNetworkName" []
  | .networkVersion key => request "StateNetworkVersion" [json key]
  | .actorCodes version => request "StateActorCodeCIDs" [json version]
  | .availableBalance address key => request "MsigGetAvailableBalance" [json address, json key]
  | .vestingSchedule address key => request "MsigGetVestingSchedule" [json address, json key]
  | .pendingMessages key => request "MpoolPending" [json key]
  | .pushMessage message => request "MpoolPush" [json message]
  | .nextNonce address => request "MpoolGetNonce" [json address]
  | .estimateGasLimit message key => request "GasEstimateGasLimit" [json message, json key]
  | .estimateGasPremium blocks sender gasLimit key =>
      request "GasEstimateGasPremium" [json blocks, json sender, json gasLimit, json key]
  | .estimateFeeCap message blocks key =>
      request "GasEstimateFeeCap" [json message, json blocks, json key]
  | .syncState => request "SyncState" []
  | .peers => request "NetPeers" []
  | .version => request "Version" []
where
  json {α : Type} [LotusJson α] (value : α) : Json := LotusJson.write network value

/-! ## Answers -/

/-- Read a result as a type. -/
def readResult {α : Type} (reader : Json.Reader α) (value : Json) : Except Node.Failure α :=
  match reader Json.maxDepth value with
  | some answer => .ok answer
  | none => .error .unreadable

/-- Codes by name, the last of each name only. -/
def lastOfEach : List (String × Cid) → List (String × Cid)
  | [] => []
  | (name, code) :: rest =>
      if (rest.lookup name).isSome then lastOfEach rest else (name, code) :: lastOfEach rest

/-- Read the codes of actors by name. -/
def readCodes : Json.Reader (List (String × Cid))
  | depth + 1, .obj members =>
      (members.mapM fun member : String × Json =>
        (LotusJson.read depth member.2).map fun code => (member.1, code)).map lastOfEach
  | _, _ => none

/-- An estimate of gas. A node may write a negative one. -/
def readGasLimit (value : Json) : Except Node.Failure UInt64 := do
  let limit ← readResult Json.Reader.int64 value
  if limit < 0 then
    .error (.other ["node estimated a negative gas limit",
      "out of range integral type conversion attempted"])
  else .ok (UInt64.ofNat limit.toInt.toNat)

/-- Read the result of a call. -/
def readAnswer (call : Node.Call) (value : Json) : Except Node.Failure call.Answer :=
  match call with
  | .chainHead => readResult LotusJson.read value
  | .chainGenesis => readResult LotusJson.read value
  | .tipset _ => readResult LotusJson.read value
  | .tipsetAtOrBelow _ _ => readResult LotusJson.read value
  | .tipsetAtOrAbove _ _ => readResult LotusJson.read value
  | .tipsetOfTag _ => readResult LotusJson.read value
  | .computeState _ _ => readResult LotusJson.read value
  | .actor _ _ => readResult LotusJson.read value
  | .accountKey _ _ => readResult LotusJson.read value
  | .idAddress _ _ => readResult LotusJson.read value
  | .robustAddress _ _ => readResult LotusJson.read value
  | .networkName => readResult LotusJson.read value
  | .networkVersion _ => readResult LotusJson.read value
  | .actorCodes _ => readResult readCodes value
  | .availableBalance _ _ => readResult LotusJson.read value
  | .vestingSchedule _ _ => readResult LotusJson.read value
  | .pendingMessages _ => readResult LotusJson.read value
  | .pushMessage _ => readResult LotusJson.read value
  | .nextNonce _ => readResult LotusJson.read value
  | .estimateGasLimit _ _ => readGasLimit value
  | .estimateGasPremium _ _ _ _ => readResult LotusJson.read value
  | .estimateFeeCap _ _ _ => readResult LotusJson.read value
  | .syncState => readResult LotusJson.read value
  | .peers => readResult LotusJson.read value
  | .version => readResult LotusJson.read value

/-- Whether a refusal says that there is no actor. -/
def saysNoActor (message : String) : Bool :=
  containsText "actor not found".toList message.toList
where
  containsText (part : List Char) : List Char → Bool
    | [] => part.isEmpty
    | sign :: rest => part.isPrefixOf (sign :: rest) || containsText part rest

/-- The answer to a call that was refused. That there is no actor is an answer where
    an actor was asked for. -/
def refusedAnswer (call : Node.Call) (code : Int) (message : String) :
    Except Node.Failure call.Answer :=
  match call with
  | .actor _ _ => if saysNoActor message then .ok none else .error (.refused code message)
  | _ => .error (.refused code message)

/-- The answer to a call that a reply holds. -/
def answerOf (call : Node.Call) : RpcReply → Except Node.Failure call.Answer
  | .result value => readAnswer call value
  | .refused code message => refusedAnswer call code message
  | .unreadable => .error .unreadable
  | .lost => .error .unreachable

end FilecoinRosetta.Lotus
