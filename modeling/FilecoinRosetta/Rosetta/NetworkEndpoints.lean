import FilecoinRosetta.Movement
import FilecoinRosetta.Operation
import FilecoinRosetta.Rosetta.Service

/-!
# Endpoints about the network

Which network is served, how far the node is, and what clients have to expect. While
the node is behind, nothing but the first tipset can be trusted, so that one is
reported as the current one.
-/

namespace FilecoinRosetta.Rosetta

/-- The status of the network. -/
structure NetworkStatus where
  current : BlockIdentifier
  /-- Its time in milliseconds. -/
  timestamp : Nat
  /-- The first block. -/
  genesis : BlockIdentifier
  /-- The progress of the node. -/
  sync : SyncStatus
  /-- The stage in words. -/
  stage : String
  /-- The names of the node's peers. -/
  peers : List String

/-- The types of all operations that transactions may have. -/
def operationTypes : List String :=
  Movement.payingNames ++ [Movement.proposeName, Movement.swapSignerName, Fee.typeName]

/-- The version of the interface. -/
def interfaceVersion : String := "1.4.1"

/-- The version of the service. -/
def serviceVersion : String := "0.1.0"

/-- The names of all finality tags. -/
def tagNames : List String :=
  Node.TipsetTag.all.map Node.TipsetTag.name

namespace Service

/-- The networks served: the whole one, and the part that takes finality tags. -/
def networks (service : Service) : List NetworkIdentifier :=
  let whole : NetworkIdentifier := ⟨blockchainName, service.networkName, none⟩
  let tags : Metadata := [(finalityTagName, .str ("/".intercalate tagNames))]
  if service.options.tagged then
    [whole, { whole with subNetwork := some ⟨taggedSubNetwork, some tags⟩ }]
  else [whole]

/-- The stage in words, with the finality settings in effect. -/
def describeStage (service : Service) (stage : SyncStage) (tag : Option Node.TipsetTag) : String :=
  if !service.options.tagged then stage.text ++ " (F3: disabled)"
  else
    let finality := match tag with
      | some tag => ", finality: " ++ tag.name
      | none => ""
    let forced :=
      if service.options.safeByDefault then
        ", force_f3: true, default_f3_finality: " ++ Node.TipsetTag.safe.name
      else ""
    stage.text ++ " (F3: enabled" ++ finality ++ forced ++ ")"

/-- The tipset reported as the current one. -/
def currentTipset (tag : Node.TipsetTag) (status : SyncStatus) (genesis : Tipset) :
    Endpoint Tipset :=
  if status.isSynced then head tag else return genesis

/-- How far the node is. -/
def networkStatus (service : Service) (request : Request Unit) : Endpoint NetworkStatus := do
  let identifier ← service.accept request.network
  let tag ← service.finalityTag identifier
  let status ← syncStatus
  let genesis ← Endpoint.call .genesisUnavailable .chainGenesis
  let current ← currentTipset tag status genesis
  let peers ← Endpoint.call .peersUnavailable .peers
  let currentIdentifier ← blockIdentifier current
  let genesisIdentifier ← blockIdentifier genesis
  let explicitTag := if identifier.subNetwork.isSome then some tag else none
  return {
    current := currentIdentifier
    timestamp := timestamp current
    genesis := genesisIdentifier
    sync := status
    stage := service.describeStage status.stage explicitTag
    peers := peers.map PeerInfo.id }

/-- The version of the node behind the service. -/
def networkOptions (service : Service) (request : Request Unit) : Endpoint String := do
  let _ ← service.accept request.network
  let version ← Endpoint.quietCall .nodeInfoUnavailable .version
  return version.version

/-- What clients are told about finality tags. -/
def finalityMetadata (service : Service) : Metadata :=
  if !service.options.tagged then
    [("f3_enabled", .bool false), ("f3_reason", .str "V2 APIs disabled")]
  else
    let supported : Metadata :=
      [("f3_enabled", .bool true), ("f3_supported_finality_tags", .arr (tagNames.map Json.str)),
       ("f3_sub_network", .str taggedSubNetwork)]
    if service.options.safeByDefault then
      supported ++
        [("force_f3", .bool true), ("default_f3_finality_tag", .str Node.TipsetTag.safe.name)]
    else supported

/-- The list of networks as clients see it. -/
def networksJson (service : Service) : Json :=
  .obj [("network_identifiers", .arr (service.networks.map NetworkIdentifier.json))]

/-- What clients have to expect, as they see it. -/
def optionsJson (service : Service) (nodeVersion : String) : Json :=
  let status (status : OperationStatus) (successful : Bool) : Json :=
    .obj [("status", .str status.name), ("successful", .bool successful)]
  .obj
    [("version", .obj
        [("rosetta_version", .str interfaceVersion), ("node_version", .str nodeVersion),
         ("middleware_version", .str serviceVersion), ("metadata", .obj service.finalityMetadata)]),
     ("allow", .obj
        [("operation_statuses", .arr [status .ok true, status .failed false]),
         ("operation_types", .arr (operationTypes.map Json.str)),
         ("errors", .arr (ErrorKind.all.map fun kind => (ServiceError.bare kind).json)),
         ("historical_balance_lookup", .bool true)])]

end Service

/-- The status of the network as clients see it. -/
def NetworkStatus.json (status : NetworkStatus) : Json :=
  .obj
    [("current_block_identifier", status.current.json),
     ("current_block_timestamp", .nat status.timestamp),
     ("genesis_block_identifier", status.genesis.json),
     ("sync_status", .obj
        [("current_index", .int status.sync.currentHeight.toInt),
         ("target_index", .int status.sync.targetHeight.toInt), ("stage", .str status.stage),
         ("synced", .bool status.sync.isSynced)]),
     ("peers", .arr (status.peers.map fun peer => .obj [("peer_id", .str peer)]))]

end FilecoinRosetta.Rosetta
