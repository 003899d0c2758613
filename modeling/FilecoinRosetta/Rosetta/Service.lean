import FilecoinRosetta.Directory
import FilecoinRosetta.Json.Printer
import FilecoinRosetta.Rosetta.Error
import FilecoinRosetta.Rosetta.Identifier
import FilecoinRosetta.Rosetta.Request

/-!
# The service and its gates

An endpoint is a program over the node which ends with an answer or with one error;
the first call that fails ends it. What every endpoint checks before it asks the
node for anything else is here: that the request is for the network served, how
final a tipset is wanted, and that the node follows the chain.
-/

namespace FilecoinRosetta.Rosetta

/-- A program that answers a request or refuses it. -/
abbrev Endpoint (α : Type) := ExceptT ServiceError Program α

namespace Endpoint

/-- Refuse without telling a cause. -/
def refuse {α : Type} (kind : ErrorKind) : Endpoint α :=
  throw (.bare kind)

/-- Refuse and tell the cause. -/
def refuseBecause {α : Type} (kind : ErrorKind) (cause : String) : Endpoint α :=
  throw (.because kind cause)

/-- A value that must be there. -/
def demand {α : Type} (kind : ErrorKind) (cause : String) : Option α → Endpoint α
  | some value => pure value
  | none => refuseBecause kind cause

/-- A call whose failure is an error of some kind. -/
def call (kind : ErrorKind) (call : Node.Call) : Endpoint call.Answer :=
  ExceptT.mk do return (← Program.call call).mapError (ServiceError.ofFailure kind)

/-- A call whose failure is an error of some kind, without a cause. -/
def quietCall (kind : ErrorKind) (call : Node.Call) : Endpoint call.Answer :=
  ExceptT.mk do return (← Program.call call).mapError (ServiceError.ofFailureQuietly kind)

/-- A program that does not refuse. -/
def lift {α : Type} (program : Program α) : Endpoint α :=
  ExceptT.lift program

end Endpoint

/-- The switches of the service. -/
structure ServiceOptions where
  /-- Whether tipsets can be asked for by tag, and the sub-network of
  the tags is served. -/
  tagged : Bool
  /-- Whether requests without a tag ask for a safe tipset. -/
  safeByDefault : Bool
  deriving DecidableEq, Repr

/-- What the service knows besides the node. -/
structure Service where
  /-- The meaning of codes. -/
  registry : Actor.Registry
  /-- The network served. -/
  networkName : String
  /-- The switches. -/
  options : ServiceOptions

/-- The blockchain served. -/
def blockchainName : String := "Filecoin"

/-- The sub-network that requests with finality tags are for. -/
def taggedSubNetwork : String := "f3"

/-- The name of the finality tag among the free-form members of a sub-network. -/
def finalityTagName : String := "finality_tag"

namespace Service

/-- The look-ups of the service. -/
def directory (service : Service) : Directory :=
  ⟨service.registry, Network.ofName service.networkName⟩

/-- Whether a part of the network is served. -/
def serves (service : Service) (subNetwork : SubNetwork) : Bool :=
  service.options.tagged && subNetwork.name == taggedSubNetwork

/-- Check that a request is for the network served. -/
def accept (service : Service) (network : Option NetworkIdentifier) :
    Except ServiceError NetworkIdentifier :=
  match network with
  | none => .error (.bare .missingNetwork)
  | some identifier =>
      if identifier.blockchain ≠ blockchainName then
        .error (.because .invalidBlockchain identifier.blockchain)
      else if identifier.network ≠ service.networkName then
        .error (.because .invalidNetwork identifier.network)
      else match identifier.subNetwork with
        | none => .ok identifier
        | some subNetwork =>
            if service.serves subNetwork then .ok identifier
            else .error (.because .invalidSubNetwork subNetwork.name)

/-- How final a tipset is asked for where no tag is given. -/
def defaultTag (service : Service) : Node.TipsetTag :=
  if service.options.safeByDefault then .safe else .latest

/-- The tag that an identifier carries, in whatever form. -/
def givenTag? (identifier : NetworkIdentifier) : Option Json := do
  let subNetwork ← identifier.subNetwork
  let metadata ← subNetwork.metadata
  metadata.lookup finalityTagName

/-- How final a tipset is asked for. Without tags it is always the head. -/
def finalityTag (service : Service) (identifier : NetworkIdentifier) :
    Except ServiceError Node.TipsetTag :=
  if !service.options.tagged then .ok .latest
  else match givenTag? identifier with
    | none => .ok service.defaultTag
    | some (.str name) =>
        match Node.TipsetTag.ofName? name with
        | some tag => .ok tag
        | none => .error (.because .invalidFinalityTag name)
    | some other => .error (.because .invalidFinalityTag (String.ofList (other.writeIndented 0)))

/-- The head of the chain as final as wanted. -/
def head (tag : Node.TipsetTag) : Endpoint Tipset :=
  match tag with
  | .latest => Endpoint.call .headUnavailable .chainHead
  | tag => Endpoint.call .headUnavailable (.tipsetOfTag tag)

/-- The progress of the node, unless it failed or nothing is known about it. -/
def syncStatus : Endpoint SyncStatus := do
  let state ← Endpoint.call .syncStatusUnavailable .syncState
  let status ← Endpoint.demand .syncStatusUnavailable SyncStatus.unknownMessage
    (SyncStatus.evaluate? state)
  if status.isErrored then Endpoint.refuse .syncErrored else return status

/-- Go on only if the node follows the chain; the kind of error is
up to the endpoint. -/
def requireSynced (kind : ErrorKind) : Endpoint Unit := do
  let status ← syncStatus
  if status.isSynced then return () else Endpoint.refuseBecause kind status.stage.text

/-- The identifier of a tipset's block. -/
def blockIdentifier (tipset : Tipset) : Endpoint BlockIdentifier := do
  let hash ← Endpoint.demand .tipsetHashUnavailable TipsetKey.emptyKeyMessage tipset.key.hashText?
  return ⟨tipset.height, hash⟩

/-- The latest time that can be told. -/
def maxTimestamp : Nat := 0x7FFFFFFFFFFFFFFF

/-- The time of a tipset in milliseconds. -/
def timestamp (tipset : Tipset) : Nat :=
  min (1000 * tipset.minTimestamp.toNat) maxTimestamp

/-- The key of the parent of a tipset, if it has one. -/
def parentKey? (tipset : Tipset) : Option TipsetKey :=
  tipset.parents?.filter fun key => !key.isEmpty

end Service

end FilecoinRosetta.Rosetta
