import FilecoinRosetta.Message
import FilecoinRosetta.Rosetta.Service

/-!
# Endpoints about pending messages

Messages that wait for inclusion are told as a single transfer of their
value, whose outcome is open.
-/

namespace FilecoinRosetta.Rosetta

namespace Service

/-- The messages pending at the head. -/
def pendingMessages : Endpoint (List SignedMessage) := do
  requireSynced .blockNotSynced
  let head ← Endpoint.call .headUnavailable .chainHead
  Endpoint.call .transactionsUnavailable (.pendingMessages head.key)

/-- The identifiers of all pending messages. One that has none spoils the list. -/
def mempool (service : Service) (request : Request Unit) : Endpoint (List Cid) := do
  let _ ← service.accept request.network
  let pending ← pendingMessages
  match pending.mapM SignedMessage.identity with
  | .ok cids => return cids
  | .error cause => Endpoint.refuseBecause .transactionsUnavailable cause.message

/-- Whether a message goes by an identifier. One without identifier goes by none. -/
def isIdentifiedBy (cid : Cid) (message : SignedMessage) : Bool :=
  match message.identity with
  | .ok found => found == cid
  | .error _ => false

/-- The transfer that a pending message will make. -/
def pendingTransfer (service : Service) (message : Message) : Program Transfer := do
  let type ← service.directory.methodName message.receiver message.method
  let sender ← service.directory.canonicalOrOwnText message.sender
  let receiver ← service.directory.canonicalOrOwnText message.receiver
  return ⟨type, none, sender, receiver, message.value⟩

/-- The identifier that a hash stands for. -/
def wantedCid (hash : String) : Endpoint Cid :=
  match Cid.parse hash with
  | .ok cid => return cid
  | .error cause => Endpoint.refuseBecause .malformedValue cause.message

/-- The transaction of a pending message. -/
def mempoolTransaction (service : Service) (request : Request String) : Endpoint Transaction := do
  let _ ← service.accept request.network
  let wanted ← wantedCid request.wanted
  let pending ← pendingMessages
  let found ← Endpoint.demand .transactionNotFound wanted.text
    (pending.find? (isIdentifiedBy wanted))
  let transfer ← Endpoint.lift (service.pendingTransfer found.message)
  return ⟨wanted.text, operationsOf [transfer] none⟩

end Service

/-- The identifiers of pending messages as clients see them. -/
def mempoolJson (cids : List Cid) : Json :=
  .obj [("transaction_identifiers",
    .arr (cids.map fun cid => transactionIdentifierJson cid.text))]

end FilecoinRosetta.Rosetta
