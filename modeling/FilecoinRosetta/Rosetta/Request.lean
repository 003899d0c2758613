import FilecoinRosetta.Rosetta.Identifier

/-!
# Requests

The body of a request is one JSON text. All requests but the first name the network
they are for; whether they name it at all is checked later, so that a missing
network is an error of its own.
-/

namespace FilecoinRosetta.Rosetta

/-- Read the network of a request, if it names one. -/
def readNetwork (found : Json.Fields) : Option (Option NetworkIdentifier) :=
  found.defaulted "network_identifier" (Json.Reader.nullable NetworkIdentifier.read) none

/-- Read a request that may carry free-form members and nothing else. -/
def readListRequest : Json.Reader Unit := fun depth json => do
  let found ← Json.fields ["metadata"] depth json
  let _ ← found.defaulted "metadata" (Json.Reader.nullable readMetadata) none
  some ()

/-- What a request wants, and for which network. -/
structure Request (α : Type) where
  network : Option NetworkIdentifier
  wanted : α

/-- Read a request that names a network and nothing else. -/
def readNetworkRequest : Json.Reader (Request Unit) := fun depth json => do
  let found ← Json.fields ["network_identifier"] depth json
  some ⟨← readNetwork found, ()⟩

/-- A question for a balance. -/
structure BalanceQuery where
  /-- Whose balance. -/
  account : AccountIdentifier
  /-- As of which block, if not the latest. -/
  block : Option BlockSelector
  deriving DecidableEq

/-- Read a request for a balance. -/
def readBalanceRequest : Json.Reader (Request BalanceQuery) := fun depth json => do
  let found ← Json.fields
      ["network_identifier", "account_identifier", "block_identifier"] depth json
  let network ← readNetwork found
  let account ← found.required "account_identifier" AccountIdentifier.read
  let block ← found.defaulted "block_identifier" (Json.Reader.nullable BlockSelector.read) none
  some ⟨network, { account, block }⟩

/-- Read a request for a block. -/
def readBlockRequest : Json.Reader (Request BlockSelector) := fun depth json => do
  let found ← Json.fields ["network_identifier", "block_identifier"] depth json
  let network ← readNetwork found
  some ⟨network, ← found.required "block_identifier" BlockSelector.read⟩

/-- A question for a transaction of a block. -/
structure TransactionQuery where
  block : BlockIdentifier
  /-- The hash of the transaction. -/
  hash : String
  deriving DecidableEq

/-- Read a request for a transaction of a block. -/
def readBlockTransactionRequest : Json.Reader (Request TransactionQuery) := fun depth json => do
  let found ← Json.fields
      ["network_identifier", "block_identifier", "transaction_identifier"] depth json
  let network ← readNetwork found
  let block ← found.required "block_identifier" BlockIdentifier.read
  let hash ← found.required "transaction_identifier" readTransactionHash
  some ⟨network, { block, hash }⟩

/-- Read a request for a pending transaction, by its hash. -/
def readPendingTransactionRequest : Json.Reader (Request String) := fun depth json => do
  let found ← Json.fields ["network_identifier", "transaction_identifier"] depth json
  let network ← readNetwork found
  some ⟨network, ← found.required "transaction_identifier" readTransactionHash⟩

/-- Read a request for what a new message needs, by its options. -/
def readMetadataRequest : Json.Reader (Request Metadata) := fun depth json => do
  let found ← Json.fields ["network_identifier", "options"] depth json
  let network ← readNetwork found
  let options ← found.defaulted "options" (Json.Reader.nullable readMetadata) none
  some ⟨network, options.getD []⟩

/-- Read a request to submit a signed message, by its text. -/
def readSubmitRequest : Json.Reader (Request String) := fun depth json => do
  let found ← Json.fields ["network_identifier", "signed_transaction"] depth json
  let network ← readNetwork found
  some ⟨network, ← found.required "signed_transaction" Json.Reader.string⟩

/-- Read a request for an operation that is not served. All its other members
    are free-form, so it must be written by name and everything in it must be
    fit to be taken in. -/
def readOfflineRequest : Json.Reader (Request Unit) := fun depth json => do
  let found ← Json.namedFields ["network_identifier"] depth json
  let network ← readNetwork found
  match json with
  | .obj members =>
      let rest := members.filter fun (name, _) => name != "network_identifier"
      let _ ← readMetadata depth (.obj rest)
      some ⟨network, ()⟩
  | _ => none

end FilecoinRosetta.Rosetta
