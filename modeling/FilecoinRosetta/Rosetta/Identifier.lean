import FilecoinRosetta.Json.Settled
import FilecoinRosetta.Json.Typed
import FilecoinRosetta.Rosetta.OperationJson
import FilecoinRosetta.Tipset

/-!
# Identifiers of networks, blocks and accounts

Requests name what they are about by these records. Free-form members that come with
a request are taken in as settled JSON.
-/

namespace FilecoinRosetta.Rosetta

/-- Free-form members, in the order of their names. -/
abbrev Metadata := List (String × Json)

/-- Read free-form members. -/
def readMetadata : Json.Reader Metadata := fun depth json =>
  match json, json.settle? depth with
  | .obj _, some (.obj members) => some members
  | _, _ => none

/-- A part of a network. -/
structure SubNetwork where
  name : String
  /-- What else is said about it. -/
  metadata : Option Metadata

/-- Read a part of a network. -/
def SubNetwork.read : Json.Reader SubNetwork := fun depth json => do
  let found ← Json.fields ["network", "metadata"] depth json
  let name ← found.required "network" Json.Reader.string
  let metadata ← found.defaulted "metadata" (Json.Reader.nullable readMetadata) none
  some { name, metadata }

/-- A part of a network as clients see it. -/
def SubNetwork.json (subNetwork : SubNetwork) : Json :=
  present [("network", some (.str subNetwork.name)), ("metadata", subNetwork.metadata.map .obj)]

/-- A network of a blockchain. -/
structure NetworkIdentifier where
  blockchain : String
  network : String
  /-- The part of the network, if not all of it. -/
  subNetwork : Option SubNetwork

/-- Read a network. -/
def NetworkIdentifier.read : Json.Reader NetworkIdentifier := fun depth json => do
  let found ← Json.fields ["blockchain", "network", "sub_network_identifier"] depth json
  let blockchain ← found.required "blockchain" Json.Reader.string
  let network ← found.required "network" Json.Reader.string
  let subNetwork ← found.defaulted "sub_network_identifier"
      (Json.Reader.nullable SubNetwork.read) none
  some { blockchain, network, subNetwork }

/-- A network as clients see it. -/
def NetworkIdentifier.json (identifier : NetworkIdentifier) : Json :=
  present
    [("blockchain", some (.str identifier.blockchain)), ("network", some (.str identifier.network)),
     ("sub_network_identifier", identifier.subNetwork.map SubNetwork.json)]

/-- A block by height and hash. -/
structure BlockIdentifier where
  /-- The height. -/
  index : Int64
  /-- The hash of the key. -/
  hash : String
  deriving DecidableEq

/-- Read a block's identifier. -/
def BlockIdentifier.read : Json.Reader BlockIdentifier := fun depth json => do
  let found ← Json.fields ["index", "hash"] depth json
  let index ← found.required "index" Json.Reader.int64
  let hash ← found.required "hash" Json.Reader.string
  some { index, hash }

/-- A block's identifier as clients see it. -/
def BlockIdentifier.json (identifier : BlockIdentifier) : Json :=
  .obj [("index", .int identifier.index.toInt), ("hash", .str identifier.hash)]

/-- A block by height or hash or both, or neither. -/
structure BlockSelector where
  /-- The height. -/
  index : Option Int64
  /-- The hash of the key. -/
  hash : Option String
  deriving DecidableEq

/-- Read a selector. -/
def BlockSelector.read : Json.Reader BlockSelector := fun depth json => do
  let found ← Json.fields ["index", "hash"] depth json
  let index ← found.defaulted "index" (Json.Reader.nullable Json.Reader.int64) none
  let hash ← found.defaulted "hash" (Json.Reader.nullable Json.Reader.string) none
  some { index, hash }

/-- The name of a part of an account. -/
def readSubAccount : Json.Reader String := fun depth json => do
  let found ← Json.fields ["address", "metadata"] depth json
  let name ← found.required "address" Json.Reader.string
  let _ ← found.defaulted "metadata" (Json.Reader.nullable readMetadata) none
  some name

/-- An account, or a part of one. -/
structure AccountIdentifier where
  address : String
  /-- The name of the part. -/
  subAccount : Option String
  deriving DecidableEq

/-- Read an account. -/
def AccountIdentifier.read : Json.Reader AccountIdentifier := fun depth json => do
  let found ← Json.fields ["address", "sub_account"] depth json
  let address ← found.required "address" Json.Reader.string
  let subAccount ← found.defaulted "sub_account" (Json.Reader.nullable readSubAccount) none
  some { address, subAccount }

/-- Read the hash that a transaction is identified by. -/
def readTransactionHash : Json.Reader String := fun depth json => do
  let found ← Json.fields ["hash"] depth json
  found.required "hash" Json.Reader.string

end FilecoinRosetta.Rosetta
