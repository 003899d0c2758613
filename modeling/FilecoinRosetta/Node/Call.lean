import FilecoinRosetta.ActorState
import FilecoinRosetta.Sync
import FilecoinRosetta.Trace

/-!
# What a node can be asked

Everything known about the chain comes from the calls of this module. Each call
fixes the type of its answer, so that a node is a function on calls.
-/

namespace FilecoinRosetta.Node

/-- How final a tipset is asked for. -/
inductive TipsetTag where
  /-- The head of the chain. -/
  | latest
  /-- A tipset that is unlikely to be replaced. -/
  | safe
  /-- A tipset that will not be replaced. -/
  | finalized
  deriving DecidableEq, Repr

namespace TipsetTag

/-- All tags, the least final first. -/
def all : List TipsetTag := [latest, safe, finalized]

/-- The name of a tag. -/
def name : TipsetTag → String
  | latest => "latest"
  | safe => "safe"
  | finalized => "finalized"

/-- The tag of a name. -/
def ofName? (name : String) : Option TipsetTag :=
  all.find? fun tag => tag.name == name

end TipsetTag

/-- A call of a node. An empty key stands for the head. -/
inductive Call where
  | chainHead
  /-- The first tipset of the chain. -/
  | chainGenesis
  | tipset (key : TipsetKey)
  /-- The tipset at a height or the last one below it, on the chain of a key. -/
  | tipsetAtOrBelow (height : Int64) (key : TipsetKey)
  /-- The tipset at a height or the first one above it, on the chain of a key. -/
  | tipsetAtOrAbove (height : Int64) (key : TipsetKey)
  | tipsetOfTag (tag : TipsetTag)
  /-- The executions of the messages of a tipset at a height. -/
  | computeState (height : Int64) (key : TipsetKey)
  | actor (address : Address) (key : TipsetKey)
  | accountKey (address : Address) (key : TipsetKey)
  /-- The number of an actor. -/
  | idAddress (address : Address) (key : TipsetKey)
  /-- The address of an actor that survives a reordering of the chain. -/
  | robustAddress (address : Address) (key : TipsetKey)
  | networkName
  | networkVersion (key : TipsetKey)
  /-- The codes of the actors on a version of the network, by name. -/
  | actorCodes (networkVersion : UInt32)
  /-- What a multisig may spend. -/
  | availableBalance (address : Address) (key : TipsetKey)
  /-- How the balance of a multisig is released. -/
  | vestingSchedule (address : Address) (key : TipsetKey)
  /-- The messages that wait for inclusion. -/
  | pendingMessages (key : TipsetKey)
  /-- Hand in a message; the answer is its identifier. -/
  | pushMessage (message : SignedMessage)
  /-- The next nonce of a sender. -/
  | nextNonce (address : Address)
  /-- The gas a message will use. -/
  | estimateGasLimit (message : Message) (key : TipsetKey)
  /-- The premium for inclusion within a number of blocks. -/
  | estimateGasPremium (blocks : UInt64) (sender : Address) (gasLimit : UInt64) (key : TipsetKey)
  /-- The fee cap that lasts for a number of blocks in the queue. -/
  | estimateFeeCap (message : Message) (blocks : Int64) (key : TipsetKey)
  /-- The progress of all workers. -/
  | syncState
  /-- The peers of the node. -/
  | peers
  /-- The version of the node. -/
  | version
  deriving DecidableEq

namespace Call

/-- The type of the answer to a call. -/
@[reducible] def Answer : Call → Type
  | chainHead => Tipset
  | chainGenesis => Tipset
  | tipset _ => Tipset
  | tipsetAtOrBelow _ _ => Tipset
  | tipsetAtOrAbove _ _ => Tipset
  | tipsetOfTag _ => Tipset
  | computeState _ _ => ComputedState
  | actor _ _ => Option ActorState
  | accountKey _ _ => Address
  | idAddress _ _ => Address
  | robustAddress _ _ => Address
  | networkName => String
  | networkVersion _ => UInt32
  | actorCodes _ => List (String × Cid)
  | availableBalance _ _ => TokenAmount
  | vestingSchedule _ _ => VestingSchedule
  | pendingMessages _ => List SignedMessage
  | pushMessage _ => Cid
  | nextNonce _ => UInt64
  | estimateGasLimit _ _ => UInt64
  | estimateGasPremium _ _ _ _ => TokenAmount
  | estimateFeeCap _ _ _ => TokenAmount
  | syncState => SyncState
  | peers => List PeerInfo
  | version => NodeVersion

/-- The name a call goes by in records and complaints. -/
def method : Call → String
  | chainHead => "chain_head"
  | chainGenesis => "chain_get_genesis"
  | tipset _ => "chain_get_tipset"
  | tipsetAtOrBelow _ _ => "chain_get_tipset_by_height"
  | tipsetAtOrAbove _ _ => "chain_get_tipset_after_height"
  | tipsetOfTag _ => "chain_get_tipset_by_tag"
  | computeState _ _ => "state_compute"
  | actor _ _ => "state_get_actor"
  | accountKey _ _ => "state_account_key"
  | idAddress _ _ => "state_lookup_id"
  | robustAddress _ _ => "state_lookup_robust_address"
  | networkName => "state_network_name"
  | networkVersion _ => "state_network_version"
  | actorCodes _ => "state_actor_code_cids"
  | availableBalance _ _ => "msig_get_available_balance"
  | vestingSchedule _ _ => "msig_get_vesting_schedule"
  | pendingMessages _ => "mpool_pending"
  | pushMessage _ => "mpool_push"
  | nextNonce _ => "mpool_get_nonce"
  | estimateGasLimit _ _ => "gas_estimate_gas_limit"
  | estimateGasPremium _ _ _ _ => "gas_estimate_gas_premium"
  | estimateFeeCap _ _ _ => "gas_estimate_fee_cap"
  | syncState => "sync_state"
  | peers => "net_peers"
  | version => "version"

end Call

end FilecoinRosetta.Node
