/-!
# Kinds of builtin actors

Every actor's code stands for one kind of actor in one version. The names
are those of bundle manifests.
-/

namespace FilecoinRosetta

/-- A kind of builtin actor. -/
inductive ActorKind where
  /-- The actor of the system itself. -/
  | system
  /-- Creates actors. -/
  | init
  /-- Runs what is due at every height. -/
  | cron
  /-- An account with a key. -/
  | account
  /-- Keeps the power of all miners. -/
  | storagePower
  | storageMiner
  /-- Keeps storage deals. -/
  | storageMarket
  | paymentChannel
  /-- An account of several signers. -/
  | multisig
  /-- Pays block rewards. -/
  | reward
  /-- Keeps verified clients. -/
  | verifiedRegistry
  /-- The token of verified storage. -/
  | dataCap
  /-- A contract of the Ethereum machine. -/
  | evm
  /-- Manages Ethereum addresses. -/
  | eam
  /-- An account with an Ethereum key. -/
  | ethAccount
  /-- An address that was only sent to. -/
  | placeholder
  deriving DecidableEq, Repr

namespace ActorKind

/-- All kinds in a fixed order. -/
def all : List ActorKind :=
  [.system, .init, .cron, .account,
   .storagePower, .storageMiner, .storageMarket, .paymentChannel,
   .multisig, .reward, .verifiedRegistry, .dataCap,
   .evm, .eam, .ethAccount, .placeholder]

/-- The name in manifests: lower case without separators. -/
def name : ActorKind → String
  | system => "system"
  | init => "init"
  | cron => "cron"
  | account => "account"
  | storagePower => "storagepower"
  | storageMiner => "storageminer"
  | storageMarket => "storagemarket"
  | paymentChannel => "paymentchannel"
  | multisig => "multisig"
  | reward => "reward"
  | verifiedRegistry => "verifiedregistry"
  | dataCap => "datacap"
  | evm => "evm"
  | eam => "eam"
  | ethAccount => "ethaccount"
  | placeholder => "placeholder"

/-- The kind of a name. -/
def ofName? (name : String) : Option ActorKind :=
  all.find? fun kind => kind.name == name

/-- Actors that take any exported method, moving the value like a plain send. -/
def isAccountLike : ActorKind → Bool
  | account => true
  | ethAccount => true
  | placeholder => true
  | _ => false

end ActorKind

end FilecoinRosetta
