import FilecoinRosetta.Node.Basic

/-!
# Nodes that stand still

A snapshot says what a node knows: its chain, the actors on it, what was executed
and what is pending. The node of a snapshot answers from it and never changes. It
can be told to fail at some methods and to take its time at others.
-/

namespace FilecoinRosetta.Node

/-- What a node knows. -/
structure Snapshot where
  /-- The height of the head, if it is not the highest tipset. -/
  head : Option Int64
  /-- The tipsets, the lowest first. -/
  chain : List Tipset
  /-- The heights that tags stand for. -/
  tags : List (TipsetTag × Int64)
  /-- The actors in every state that is not listed. -/
  actors : List (Address × ActorState)
  /-- Actors, or their absence, in the states of the tipsets at some heights. -/
  states : List (Address × Int64 × Option ActorState)
  /-- The key addresses of accounts. -/
  accountKeys : List (Address × Address)
  /-- The addresses that survive a reordering of the chain. -/
  robust : List (Address × Address)
  /-- The numbers of actors. -/
  ids : List (Address × Address)
  /-- What multisigs may spend. -/
  available : List (Address × TokenAmount)
  /-- How the balances of multisigs are released. -/
  vesting : List (Address × VestingSchedule)
  /-- The executions at some heights. -/
  executions : List (Int64 × List Invocation)
  /-- The messages that wait for inclusion. -/
  pending : List SignedMessage
  /-- The next nonces of senders, zero if not listed. -/
  nonces : List (Address × UInt64)
  /-- The estimated gas of every message. -/
  gasLimit : UInt64
  /-- The estimated premium of every message. -/
  gasPremium : TokenAmount
  /-- The estimated fee cap of every message. -/
  gasFeeCap : TokenAmount
  /-- The progress of all workers. -/
  sync : SyncState
  peers : List PeerInfo
  version : NodeVersion
  networkName : String
  networkVersion : UInt32
  /-- The codes of the actors by name. -/
  codes : List (String × Cid)
  /-- The methods that fail, each with the causes from the outermost
  to the innermost. -/
  failures : List (String × List String)
  /-- The methods that take time. -/
  delays : List (String × Duration)

namespace Snapshot

/-- The snapshot of a node that knows nothing. -/
def blank : Snapshot where
  head := none
  chain := []
  tags := []
  actors := []
  states := []
  accountKeys := []
  robust := []
  ids := []
  available := []
  vesting := []
  executions := []
  pending := []
  nonces := []
  gasLimit := 0
  gasPremium := 0
  gasFeeCap := 0
  sync := ⟨[], 0⟩
  peers := []
  version := ⟨"", 0, 30⟩
  networkName := ""
  networkVersion := 0
  codes := []
  failures := []
  delays := []

/-- Put a tipset into its place by height, replacing the one that is there. -/
def place (tipset : Tipset) : List Tipset → List Tipset
  | [] => [tipset]
  | other :: rest =>
      if tipset.height < other.height then tipset :: other :: rest
      else if tipset.height = other.height then tipset :: rest
      else other :: place tipset rest

/-- Tipsets in the order of their heights, the last of each height only. -/
def sortChain (tipsets : List Tipset) : List Tipset :=
  tipsets.foldl (fun chain tipset => place tipset chain) []

/-- A complaint without further causes. -/
def complaint (message : String) : Failure := .other [message]

/-- An answer, or a complaint where there is none. -/
def orComplain {α : Type} (message : String) : Option α → Except Failure α
  | some answer => .ok answer
  | none => .error (complaint message)

/-- The tipset at exactly a height. -/
def tipsetAt? (snapshot : Snapshot) (height : Int64) : Option Tipset :=
  snapshot.chain.find? (·.height == height)

/-- The head. -/
def head? (snapshot : Snapshot) : Option Tipset :=
  match snapshot.head with
  | some height => snapshot.tipsetAt? height
  | none => snapshot.chain.getLast?

/-- The tipset of a key. -/
def tipset? (snapshot : Snapshot) (key : TipsetKey) : Option Tipset :=
  snapshot.chain.find? (·.key == key)

/-- The actor at an address in the state that goes with a key. -/
def actor? (snapshot : Snapshot) (address : Address) (key : TipsetKey) : Option ActorState :=
  let listed := (snapshot.tipset? key).bind fun tipset =>
    snapshot.states.find? fun (owner, height, _) => owner == address && height == tipset.height
  match listed with
  | some (_, _, state) => state
  | none => snapshot.actors.lookup address

/-- The wording where no tipset is found. -/
def noTipset : String := "tipset not found"

/-- What a snapshot says to a call. Addresses are named by the
letter of a network. -/
def reply (snapshot : Snapshot) (network : Network) : (call : Call) → Except Failure call.Answer
  | .chainHead => orComplain "empty chain" snapshot.head?
  | .chainGenesis => orComplain noTipset (snapshot.tipsetAt? 0)
  | .tipset key => orComplain noTipset (snapshot.tipset? key)
  | .tipsetAtOrBelow height _ =>
      orComplain noTipset (snapshot.chain.filter fun tipset =>
        decide (tipset.height ≤ height)).getLast?
  | .tipsetAtOrAbove height _ =>
      orComplain noTipset (snapshot.chain.find? fun tipset => decide (height ≤ tipset.height))
  | .tipsetOfTag tag =>
      orComplain ("no tipset tagged " ++ tag.name)
        ((snapshot.tags.lookup tag).bind snapshot.tipsetAt?)
  | .computeState height _ => .ok ⟨default, (snapshot.executions.lookup height).getD []⟩
  | .actor address key => .ok (snapshot.actor? address key)
  | .accountKey address _ => orComplain (noActor address) (snapshot.accountKeys.lookup address)
  | .idAddress address _ => orComplain (noActor address) (snapshot.ids.lookup address)
  | .robustAddress address _ => orComplain (noActor address) (snapshot.robust.lookup address)
  | .networkName => .ok snapshot.networkName
  | .networkVersion _ => .ok snapshot.networkVersion
  | .actorCodes _ => .ok snapshot.codes
  | .availableBalance address _ =>
    orComplain (noMultisig address) (snapshot.available.lookup address)
  | .vestingSchedule address _ => orComplain (noMultisig address) (snapshot.vesting.lookup address)
  | .pendingMessages _ => .ok snapshot.pending
  | .pushMessage message => message.identity.mapError fun cause => complaint cause.message
  | .nextNonce address => .ok ((snapshot.nonces.lookup address).getD 0)
  | .estimateGasLimit _ _ => .ok snapshot.gasLimit
  | .estimateGasPremium _ _ _ _ => .ok snapshot.gasPremium
  | .estimateFeeCap _ _ _ => .ok snapshot.gasFeeCap
  | .syncState => .ok snapshot.sync
  | .peers => .ok snapshot.peers
  | .version => .ok snapshot.version
where
  noActor (address : Address) : String := "actor not found: " ++ address.text network
  noMultisig (address : Address) : String := "not a multisig: " ++ address.text network

/-- The node that answers from a snapshot. -/
def node (snapshot : Snapshot) (network : Network) : TimedNode where
  answer _ call :=
    match snapshot.failures.lookup call.method with
    | some causes => .error (.other causes)
    | none => snapshot.reply network call
  delay _ call := (snapshot.delays.lookup call.method).getD ⟨0⟩

end Snapshot

end FilecoinRosetta.Node
