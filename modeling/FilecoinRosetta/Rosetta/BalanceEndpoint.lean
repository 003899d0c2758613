import FilecoinRosetta.Rosetta.Service

/-!
# The endpoint about balances

A node answers questions about the state of a tipset as of that tipset's parent. So
the balance at a height is read from the state of the next tipset. The head has no
next tipset; a question for the head reports its parent instead, whose balances the
state of the head holds.
-/

namespace FilecoinRosetta.Rosetta

/-- A part of the balance of a multisig. -/
inductive SubAccount where
  /-- What may not be spent yet. -/
  | locked
  /-- What may be spent. -/
  | spendable
  /-- Nothing, but with the schedule of release. -/
  | vesting
  deriving DecidableEq, Repr

namespace SubAccount

/-- All parts. -/
def all : List SubAccount := [locked, spendable, vesting]

/-- The name of a part. -/
def name : SubAccount → String
  | locked => "LockedBalance"
  | spendable => "SpendableBalance"
  | vesting => "VestingSchedule"

/-- The part of a name. -/
def ofName? (name : String) : Option SubAccount :=
  all.find? fun part => part.name == name

end SubAccount

/-- The balance of an account. -/
structure Balance where
  /-- The block it is reported for. -/
  block : BlockIdentifier
  /-- The balance. -/
  amount : TokenAmount
  /-- The schedule of release, if it was asked for. -/
  vesting : Option VestingSchedule
  deriving DecidableEq

/-- A tipset with the one whose state holds the balances at it. -/
structure BalancePoint where
  reported : Tipset
  /-- The tipset whose state is read. -/
  state : Tipset

namespace Service

/-- Where the balances of the head's parent are read. The first tipset has no parent
    and is reported itself. -/
def headBalancePoint (head : Tipset) : Endpoint BalancePoint :=
  match parentKey? head with
  | none => return ⟨head, head⟩
  | some key => do
      let parent ← Endpoint.call .parentUnavailable (.tipset key)
      return ⟨parent, head⟩

/-- Where the balances at a height are read, below a head. The height above the
    requested tipset is only looked for below the head, so it fits as long as the
    node tells no tipset above the height that it was asked for. Otherwise it
    would have to be one more than the greatest height, and the program ends there
    by its overflow check. -/
def balancePointAt (head : Tipset) (index : Int64) (hash : Option String) :
    Endpoint BalancePoint := do
  if index < 0 then Endpoint.refuseBecause .malformedValue (toString index.toInt)
  if head.height < index then Endpoint.refuseBecause .blockNotSynced (toString index.toInt)
  let requested ← Endpoint.call .tipsetUnavailable (.tipsetAtOrBelow index head.key)
  if let some hash := hash then
    let identifier ← blockIdentifier requested
    if identifier.hash ≠ hash then Endpoint.refuseBecause .hashMismatch hash
  if requested.height = head.height then headBalancePoint head
  else
    let child ← Endpoint.call .tipsetUnavailable (.tipsetAtOrAbove (requested.height + 1) head.key)
    return ⟨requested, child⟩

/-- Where the balances at the selected block are read. -/
def balancePoint (tag : Node.TipsetTag) (block : Option BlockSelector) : Endpoint BalancePoint := do
  let head ← head tag
  match block with
  | some ⟨some index, hash⟩ => balancePointAt head index hash
  | some ⟨none, some _⟩ => Endpoint.refuse .insufficientQuery
  | _ => headBalancePoint head

/-- What a multisig may spend. -/
def spendable (address : Address) (state : Tipset) : Endpoint TokenAmount :=
  Endpoint.call .balanceUnavailable (.availableBalance address state.key)

/-- Whether a code stands for a multisig. -/
def isMultisig (service : Service) (code : Cid) : Bool :=
  (service.registry.resolve? code).any fun descriptor => descriptor.kind == .multisig

/-- A part of the balance of a multisig. -/
def subBalance (part : SubAccount) (address : Address) (state : Tipset) (actor : ActorState) :
    Endpoint (TokenAmount × Option VestingSchedule) :=
  match part with
  | .locked => do return (actor.balance + -(← spendable address state), none)
  | .spendable => do return (← spendable address state, none)
  | .vesting => do
      let schedule ← Endpoint.call .vestingUnavailable (.vestingSchedule address state.key)
      return (0, some schedule)

/-- The balance of an account or of a part of it. An account without
an actor has nothing. -/
def readBalance (service : Service) (account : AccountIdentifier) (address : Address)
    (part : Option SubAccount) (state : Tipset) :
    Endpoint (TokenAmount × Option VestingSchedule) := do
  let actor ← Endpoint.call .accountUnavailable (.actor address state.key)
  match part, actor with
  | none, none => return (0, none)
  | none, some actor => return (actor.balance, none)
  | some _, none => Endpoint.refuseBecause .notMultisig account.address
  | some part, some actor =>
      if service.isMultisig actor.code then subBalance part address state actor
      else Endpoint.refuseBecause .notMultisig account.address

/-- The address of an account. -/
def accountAddress (account : AccountIdentifier) : Endpoint Address :=
  match Address.parse account.address with
  | .ok address => return address
  | .error cause => Endpoint.refuseBecause .invalidAddress cause.message

/-- The part of an account that is asked for. -/
def accountPart (account : AccountIdentifier) : Endpoint (Option SubAccount) :=
  match account.subAccount with
  | none => return none
  | some name => return some (← Endpoint.demand .unknownSubAccount name (SubAccount.ofName? name))

/-- The balance of an account at a block. -/
def accountBalance (service : Service) (request : Request BalanceQuery) : Endpoint Balance := do
  let identifier ← service.accept request.network
  let tag ← service.finalityTag identifier
  let account := request.wanted.account
  let address ← accountAddress account
  let part ← accountPart account
  requireSynced .nodeNotSynced
  let point ← balancePoint tag request.wanted.block
  let block ← blockIdentifier point.reported
  let (amount, vesting) ← service.readBalance account address part point.state
  return ⟨block, amount, vesting⟩

end Service

/-- A schedule of release as clients see it. -/
def vestingJson (schedule : VestingSchedule) : Json :=
  .obj [(SubAccount.vesting.name, .obj
    [("StartEpoch", .str (toString schedule.startEpoch.toInt)),
     ("UnlockDuration", .str (toString schedule.unlockDuration.toInt)),
     ("InitialBalance", .str schedule.initialBalance.attoText)])]

/-- A balance as clients see it. -/
def Balance.json (balance : Balance) : Json :=
  present
    [("block_identifier", some balance.block.json),
     ("balances", some (.arr [amountJson balance.amount])),
     ("metadata", balance.vesting.map vestingJson)]

end FilecoinRosetta.Rosetta
