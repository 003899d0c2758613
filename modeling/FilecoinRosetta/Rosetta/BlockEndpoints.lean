import FilecoinRosetta.Rosetta.Service
import FilecoinRosetta.TransactionHistory

/-!
# Endpoints about blocks

The messages of a tipset are executed at the height of the next one, so the block of
a tipset tells the transactions of its parent's messages. Heights without a tipset
have no block. The first tipset is its own parent and executes nothing.
-/

namespace FilecoinRosetta.Rosetta

/-- A block. -/
structure Block where
  identifier : BlockIdentifier
  parent : BlockIdentifier
  /-- Its time in milliseconds. -/
  timestamp : Nat
  /-- The transactions executed at its height. -/
  transactions : List Transaction
  /-- The identifiers of the blocks of its tipset. -/
  cids : List Cid

namespace Service

/-- The tipset at a height, or nothing where there is none. A given hash must be
that of the tipset. -/
def tipsetAt (index : Int64) (hash : Option String) : Endpoint (Option Tipset) := do
  if index < 0 then Endpoint.refuseBecause .malformedValue (toString index.toInt)
  let head ← Endpoint.call .headUnavailable .chainHead
  if head.height < index then Endpoint.refuseBecause .blockNotSynced (toString index.toInt)
  let tipset ← Endpoint.call .tipsetUnavailable (.tipsetAtOrBelow index head.key)
  if tipset.height ≠ index then return none
  match hash with
  | none => return some tipset
  | some hash =>
      let identifier ← blockIdentifier tipset
      if identifier.hash ≠ hash then Endpoint.refuseBecause .hashMismatch hash
      return some tipset

/-- The key of the parent, which every tipset above the first must have. -/
def requireParentKey (tipset : Tipset) : Endpoint TipsetKey :=
  Endpoint.demand .parentUnavailable tipset.key.text (parentKey? tipset)

/-- The parent of a tipset. -/
def parentOf (tipset : Tipset) : Endpoint Tipset :=
  if tipset.height = 0 then return tipset
  else do
    let key ← requireParentKey tipset
    Endpoint.call .parentUnavailable (.tipset key)

/-- The transactions executed at the height of a tipset. -/
def transactionsOf (service : Service) (tipset : Tipset) : Endpoint (List Transaction) :=
  if tipset.height = 0 then return []
  else do
    let key ← requireParentKey tipset
    let state ← Endpoint.call .transactionsUnavailable (.computeState tipset.height key)
    Endpoint.lift (service.directory.transactions state.invocations)

/-- The block of a tipset. -/
def blockOf (service : Service) (tipset : Tipset) : Endpoint Block := do
  let parent ← parentOf tipset
  let transactions ← service.transactionsOf tipset
  let identifier ← blockIdentifier tipset
  let parentIdentifier ← blockIdentifier parent
  return {
    identifier
    parent := parentIdentifier
    timestamp := timestamp tipset
    transactions
    cids := tipset.key.cids }

/-- The block at a height. -/
def block (service : Service) (request : Request BlockSelector) : Endpoint (Option Block) := do
  let _ ← service.accept request.network
  match request.wanted.index with
  | none => Endpoint.refuse .insufficientQuery
  | some index =>
      requireSynced .blockNotSynced
      match ← tipsetAt index request.wanted.hash with
      | none => return none
      | some tipset => return some (← service.blockOf tipset)

/-- A transaction of the block at a height. -/
def blockTransaction (service : Service) (request : Request TransactionQuery) :
    Endpoint Transaction := do
  let _ ← service.accept request.network
  requireSynced .blockNotSynced
  let query := request.wanted
  match ← tipsetAt query.block.index (some query.block.hash) with
  | none => Endpoint.refuseBecause .transactionNotFound query.hash
  | some tipset =>
      let transactions ← service.transactionsOf tipset
      Endpoint.demand .transactionNotFound query.hash
        (transactions.find? fun transaction => transaction.hash == query.hash)

end Service

/-- A block as clients see it. -/
def Block.json (block : Block) : Json :=
  .obj
    [("block_identifier", block.identifier.json), ("parent_block_identifier", block.parent.json),
     ("timestamp", .nat block.timestamp),
     ("transactions", .arr (block.transactions.map transactionJson)),
     ("metadata", .obj [("blockCIDs", .arr (block.cids.map fun cid => .str cid.text))])]

/-- The answer about a block as clients see it. Where there is no
block it is null. -/
def blockJson (block : Option Block) : Json :=
  .obj [("block", match block with
    | some block => block.json
    | none => .null)]

/-- The answer about a transaction as clients see it. -/
def transactionAnswerJson (transaction : Transaction) : Json :=
  .obj [("transaction", transactionJson transaction)]

end FilecoinRosetta.Rosetta
