import FilecoinRosetta.Proofs.Rosetta.Courses.Gates
import FilecoinRosetta.Rosetta.BlockEndpoints

/-!
# The courses of the endpoints about blocks

A block is found at its height and told with its parent, and the messages of the
parent are executed for it. One of its transactions is told after the same calls but
that for the parent. Here it is said which calls these are, in their order, and from
what they are told the answer is made.
-/

namespace FilecoinRosetta.Rosetta

open Service

/-! ## Tipsets at heights -/

/-- The calls that look for the tipset at a height. -/
inductive TipsetCall (ground : Ground) (index : Int64) : Node.Call → CallSite → Prop where
  /-- The head. -/
  | head (nonneg : ¬ index < 0) : TipsetCall ground index .chainHead (.told .headUnavailable)
  /-- The tipset at or below the height, from the head on. -/
  | tipset {head : Tipset} (isHead : ground.told .chainHead head) (nonneg : ¬ index < 0)
      (upToHead : ¬ head.height < index) :
      TipsetCall ground index (.tipsetAtOrBelow index head.key) (.told .tipsetUnavailable)

/-- Why the tipset at a height is refused. -/
inductive TipsetRefusal (ground : Ground) (index : Int64) (hash : Option String) :
    ServiceError → Prop where
  /-- The height is below zero. -/
  | belowZero (below : index < 0) :
      TipsetRefusal ground index hash (.because .malformedValue (toString index.toInt))
  /-- The height is above the head. -/
  | aboveHead {head : Tipset} (isHead : ground.told .chainHead head) (above : head.height < index) :
      TipsetRefusal ground index hash (.because .blockNotSynced (toString index.toInt))
  /-- The tipset at the height has no hash that could be compared. -/
  | nameless {head tipset : Tipset} (isHead : ground.told .chainHead head)
      (requested : ground.Requested head index none tipset)
      (hashless : tipset.key.hashText? = none) :
      TipsetRefusal ground index hash namelessError
  /-- The tipset at the height has another hash. -/
  | otherHash {head tipset : Tipset} {given own : String} (isHead : ground.told .chainHead head)
      (requested : ground.Requested head index none tipset) (atHeight : tipset.height = index)
      (isGiven : hash = some given) (isOwn : tipset.key.hashText? = some own)
      (differs : own ≠ given) :
      TipsetRefusal ground index hash (.because .hashMismatch given)

/-- What is found at a height, and after which calls. -/
inductive TipsetFound (ground : Ground) (index : Int64) (hash : Option String) :
    Option Tipset → List Node.Call → Prop where
  /-- There is a tipset. -/
  | tipset {head tipset : Tipset} (isHead : ground.told .chainHead head)
      (requested : ground.Requested head index hash tipset) (atHeight : tipset.height = index) :
      TipsetFound ground index hash (some tipset) [.chainHead, .tipsetAtOrBelow index head.key]
  /-- The next tipset is further down. -/
  | nullRound {head tipset : Tipset} (isHead : ground.told .chainHead head)
      (requested : ground.Requested head index none tipset) (skipped : tipset.height ≠ index) :
      TipsetFound ground index hash none [.chainHead, .tipsetAtOrBelow index head.key]

/-! ## What a block is made of -/

/-- The error where a tipset above the first one has no parent. -/
def orphanError (tipset : Tipset) : ServiceError :=
  .because .parentUnavailable tipset.key.text

/-- A tipset above the first one that names its parent. -/
structure HasParent (tipset : Tipset) (key : TipsetKey) : Prop where
  /-- It is not the first one. -/
  higher : tipset.height ≠ 0
  /-- The key is the one of its parent. -/
  linked : parentKey? tipset = some key

/-- A tipset above the first one that names no parent. -/
structure Orphan (tipset : Tipset) : Prop where
  /-- It is not the first one. -/
  higher : tipset.height ≠ 0
  /-- It has no parent. -/
  unlinked : parentKey? tipset = none

/-- The parent of a tipset, and after which calls it is found. The first tipset
is its own parent. -/
inductive ParentFound (ground : Ground) (tipset : Tipset) : Tipset → List Node.Call → Prop where
  /-- The tipset is the first one. -/
  | first (isFirst : tipset.height = 0) : ParentFound ground tipset tipset []
  /-- The parent is told by its key. -/
  | told {key : TipsetKey} {parent : Tipset} (child : HasParent tipset key)
      (isParent : ground.told (.tipset key) parent) : ParentFound ground tipset parent [.tipset key]

/-- The transactions executed at the height of a tipset, and after which
calls they are known. -/
inductive TransactionsFound (ground : Ground) (directory : Directory) (tipset : Tipset) :
    List Transaction → List Node.Call → Prop where
  /-- At the first height nothing is executed. -/
  | first (isFirst : tipset.height = 0) : TransactionsFound ground directory tipset [] []
  /-- The messages of the parent are executed, and the addresses in
  them are looked up. -/
  | executed {key : TipsetKey} {state : ComputedState} {transactions : List Transaction}
      {sought : List Node.Call} (child : HasParent tipset key)
      (computed : ground.told (.computeState tipset.height key) state)
      (finds : ground.finds (directory.transactions state.invocations) transactions sought) :
      TransactionsFound ground directory tipset transactions
        (.computeState tipset.height key :: sought)

/-- The block of a tipset, and after which calls it is known. -/
structure BlockMade (ground : Ground) (directory : Directory) (tipset : Tipset) (block : Block)
    (made : List Node.Call) : Prop where
  /-- The parent and the transactions are found one after the other. -/
  found : ∃ parent parentCalls executionCalls, ParentFound ground tipset parent parentCalls ∧
    TransactionsFound ground directory tipset block.transactions executionCalls ∧
    Names block.parent parent ∧ made = parentCalls ++ executionCalls
  /-- The block is named by its own tipset. -/
  identifier : Names block.identifier tipset
  /-- Its time is that of the tipset. -/
  timestamp : block.timestamp = Service.timestamp tipset
  /-- Its parts are those of the tipset. -/
  cids : block.cids = tipset.key.cids

/-! ## Blocks -/

/-- The calls that an endpoint makes for the block that a selector selects. -/
inductive BlockCall (ground : Ground) (selector : BlockSelector) : Node.Call → CallSite → Prop where
  /-- How far the node is. -/
  | progress : BlockCall ground selector .syncState (.told .syncStatusUnavailable)
  /-- The tipset at the height. -/
  | tipset {index : Int64} {call : Node.Call} {site : CallSite}
      (isIndex : selector.index = some index)
      (ofTipset : TipsetCall ground index call site) : BlockCall ground selector call site
  /-- The parent of what was found there. -/
  | parent {index : Int64} {tipset : Tipset} {made : List Node.Call} {key : TipsetKey}
      (isIndex : selector.index = some index)
      (found : TipsetFound ground index selector.hash (some tipset) made)
      (child : HasParent tipset key) :
      BlockCall ground selector (.tipset key) (.told .parentUnavailable)
  /-- The execution of the parent's messages. -/
  | execution {index : Int64} {tipset : Tipset} {made : List Node.Call} {key : TipsetKey}
      (isIndex : selector.index = some index)
      (found : TipsetFound ground index selector.hash (some tipset) made)
      (child : HasParent tipset key) :
      BlockCall ground selector (.computeState tipset.height key) (.told .transactionsUnavailable)

/-- Why a request for a block is refused. -/
inductive BlockRefusal (ground : Ground) (service : Service) (request : Request BlockSelector) :
    ServiceError → Prop where
  /-- It is not for the network served. -/
  | unaccepted {cause : ServiceError} (refused : service.accept request.network = .error cause) :
      BlockRefusal ground service request cause
  /-- It gives no height. -/
  | unselected (isNone : request.wanted.index = none) :
      BlockRefusal ground service request (.bare .insufficientQuery)
  /-- The node does not follow the chain. -/
  | late {cause : ServiceError} (late : ground.Late .blockNotSynced cause) :
      BlockRefusal ground service request cause
  /-- The height or the hash is refused. -/
  | tipset {index : Int64} {cause : ServiceError} (isIndex : request.wanted.index = some index)
      (refusal : TipsetRefusal ground index request.wanted.hash cause) :
      BlockRefusal ground service request cause
  /-- What was found at the height has no parent. -/
  | orphan {index : Int64} {tipset : Tipset} {made : List Node.Call}
      (isIndex : request.wanted.index = some index)
      (found : TipsetFound ground index request.wanted.hash (some tipset) made)
      (orphan : Orphan tipset) :
      BlockRefusal ground service request (orphanError tipset)
  /-- It has no hash. -/
  | nameless {index : Int64} {tipset : Tipset} {made : List Node.Call}
      (isIndex : request.wanted.index = some index)
      (found : TipsetFound ground index request.wanted.hash (some tipset) made)
      (hashless : tipset.key.hashText? = none) : BlockRefusal ground service request namelessError
  /-- Its parent has no hash. -/
  | namelessParent {index : Int64} {tipset parent : Tipset} {made parentCalls : List Node.Call}
      (isIndex : request.wanted.index = some index)
      (found : TipsetFound ground index request.wanted.hash (some tipset) made)
      (isParent : ParentFound ground tipset parent parentCalls)
      (hashless : parent.key.hashText? = none) :
      BlockRefusal ground service request namelessError

/-- What a request for a block comes to, and after which calls. -/
inductive BlockFound (ground : Ground) (directory : Directory) (selector : BlockSelector) :
    Option Block → List Node.Call → Prop where
  /-- There is no block at the height. -/
  | nullRound {index : Int64} {made : List Node.Call} (isIndex : selector.index = some index)
      (found : TipsetFound ground index selector.hash none made) :
      BlockFound ground directory selector none (.syncState :: made)
  /-- There is one. -/
  | block {index : Int64} {tipset : Tipset} {block : Block} {made more : List Node.Call}
      (isIndex : selector.index = some index)
      (found : TipsetFound ground index selector.hash (some tipset) made)
      (isBlock : BlockMade ground directory tipset block more) :
      BlockFound ground directory selector (some block) (.syncState :: (made ++ more))

/-! ## Transactions of blocks -/

/-- The calls that an endpoint makes for a transaction of a block. -/
inductive TransactionCall (ground : Ground) (query : TransactionQuery) :
    Node.Call → CallSite → Prop where
  /-- How far the node is. -/
  | progress : TransactionCall ground query .syncState (.told .syncStatusUnavailable)
  /-- The tipset at the height. -/
  | tipset {call : Node.Call} {site : CallSite}
      (ofTipset : TipsetCall ground query.block.index call site) :
      TransactionCall ground query call site
  /-- The execution of its parent's messages. -/
  | execution {tipset : Tipset} {made : List Node.Call} {key : TipsetKey}
      (found : TipsetFound ground query.block.index (some query.block.hash) (some tipset) made)
      (child : HasParent tipset key) :
      TransactionCall ground query (.computeState tipset.height key)
        (.told .transactionsUnavailable)

/-- Why a request for a transaction is refused. -/
inductive TransactionRefusal (ground : Ground) (service : Service)
    (request : Request TransactionQuery) :
    ServiceError → Prop where
  /-- It is not for the network served. -/
  | unaccepted {cause : ServiceError} (refused : service.accept request.network = .error cause) :
      TransactionRefusal ground service request cause
  /-- The node does not follow the chain. -/
  | late {cause : ServiceError} (late : ground.Late .blockNotSynced cause) :
      TransactionRefusal ground service request cause
  /-- The height or the hash is refused. -/
  | tipset {cause : ServiceError}
      (refusal : TipsetRefusal ground request.wanted.block.index
        (some request.wanted.block.hash) cause) :
      TransactionRefusal ground service request cause
  /-- What was found at the height has no parent. -/
  | orphan {tipset : Tipset} {made : List Node.Call}
      (found : TipsetFound ground request.wanted.block.index (some request.wanted.block.hash)
        (some tipset) made)
      (orphan : Orphan tipset) : TransactionRefusal ground service request (orphanError tipset)
  /-- There is no such transaction, or no block. -/
  | missing :
      TransactionRefusal ground service request (.because .transactionNotFound request.wanted.hash)

/-- A transaction is one of those executed at the height, and it has the hash
that is asked for. -/
structure TransactionFound (ground : Ground) (directory : Directory) (query : TransactionQuery)
    (transaction : Transaction) : Prop where
  /-- It is one of those executed at the height. -/
  found : ∃ tipset made transactions more,
    TipsetFound ground query.block.index (some query.block.hash) (some tipset) made ∧
    TransactionsFound ground directory tipset transactions more ∧
    (transactions.find? fun other => other.hash == query.hash) = some transaction

/-! ## Courses -/

namespace Course

variable {ground : Ground} {may : Node.Call → CallSite → Prop} {refuses : ServiceError → Prop}

/-- The tipset at a height is found by two calls. A height below zero is refused
before both of them, and one above the head after the first one. -/
theorem tipsetAt (index : Int64) (hash : Option String)
    (mayAsk : ∀ call site, TipsetCall ground index call site → may call site)
    (isRefusal : ∀ cause, TipsetRefusal ground index hash cause → refuses cause) :
    Course ground may refuses (TipsetFound ground index hash)
      (Service.tipsetAt index hash).run := by
  unfold Service.tipsetAt
  refine guarded (fun below => isRefusal _ (.belowZero below)) fun nonneg => ?_
  apply (call (mayAsk _ _ (.head nonneg))).attempt
  rintro head made ⟨isHead, rfl⟩
  refine guarded (fun above => isRefusal _ (.aboveHead isHead above)) fun upToHead => ?_
  apply (call (mayAsk _ _ (.tipset isHead nonneg upToHead))).attempt
  rintro tipset made ⟨told, rfl⟩
  have requested : ground.Requested head index none tipset :=
    ⟨nonneg, upToHead, told, fun _ impossible => nomatch impossible⟩
  by_cases atHeight : tipset.height = index
  · rw [if_neg (not_not_intro atHeight)]
    cases hash with
    | none => exact result (.tipset isHead requested atHeight)
    | some given =>
      apply (blockIdentifier tipset fun hashless =>
        isRefusal _ (.nameless isHead requested hashless)).before
      rintro identifier ⟨own, isOwn, rfl⟩
      refine guarded ?_ fun same => ?_
      · exact fun differs => isRefusal _ (.otherHash isHead requested atHeight rfl isOwn differs)
      · obtain rfl := Decidable.not_not.mp same
        refine result (.tipset isHead { requested with hash := ?_ } atHeight)
        rintro _ ⟨⟩
        exact isOwn
  · rw [if_pos atHeight]
    exact result (.nullRound isHead requested atHeight)

/-- The parent of a tipset is found by its key. The first tipset is its own
parent, without a call. -/
theorem parentOf (tipset : Tipset)
    (mayAsk : ∀ key, HasParent tipset key → may (.tipset key) (.told .parentUnavailable))
    (isRefusal : Orphan tipset → refuses (orphanError tipset)) :
    Course ground may refuses (ParentFound ground tipset) (Service.parentOf tipset).run := by
  unfold Service.parentOf
  by_cases first : tipset.height = 0
  · rw [if_pos first]
    exact result (.first first)
  · rw [if_neg first]
    apply (demand fun unlinked => isRefusal ⟨first, unlinked⟩).before
    intro key linked
    apply (call (mayAsk key ⟨first, linked⟩)).loosen
    rintro parent made ⟨told, rfl⟩
    exact .told ⟨first, linked⟩ told

/-- The messages of the parent are executed by one call, and the addresses in
them are looked up. -/
theorem transactionsOf (service : Service) (tipset : Tipset)
    (mayAsk : ∀ key, HasParent tipset key →
      may (.computeState tipset.height key) (.told .transactionsUnavailable))
    (mayLook : ∀ invocations, ground.looks (service.directory.transactions invocations))
    (isRefusal : Orphan tipset → refuses (orphanError tipset)) :
    Course ground may refuses (TransactionsFound ground service.directory tipset)
      (service.transactionsOf tipset).run := by
  unfold Service.transactionsOf
  by_cases first : tipset.height = 0
  · rw [if_pos first]
    exact result (.first first)
  · rw [if_neg first]
    apply (demand fun unlinked => isRefusal ⟨first, unlinked⟩).before
    intro key linked
    apply (call (mayAsk key ⟨first, linked⟩)).attempt
    rintro state made ⟨computed, rfl⟩
    apply (lift (mayLook state.invocations)).loosen
    exact fun transactions sought finds => .executed ⟨first, linked⟩ computed finds

/-- A block is told after its parent and its transactions were
found, in this order. -/
theorem blockOf (service : Service) (tipset : Tipset)
    (mayAsk : ∀ key, HasParent tipset key → may (.tipset key) (.told .parentUnavailable) ∧
      may (.computeState tipset.height key) (.told .transactionsUnavailable))
    (mayLook : ∀ invocations, ground.looks (service.directory.transactions invocations))
    (isOrphan : Orphan tipset → refuses (orphanError tipset))
    (isNameless : tipset.key.hashText? = none → refuses namelessError)
    (isParentNameless : ∀ parent made, ParentFound ground tipset parent made →
      parent.key.hashText? = none → refuses namelessError) :
    Course ground may refuses (BlockMade ground service.directory tipset)
      (service.blockOf tipset).run := by
  apply (parentOf tipset (fun key child => (mayAsk key child).1) isOrphan).attempt
  intro parent parentCalls isParent
  apply (transactionsOf service tipset (fun key child => (mayAsk key child).2) mayLook
    isOrphan).attempt
  intro transactions executionCalls executed
  apply (blockIdentifier tipset isNameless).before
  intro identifier names
  apply (blockIdentifier parent (isParentNameless parent parentCalls isParent)).before
  intro parentIdentifier namesParent
  apply result
  rw [List.append_nil]
  exact ⟨⟨parent, parentCalls, executionCalls, isParent, executed, namesParent, rfl⟩,
    names, rfl, rfl⟩

/-- The course of a request for a block: the gate, the head, the tipset, its parent
and its transactions. All that is proved of blocks is read off this. -/
theorem block (service : Service) (request : Request BlockSelector)
    (mayLook : ∀ invocations, ground.looks (service.directory.transactions invocations)) :
    Course ground (BlockCall ground request.wanted) (BlockRefusal ground service request)
      (BlockFound ground service.directory request.wanted) (service.block request).run := by
  apply (given fun _ => BlockRefusal.unaccepted).before
  intro _ _
  cases isIndex : request.wanted.index with
  | none => exact refusal (.unselected isIndex)
  | some index =>
    apply (requireSynced _ .progress fun _ => BlockRefusal.late).attempt
    rintro _ _ rfl
    apply (tipsetAt index request.wanted.hash (fun _ _ => BlockCall.tipset isIndex)
      fun _ => BlockRefusal.tipset isIndex).attempt
    intro found made isFound
    cases found with
    | none =>
      apply result
      rw [List.append_nil]
      exact .nullRound isIndex isFound
    | some tipset =>
      apply (blockOf service tipset
        (fun key child => ⟨.parent isIndex isFound child, .execution isIndex isFound child⟩) mayLook
        (fun orphan => .orphan isIndex isFound orphan)
        (fun hashless => .nameless isIndex isFound hashless)
        fun parent more isParent hashless =>
          .namelessParent isIndex isFound isParent hashless).attempt
      intro block more isBlock
      have told :
          BlockFound ground service.directory request.wanted (some block)
            (.syncState :: (made ++ more)) :=
        .block isIndex isFound isBlock
      apply result
      rw [List.append_nil]
      exact told

/-- The course of a request for a transaction of a block, which is that of the block
up to the choice of one of its transactions. -/
theorem blockTransaction (service : Service) (request : Request TransactionQuery)
    (mayLook : ∀ invocations, ground.looks (service.directory.transactions invocations)) :
    Course ground (TransactionCall ground request.wanted)
      (TransactionRefusal ground service request)
      (fun transaction _ => TransactionFound ground service.directory request.wanted transaction)
      (service.blockTransaction request).run := by
  apply (given fun _ => TransactionRefusal.unaccepted).before
  intro _ _
  apply (requireSynced _ .progress fun _ => TransactionRefusal.late).attempt
  rintro _ _ rfl
  apply (tipsetAt request.wanted.block.index (some request.wanted.block.hash)
    (fun _ _ => TransactionCall.tipset)
    fun _ => TransactionRefusal.tipset).attempt
  intro found made isFound
  cases found with
  | none => exact refusal .missing
  | some tipset =>
    apply (transactionsOf service tipset (fun key child => .execution isFound child) mayLook
      fun orphan => .orphan isFound orphan).attempt
    intro transactions more executed
    apply (demand fun _ => .missing).loosen
    rintro transaction _ ⟨isFirst, -⟩
    exact ⟨tipset, made, transactions, more, isFound, executed, isFirst⟩

end Course

end FilecoinRosetta.Rosetta
