import FilecoinRosetta.Proofs.Chain.Linear
import FilecoinRosetta.Proofs.Rosetta.Courses.Blocks

/-!
# The blocks of a chain

On a node that tells a chain, every height from zero up to that of the head has
either a tipset or none, and a request for its block comes to what is there. The
block of a tipset names the tipset before it as its parent and executes the messages
of that one, once, at its own height.
-/

namespace FilecoinRosetta

/-- Whether a call executes the messages of a tipset. -/
def Node.Call.isExecution : Node.Call → Bool
  | .computeState _ _ => true
  | _ => false

namespace Lookup

/-- No look-up executes messages, so the executions of a request are those
of its block alone. -/
theorem IsQuestion.not_execution {call : Node.Call} (isQuestion : IsQuestion call) :
    call.isExecution = false := by
  obtain ⟨address, member⟩ := isQuestion
  simp only [Node.Call.about, List.mem_cons, List.not_mem_nil, or_false] at member
  rcases member with rfl | rfl | rfl | rfl
  all_goals rfl

end Lookup

namespace Chain

open Program Rosetta Rosetta.Service

variable (chain : Chain)

/-- The node is synced and tells the tipsets of the chain: the head, those of a key,
and those at or below the heights asked for from the head. -/
structure ToldBy (node : Node) : Prop where
  /-- It is done with its work. -/
  synced : Synced node
  /-- The head is the last tipset. -/
  head : ∀ past, node.answer past .chainHead = .ok (chain.tipset chain.last)
  /-- Keys name tipsets. -/
  byKey : ∀ past number, number ≤ chain.last →
    node.answer past (.tipset (chain.tipset number).key) = .ok (chain.tipset number)
  /-- From the head on, heights down the chain are told. -/
  atOrBelow : ∀ past height number, chain.LastUpTo chain.last height number →
    node.answer past (.tipsetAtOrBelow height (chain.tipset chain.last).key) =
      .ok (chain.tipset number)

/-- A node that follows a chain tells it. This is the part of
following that blocks need. -/
theorem FollowedBy.told {chain : Chain} {node : Node} (followed : chain.FollowedBy node) :
    chain.ToldBy node where
  synced := followed.synced
  head := followed.head
  byKey := followed.byKey
  atOrBelow past height number := followed.atOrBelow past chain.last height number (Nat.le_refl _)

/-- The identifier of the block of a tipset. -/
def identifier (number : Nat) : BlockIdentifier :=
  ⟨(chain.tipset number).height, (chain.tipset number).key.hashText?.getD ""⟩

/-- A selector of the height of a tipset, with its hash or without. -/
structure Selects (tipset : Tipset) (selector : BlockSelector) : Prop where
  /-- The height is the one of the tipset. -/
  height : selector.index = some tipset.height
  /-- The hash is the one of the tipset, if there is one. -/
  hash : ∀ hash, selector.hash = some hash → tipset.key.hashText? = some hash

/-- A height up to that of the head at which there is no tipset. -/
structure NullRound (index : Int64) : Prop where
  /-- It is not below zero. -/
  nonneg : ¬ index < 0
  /-- It is not above the head. -/
  upToHead : ¬ (chain.tipset chain.last).height < index
  /-- All tipsets are at other heights. -/
  skipped : ∀ number, number ≤ chain.last → (chain.tipset number).height ≠ index

/-- What is found at a height, where a hash may be given. -/
inductive Finds (index : Int64) (hash : Option String) : Option Tipset → Prop where
  | tipset {number : Nat} (inside : number ≤ chain.last)
      (selects : Selects (chain.tipset number) ⟨some index, hash⟩) :
      Finds index hash (some (chain.tipset number))
  | nullRound (isNull : chain.NullRound index) : Finds index hash none

/-- Why nothing can be told of a height, where a hash may be given. -/
inductive Refuses (index : Int64) (hash : Option String) : ErrorKind → Prop where
  | belowZero (below : index < 0) : Refuses index hash .malformedValue
  | aboveHead (above : (chain.tipset chain.last).height < index) :
      Refuses index hash .blockNotSynced
  | otherHash {number : Nat} (inside : number ≤ chain.last)
      (height : (chain.tipset number).height = index) {given : String} (isGiven : hash = some given)
      (differs : (chain.identifier number).hash ≠ given) : Refuses index hash .hashMismatch

variable {chain} {node : Node} {ground : Ground}

/-- The hash of a tipset of a chain is that of its key, so no
tipset is without one. -/
theorem identifier_hash {number : Nat} (inside : number ≤ chain.last) :
    (chain.tipset number).key.hashText? = some (chain.identifier number).hash := by
  rw [identifier, TipsetKey.hashText?, chain.named number inside]
  rfl

/-- Tipsets have different identifiers, as they are at different heights. -/
theorem identifier_injective {first second : Nat} (firstInside : first ≤ chain.last)
    (secondInside : second ≤ chain.last) (same : chain.identifier first = chain.identifier second) :
    first = second :=
  chain.height_injective firstInside secondInside (congrArg BlockIdentifier.index same)

/-- What an identifier names is selected by it, so a block is found again by the
identifier that was told of it. -/
theorem selects_identifier {number : Nat} (inside : number ≤ chain.last) :
    Selects (chain.tipset number)
      ⟨some (chain.identifier number).index, some (chain.identifier number).hash⟩ where
  height := rfl
  hash _ isGiven := (identifier_hash inside).trans isGiven

/-- Where a tipset is selected, nothing else is found: a height has one tipset at
most, and the hash must be its own. -/
theorem Finds.unique {index : Int64} {hash : Option String} {found : Option Tipset}
    (finds : chain.Finds index hash found) {number : Nat} (inside : number ≤ chain.last)
    (selects : Selects (chain.tipset number) ⟨some index, hash⟩) :
    found = some (chain.tipset number) := by
  obtain rfl := Option.some.inj selects.height
  cases finds with
  | tipset inChain other =>
    rw [chain.height_injective inside inChain (Option.some.inj other.height)]
  | nullRound isNull => exact absurd rfl (isNull.skipped number inside)

/-- Where a tipset is selected, nothing is refused. Each cause for a refusal
contradicts the height or the hash of the tipset. -/
theorem Refuses.not_selected {index : Int64} {hash : Option String} {kind : ErrorKind}
    (refuses : chain.Refuses index hash kind) {number : Nat} (inside : number ≤ chain.last)
    (selects : Selects (chain.tipset number) ⟨some index, hash⟩) : False := by
  obtain rfl := Option.some.inj selects.height
  cases refuses with
  | belowZero below => exact chain.height_nonneg inside below
  | aboveHead above => exact Int64.not_lt.mpr (chain.height_le inside (Nat.le_refl _)) above
  | otherHash inChain height isGiven differs =>
    obtain rfl := chain.height_injective inChain inside height
    have same := selects.hash _ isGiven
    rw [identifier_hash inside] at same
    exact differs (Option.some.inj same)

/-! ## Gates -/

/-- The workers of a synced node have a common stage, and it is complete. -/
theorem Synced.evaluated (synced : Synced node) (ofNode : ground.OfNode node) {state : SyncState}
    (told : ground.told .syncState state) :
    ∃ status, SyncStatus.evaluate? state = some status ∧ status.isSynced = true := by
  obtain ⟨past, answer⟩ := ofNode told
  obtain ⟨other, status, isOther, isStatus, isSynced⟩ := synced past
  obtain rfl := Except.ok.inj (answer.symm.trans isOther)
  exact ⟨status, isStatus, isSynced⟩

/-- The progress of a synced node is that it follows the chain. -/
theorem Synced.progress (synced : Synced node) (ofNode : ground.OfNode node) {status : SyncStatus}
    (progress : ground.Progress status) : status.isSynced = true := by
  obtain ⟨state, told, isStatus⟩ := progress.told
  obtain ⟨other, isOther, isSynced⟩ := synced.evaluated ofNode told
  obtain rfl := Option.some.inj (isStatus.symm.trans isOther)
  exact isSynced

/-- A synced node is never late, whatever kind of error would say so. -/
theorem Synced.not_late (synced : Synced node) (ofNode : ground.OfNode node) {late : ErrorKind}
    {cause : ServiceError} : ¬ ground.Late late cause := by
  rintro (stalled | ⟨progress, notSynced⟩)
  · cases stalled with
    | untargeted told unknown =>
      obtain ⟨status, isStatus, -⟩ := synced.evaluated ofNode told
      exact nomatch unknown.symm.trans isStatus
    | errored told isStatus isErrored =>
      obtain ⟨status, isOther, isSynced⟩ := synced.evaluated ofNode told
      obtain rfl := Option.some.inj (isStatus.symm.trans isOther)
      have complete := beq_iff_eq.mp isSynced
      rw [beq_iff_eq.mp isErrored] at complete
      exact nomatch complete
  · exact notSynced (synced.progress ofNode progress)

/-- A synced node tells its progress whenever it is asked, so the gate never fails
for want of an answer. -/
theorem Synced.tells (synced : Synced node) : node.Tells .syncState := by
  intro past
  obtain ⟨state, status, told, -⟩ := synced past
  exact ⟨state, told⟩

/-- The blocks of a chain are named by the identifiers of their tipsets,
and by nothing else. -/
theorem names_iff {number : Nat} (inside : number ≤ chain.last) {identifier : BlockIdentifier} :
    Names identifier (chain.tipset number) ↔ identifier = chain.identifier number := by
  unfold Names
  rw [identifier_hash inside]
  constructor
  · rintro ⟨hash, isHash, rfl⟩
    rw [← Option.some.inj isHash]
    rfl
  · rintro rfl
    exact ⟨_, rfl, rfl⟩

/-- No tipset of a chain is without a hash, since its key names a block at least. -/
theorem hash_some {number : Nat} (inside : number ≤ chain.last) :
    (chain.tipset number).key.hashText? ≠ none := by
  rw [identifier_hash inside]
  exact fun impossible => nomatch impossible

/-! ## Tipsets -/

namespace ToldBy

variable {index : Int64} {hash : Option String}

/-- The head that the node tells is the last tipset of the chain. -/
theorem head_eq (told : chain.ToldBy node) (ofNode : ground.OfNode node) {head : Tipset}
    (isHead : ground.told .chainHead head) : head = chain.tipset chain.last := by
  obtain ⟨past, answer⟩ := ofNode isHead
  exact Except.ok.inj (answer.symm.trans (told.head past))

/-- What is requested from the head on is the last tipset up to the height. -/
theorem requested (told : chain.ToldBy node) (ofNode : ground.OfNode node) {tipset : Tipset}
    (requested : ground.Requested (chain.tipset chain.last) index hash tipset) :
    ∃ number, chain.LastUpTo chain.last index number ∧ tipset = chain.tipset number := by
  have isLast := chain.lastFrom_upTo requested.nonneg (Nat.le_refl chain.last)
  obtain ⟨past, answer⟩ := ofNode requested.told
  exact ⟨_, isLast, Except.ok.inj (answer.symm.trans (told.atOrBelow past index _ isLast))⟩

/-- What is found at a height is what there is on the chain. -/
theorem finds (told : chain.ToldBy node) (ofNode : ground.OfNode node) {tipset : Option Tipset}
    {made : List Node.Call} (found : TipsetFound ground index hash tipset made) :
    chain.Finds index hash tipset := by
  cases found with
  | tipset isHead requested atHeight =>
    obtain rfl := told.head_eq ofNode isHead
    obtain ⟨number, isLast, rfl⟩ := told.requested ofNode requested
    exact .tipset isLast.inside ⟨congrArg some atHeight.symm, requested.hash⟩
  | nullRound isHead requested skipped =>
    obtain rfl := told.head_eq ofNode isHead
    obtain ⟨number, isLast, rfl⟩ := told.requested ofNode requested
    refine .nullRound ⟨requested.nonneg, requested.upToHead, ?_⟩
    -- A tipset at the height would be the last one up to it.
    intro other inChain atIndex
    rcases Nat.lt_trichotomy other number with before | rfl | after
    · have lower := chain.height_lt before isLast.inside
      rw [atIndex] at lower
      exact Int64.not_le.mpr lower isLast.reached
    · exact skipped atIndex
    · have higher := isLast.passed other after inChain
      rw [atIndex] at higher
      exact Int64.lt_irrefl higher

/-- A height is refused for a reason that there is on the chain. -/
theorem refuses (told : chain.ToldBy node) (ofNode : ground.OfNode node) {cause : ServiceError}
    (refusal : TipsetRefusal ground index hash cause) : chain.Refuses index hash cause.kind := by
  cases refusal with
  | belowZero below => exact .belowZero below
  | aboveHead isHead above =>
    obtain rfl := told.head_eq ofNode isHead
    exact .aboveHead above
  | nameless isHead requested hashless =>
    obtain rfl := told.head_eq ofNode isHead
    obtain ⟨number, isLast, rfl⟩ := told.requested ofNode requested
    exact absurd hashless (hash_some isLast.inside)
  | otherHash isHead requested atHeight isGiven isOwn differs =>
    obtain rfl := told.head_eq ofNode isHead
    obtain ⟨number, isLast, rfl⟩ := told.requested ofNode requested
    rw [identifier_hash isLast.inside] at isOwn
    obtain rfl := Option.some.inj isOwn
    exact .otherHash isLast.inside atHeight isGiven differs

/-- The calls that look for a tipset are answered, as the node tells the head,
tipsets by their keys and those at or below a height. -/
theorem tipsetCall_told (told : chain.ToldBy node) (ofNode : ground.OfNode node) {call : Node.Call}
    {site : CallSite} (ofTipset : TipsetCall ground index call site) : node.Tells call := by
  intro past
  cases ofTipset with
  | head nonneg => exact ⟨_, told.head past⟩
  | tipset isHead nonneg upToHead =>
    obtain rfl := told.head_eq ofNode isHead
    exact ⟨_, told.atOrBelow past index _ (chain.lastFrom_upTo nonneg (Nat.le_refl chain.last))⟩

end ToldBy

/-! ## Blocks -/

/-- All messages below the head can be executed. -/
def Computes (chain : Chain) (node : Node) : Prop :=
  ∀ past number, number < chain.last → ∃ state, node.answer past
    (.computeState (chain.tipset (number + 1)).height (chain.tipset number).key) = .ok state

/-- What the block of a tipset tells of the executions at its height: nothing at the
first one, and what the messages of the tipset before come to at every other one. -/
def TellsTransactions (chain : Chain) (service : Service) (node : Node) :
    Nat → List Transaction → Prop
  | 0, told => told = []
  | number + 1, told => ∃ past state session,
      node.answer past
        (.computeState (chain.tipset (number + 1)).height (chain.tipset number).key) =
        .ok state ∧
      told = ((service.directory.transactions state.invocations).run node session).1

/-- What is executed for the block of a tipset. -/
def executions (chain : Chain) : Nat → List Node.Call
  | 0 => []
  | number + 1 => [.computeState (chain.tipset (number + 1)).height (chain.tipset number).key]

/-- The block of a tipset, made on the one before. The first tipset
is its own parent. -/
structure TellsBlock (chain : Chain) (service : Service) (node : Node) (number : Nat)
    (block : Block) :
    Prop where
  identifier : block.identifier = chain.identifier number
  parent : block.parent = chain.identifier (number - 1)
  timestamp : block.timestamp = timestamp (chain.tipset number)
  cids : block.cids = (chain.tipset number).key.cids
  transactions : chain.TellsTransactions service node number block.transactions

/-- What a request for a height comes to, with the executions for it. -/
inductive TellsHeight (chain : Chain) (service : Service) (node : Node) (index : Int64)
    (hash : Option String) : Option Block → List Node.Call → Prop where
  | block {number : Nat} (inside : number ≤ chain.last)
      (selects : Selects (chain.tipset number) ⟨some index, hash⟩) {block : Block}
      (tells : chain.TellsBlock service node number block) :
      TellsHeight chain service node index hash (some block) (chain.executions number)
  | nullRound (isNull : chain.NullRound index) : TellsHeight chain service node index hash none []

/-- The key of the parent is the key of the tipset before. -/
theorem parentKey_linked {number : Nat} (inside : number < chain.last) :
    parentKey? (chain.tipset (number + 1)) = some (chain.tipset number).key := by
  rw [parentKey?, chain.linked number inside, Option.filter_some,
    chain.named number (Nat.le_of_lt inside)]
  rfl

/-- A tipset that was made on none has no parent, which is how the first one of
a chain is known. -/
theorem parentKey_first (first : ∀ key, (chain.tipset 0).parents? = some key → key.isEmpty = true) :
    parentKey? (chain.tipset 0) = none := by
  unfold parentKey?
  cases parents : (chain.tipset 0).parents? with
  | none => rfl
  | some key => rw [Option.filter_some, first key parents]; rfl

/-- Above the first tipset a tipset of the chain has the one
before as its parent. -/
theorem hasParent {number : Nat} (inside : number ≤ chain.last) {key : TipsetKey}
    (child : HasParent (chain.tipset number) key) :
    ∃ before, number = before + 1 ∧ before < chain.last ∧ key = (chain.tipset before).key := by
  cases number with
  | zero => exact absurd chain.start child.higher
  | succ before =>
    have linked := child.linked
    rw [parentKey_linked inside] at linked
    exact ⟨before, rfl, inside, (Option.some.inj linked).symm⟩

/-- No tipset of a chain above the first one is without a parent. -/
theorem not_orphan {number : Nat} (inside : number ≤ chain.last) :
    ¬ Orphan (chain.tipset number) := by
  rintro ⟨higher, unlinked⟩
  cases number with
  | zero => exact higher chain.start
  | succ before =>
    rw [parentKey_linked inside] at unlinked
    exact nomatch unlinked

/-- The parent that is found is the tipset before, by whichever of its
calls it was found. -/
theorem ToldBy.parent (told : chain.ToldBy node) (ofNode : ground.OfNode node) {number : Nat}
    (inside : number ≤ chain.last) {parent : Tipset} {made : List Node.Call}
    (found : ParentFound ground (chain.tipset number) parent made) :
    parent = chain.tipset (number - 1) ∧ made.filter Node.Call.isExecution = [] := by
  cases found with
  | first isFirst =>
    cases number with
    | zero => exact ⟨rfl, rfl⟩
    | succ before => exact absurd isFirst (chain.height_pos inside)
  | told child isParent =>
    obtain ⟨before, rfl, below, rfl⟩ := hasParent inside child
    obtain ⟨past, answer⟩ := ofNode isParent
    exact ⟨Except.ok.inj (answer.symm.trans (told.byKey past before (Nat.le_of_lt below))), rfl⟩

/-- The messages of the tipset before are executed, and nothing else is. -/
theorem transactions_told {service : Service} {kept : AddressCache → Prop} {number : Nat}
    (inside : number ≤ chain.last) {transactions : List Transaction} {made : List Node.Call}
    (found : TransactionsFound (.on node kept service.directory) service.directory
      (chain.tipset number) transactions made) :
    chain.TellsTransactions service node number transactions ∧
      made.filter Node.Call.isExecution = chain.executions number := by
  cases found with
  | first isFirst =>
    cases number with
    | zero => exact ⟨rfl, rfl⟩
    | succ before => exact absurd isFirst (chain.height_pos inside)
  | executed child computed finds =>
    obtain ⟨before, rfl, below, rfl⟩ := hasParent inside child
    obtain ⟨past, answer⟩ := computed
    obtain ⟨⟨session, -, isFound⟩, questions⟩ := finds
    refine ⟨⟨past, _, session, answer, isFound⟩, ?_⟩
    rw [List.filter_cons_of_pos rfl, List.filter_eq_nil_iff.mpr]
    · rfl
    · intro call member
      rw [(questions call member).not_execution]
      exact Bool.false_ne_true

/-- The block that is made of a tipset of the chain tells it. -/
theorem ToldBy.block (told : chain.ToldBy node) {service : Service} {kept : AddressCache → Prop}
    {number : Nat} (inside : number ≤ chain.last) {block : Block} {made : List Node.Call}
    (isMade : BlockMade (.on node kept service.directory) service.directory (chain.tipset number)
      block made) :
    chain.TellsBlock service node number block ∧
      made.filter Node.Call.isExecution = chain.executions number := by
  obtain ⟨parent, parentCalls, executionCalls, isParent, executed, namesParent, rfl⟩ := isMade.found
  obtain ⟨rfl, quiet⟩ := told.parent (Ground.ofNode_on node kept service.directory) inside isParent
  obtain ⟨transactions, executions⟩ := transactions_told inside executed
  rw [names_iff (Nat.le_trans (Nat.sub_le number 1) inside)] at namesParent
  constructor
  · exact ⟨(names_iff inside).mp isMade.identifier, namesParent, isMade.timestamp, isMade.cids,
      transactions⟩
  · rw [List.filter_append, quiet, executions, List.nil_append]

/-- What a request for a block comes to is what there is at the height. -/
theorem ToldBy.height (told : chain.ToldBy node) {service : Service} {kept : AddressCache → Prop}
    {index : Int64} {hash : Option String} {block : Option Block} {made : List Node.Call}
    (found : BlockFound (.on node kept service.directory) service.directory ⟨some index, hash⟩
      block made) :
    chain.TellsHeight service node index hash block (made.filter Node.Call.isExecution) := by
  have ofNode := Ground.ofNode_on node kept service.directory
  have quiet {index : Int64} {tipset : Option Tipset} {made : List Node.Call}
      (found : TipsetFound (.on node kept service.directory) index hash tipset made) :
      made.filter Node.Call.isExecution = [] := by
    cases found <;> rfl
  cases found with
  | nullRound isIndex found =>
    obtain rfl := Option.some.inj isIndex
    cases told.finds ofNode found with
    | nullRound isNull =>
      rw [List.filter_cons_of_neg (by decide), quiet found]
      exact .nullRound isNull
  | block isIndex found isMade =>
    obtain rfl := Option.some.inj isIndex
    cases told.finds ofNode found with
    | tipset inside selects =>
      obtain ⟨tells, executions⟩ := told.block inside isMade
      rw [List.filter_cons_of_neg (by decide), List.filter_append, quiet found, executions,
        List.nil_append]
      exact .block inside selects tells

/-- A request for a block is refused for a reason that there is on the chain. -/
theorem ToldBy.block_refused (told : chain.ToldBy node) (ofNode : ground.OfNode node)
    {service : Service} {network : Option NetworkIdentifier} {identifier : NetworkIdentifier}
    (accepted : service.accept network = .ok identifier) {index : Int64} {hash : Option String}
    {cause : ServiceError}
    (refusal : BlockRefusal ground service ⟨network, ⟨some index, hash⟩⟩ cause) :
    chain.Refuses index hash cause.kind := by
  have inChain {index : Int64} {tipset : Tipset} {made : List Node.Call}
      (found : TipsetFound ground index hash (some tipset) made) :
      ∃ number, number ≤ chain.last ∧ tipset = chain.tipset number := by
    cases told.finds ofNode found with
    | tipset inside selects => exact ⟨_, inside, rfl⟩
  cases refusal with
  | unaccepted refused => exact nomatch accepted.symm.trans refused
  | unselected isNone => exact nomatch isNone
  | late isLate => exact (told.synced.not_late ofNode isLate).elim
  | tipset isIndex refusal =>
    obtain rfl := Option.some.inj isIndex
    exact told.refuses ofNode refusal
  | orphan isIndex found orphan =>
    obtain ⟨number, inside, rfl⟩ := inChain found
    exact absurd orphan (not_orphan inside)
  | nameless isIndex found hashless =>
    obtain ⟨number, inside, rfl⟩ := inChain found
    exact absurd hashless (hash_some inside)
  | namelessParent isIndex found isParent hashless =>
    obtain ⟨number, inside, rfl⟩ := inChain found
    obtain ⟨rfl, -⟩ := told.parent ofNode inside isParent
    exact absurd hashless (hash_some (Nat.le_trans (Nat.sub_le number 1) inside))

/-- All calls for a block are answered, if all messages below the
head can be executed. -/
theorem ToldBy.blockCall_told (told : chain.ToldBy node) (ofNode : ground.OfNode node)
    (computes : chain.Computes node) {selector : BlockSelector} {call : Node.Call} {site : CallSite}
    (ofBlock : BlockCall ground selector call site) : node.Tells call := by
  cases ofBlock with
  | progress => exact told.synced.tells
  | tipset isIndex ofTipset => exact told.tipsetCall_told ofNode ofTipset
  | parent isIndex found child =>
    cases told.finds ofNode found with
    | tipset inside selects =>
      obtain ⟨before, rfl, below, rfl⟩ := hasParent inside child
      exact fun past => ⟨_, told.byKey past before (Nat.le_of_lt below)⟩
  | execution isIndex found child =>
    cases told.finds ofNode found with
    | tipset inside selects =>
      obtain ⟨before, rfl, below, rfl⟩ := hasParent inside child
      exact fun past => computes past before below

/-- A request for a height tells its block, or that there is none, with what is
executed for that, or it is refused for a reason that there is on the chain. -/
theorem block_settles (service : Service) (told : chain.ToldBy node)
    (computes : chain.Computes node) {network : Option NetworkIdentifier}
    {identifier : NetworkIdentifier} (accepted : service.accept network = .ok identifier)
    (index : Int64) (hash : Option String) (session : Session) :
    let program := (service.block ⟨network, ⟨some index, hash⟩⟩).run
    (∀ found, (program.run node session).1 = .ok found →
      chain.TellsHeight service node index hash found
      ((program.calls node session).filter Node.Call.isExecution)) ∧
    ∀ cause, (program.run node session).1 = .error cause → chain.Refuses index hash cause.kind := by
  intro program
  have ofNode := Ground.ofNode_on node (fun _ => True) service.directory
  have course : Course (.on node (fun _ => True) service.directory) _ _ _ program :=
    Course.block service _ fun invocations _ inherited => inherited.transactions invocations
  have ended := (course.meets_on (fun _ _ _ => trivial) session trivial).1.1
  constructor
  · intro found isOk
    rw [isOk] at ended
    cases ended with
    | found isGood => exact told.height isGood
  · intro cause isError
    rw [isError] at ended
    cases ended with
    | refused isRefusal => exact told.block_refused ofNode accepted isRefusal
    | failed isMade mayAsk answer =>
      exact ((told.blockCall_told ofNode computes mayAsk).not_failed answer).elim

/-! ## A service on the chain with a null round -/

namespace Skipping

/-- The service, which knows no codes and takes no tags. -/
def service : Service := ⟨⟨[]⟩, "calibnet", ⟨false, false⟩⟩

/-- The network of all questions. -/
def network : NetworkIdentifier := ⟨blockchainName, "calibnet", none⟩

end Skipping

end Chain

end FilecoinRosetta
