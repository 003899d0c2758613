import FilecoinRosetta.Proofs.Address.Text
import FilecoinRosetta.Proofs.Chain.Ledger
import FilecoinRosetta.Proofs.Chain.Points

/-!
# Balances against blocks

The balance at a tipset holds what its own messages moved, since it is read from
the state of the next tipset. The block of a tipset tells what the messages of the
tipset before it moved, since these are executed at its height. So the change of a
balance from one tipset to the next is told by the block after both, and not by
the block of the latter.
-/

namespace FilecoinRosetta.Chain

open Program Rosetta Rosetta.Service

/-- A question for the balance of an account at a tipset below the head. -/
structure AsksBalance (service : Service) (chain : Chain) (node : Node) (account : Address)
    (number : Nat) (request : Request BalanceQuery) : Prop where
  /-- The request is for the network served, and the tipset is below the
  head it asks for. -/
  below : ∃ identifier tag top, service.accept request.network = .ok identifier ∧
    service.finalityTag identifier = .ok tag ∧ chain.TopFor node tag top ∧ number < top
  /-- The account goes by its canonical address, and no part of it is asked for. -/
  account : request.wanted.account = ⟨account.text service.directory.network, none⟩
  /-- The tipset is selected. -/
  block : ∃ selector, request.wanted.block = some selector ∧ Selects (chain.tipset number) selector

/-- A question for the block of a tipset. -/
structure AsksBlock (service : Service) (chain : Chain) (number : Nat)
    (request : Request BlockSelector) : Prop where
  /-- The request is for the network served. -/
  accepted : ∃ identifier, service.accept request.network = .ok identifier
  /-- The tipset is selected. -/
  block : Selects (chain.tipset number) request.wanted

section

variable {service : Service} {chain : Chain} {node : Node} {account : Address} {number : Nat}

/-! ## The head that is asked for -/

/-- The head is the tipset that is as final as asked for. -/
theorem TopFor.head_eq {tag : Node.TipsetTag} {top : Nat} (isTop : chain.TopFor node tag top)
    (followed : chain.FollowedBy node) {ground : Ground} (ofNode : ground.OfNode node)
    {head : Tipset} (isHead : ground.Head tag head) : head = chain.tipset top := by
  cases tag with
  | latest =>
    obtain rfl : top = chain.last := isTop
    exact followed.told.head_eq ofNode isHead
  | safe | finalized =>
    obtain ⟨past, answer⟩ := ofNode isHead
    exact Except.ok.inj (answer.symm.trans (isTop.2 past))

/-- The node tells that head whenever it is asked, so a balance is never refused
for want of one. -/
theorem TopFor.head_told {tag : Node.TipsetTag} {top : Nat} (isTop : chain.TopFor node tag top)
    (followed : chain.FollowedBy node) : node.Tells (headCall tag) := by
  intro past
  cases tag with
  | latest => exact ⟨_, followed.head past⟩
  | safe | finalized => exact ⟨_, isTop.2 past⟩

/-! ## Points -/

/-- What is looked for to find the point of a balance is told. -/
theorem FollowedBy.pointCall_told (followed : chain.FollowedBy node) {ground : Ground}
    (ofNode : ground.OfNode node) {top : Nat} (isRooted : chain.Rooted top)
    {block : Option BlockSelector} {call : Node.Call} {site : CallSite}
    (ofPoint : PointCall ground (chain.tipset top) block call site) :
    node.Tells call := by
  intro past
  cases ofPoint with
  | parent linked =>
    obtain ⟨before, rfl, rfl⟩ := isRooted.parent linked
    exact ⟨_, followed.byKey past before (Nat.le_of_succ_le isRooted.inside)⟩
  | @requested index hash isBlock nonneg upToHead =>
    have isLast := chain.lastFrom_upTo nonneg isRooted.inside
    exact ⟨_, followed.atOrBelow past top index _ isRooted.inside isLast⟩
  | next isBlock isRequested other =>
    obtain ⟨before, chosen, rfl⟩ := followed.truthful.requested ofNode isRooted.inside isRequested
    have isFirst := chain.firstFrom_next (chosen.below_head other) isRooted.inside
    exact ⟨_, followed.atOrAbove past top _ (before + 1) isRooted.inside isFirst⟩

/-- The last tipset at or below the height of a tipset is that tipset. -/
theorem Chosen.unique {top : Nat} {hash : Option String} {other : Nat}
    (chosen : chain.Chosen top (chain.tipset number).height hash other) (below : number < top)
    (inside : top ≤ chain.last) : other = number :=
  (chain.lastFrom_exact chosen.isLast).symm.trans
    (chain.lastFrom_exact (chain.lastUpTo_own (Nat.le_of_lt below) inside))

/-- A tipset below the head is not refused where it is selected. -/
theorem Truthful.point_accepted (truthful : chain.Truthful node) {ground : Ground}
    (ofNode : ground.OfNode node) {top : Nat} (below : number < top) (inside : top ≤ chain.last)
    {selector : BlockSelector} (selects : Selects (chain.tipset number) selector)
    {cause : ServiceError} :
    ¬ PointRefusal ground (chain.tipset top) (some selector) cause := by
  have own {index : Int64} {hash given : Option String} {tipset : Tipset}
      (isBlock : some selector = some ⟨some index, given⟩)
      (isRequested : ground.Requested (chain.tipset top) index hash tipset) :
      tipset = chain.tipset number := by
    obtain rfl := Option.some.inj isBlock
    obtain rfl := Option.some.inj selects.height
    obtain ⟨other, chosen, rfl⟩ := truthful.requested ofNode inside isRequested
    rw [chosen.unique below inside]
  have upTo := Nat.le_trans (Nat.le_of_lt below) inside
  rintro (⟨isBlock, belowZero⟩ | ⟨isBlock, above⟩ | ⟨isBlock, isRequested, hashless⟩ |
    ⟨isBlock, isRequested, isOwn, differs⟩ | isBlock)
  · obtain rfl := Option.some.inj isBlock
    obtain rfl := Option.some.inj selects.height
    exact chain.height_nonneg upTo belowZero
  · obtain rfl := Option.some.inj isBlock
    obtain rfl := Option.some.inj selects.height
    exact Int64.not_lt.mpr (chain.height_le (Nat.le_of_lt below) inside) above
  · obtain rfl := own isBlock isRequested
    exact hash_some upTo hashless
  · obtain rfl := own isBlock isRequested
    obtain rfl := Option.some.inj isBlock
    exact differs (Option.some.inj (isOwn.symm.trans (selects.hash _ rfl)))
  · obtain rfl := Option.some.inj isBlock
    exact nomatch selects.height

/-! ## Balances -/

namespace AsksBalance

variable {request : Request BalanceQuery} {ground : Ground}

/-- The question starts from a head above the tipset, and from no other one. -/
theorem top (asks : AsksBalance service chain node account number request) :
    ∃ top, number < top ∧ top ≤ chain.last ∧ ∀ tag, service.Tagged request.network tag →
      chain.TopFor node tag top := by
  obtain ⟨identifier, tag, top, accepted, isTag, isTop, below⟩ := asks.below
  refine ⟨top, below, isTop.inside, ?_⟩
  intro other tagged
  rw [tagged.unique accepted isTag]
  exact isTop

/-- The account is the one that is asked for: no other address has its text. -/
theorem address_eq (asks : AsksBalance service chain node account number request)
    {address : Address} (parsed : Address.parse request.wanted.account.address = .ok address) :
    address = account := by
  rw [asks.account, Address.parse_display] at parsed
  exact (Except.ok.inj parsed).symm

/-- No part of it is asked for, so the balance is the whole one. -/
theorem part_eq (asks : AsksBalance service chain node account number request)
    {part : Option SubAccount} (asked : AskedPart request.wanted.account part) : part = none := by
  apply asked.whole_only
  rw [asks.account]

/-- The tipset is reported, and the next one is read, since its parent state is the
one behind the tipset. -/
theorem point (asks : AsksBalance service chain node account number request)
    (followed : chain.FollowedBy node) (ofNode : ground.OfNode node) {tag : Node.TipsetTag}
    (tagged : service.Tagged request.network tag) {point : BalancePoint} {made : List Node.Call}
    (placed : PlaceFound ground tag request.wanted.block point made) :
    point = ⟨chain.tipset number, chain.tipset (number + 1)⟩ := by
  obtain ⟨top, below, inside, isTop⟩ := asks.top
  obtain ⟨selector, isBlock, selects⟩ := asks.block
  obtain ⟨isHead, found⟩ := placed
  obtain rfl := (isTop tag tagged).head_eq followed ofNode isHead
  have isRooted : chain.Rooted top :=
    ⟨inside, fun isZero => absurd below (isZero ▸ Nat.not_lt_zero number)⟩
  obtain ⟨reported, state, isPlaced, rfl⟩ := followed.truthful.placed ofNode isRooted found
  obtain ⟨rfl, rfl⟩ := isPlaced.selected inside isBlock selects below
  rfl

/-- The question is not refused: the request is for the network, the address can be
read, and the block is selected. -/
theorem accepted (asks : AsksBalance service chain node account number request)
    (followed : chain.FollowedBy node) (ofNode : ground.OfNode node) (cause : ServiceError) :
    ¬ BalanceRefusal ground service request cause := by
  obtain ⟨identifier, tag, -, accepted, isTag, -, -⟩ := asks.below
  obtain ⟨top, below, inside, isTop⟩ := asks.top
  obtain ⟨selector, isBlock, selects⟩ := asks.block
  intro refusal
  cases refusal with
  | unaccepted refused => exact nomatch accepted.symm.trans refused
  | untagged isAccepted refused =>
    obtain rfl := Except.ok.inj (accepted.symm.trans isAccepted)
    exact nomatch isTag.symm.trans refused
  | unparsed refused =>
    rw [asks.account, Address.parse_display] at refused
    exact nomatch refused
  | unknownPart isName unknown =>
    rw [asks.account] at isName
    exact nomatch isName
  | late isLate => exact followed.synced.not_late ofNode isLate
  | place tagged refusal =>
    obtain ⟨isHead, refusal⟩ := refusal
    obtain rfl := (isTop _ tagged).head_eq followed ofNode isHead
    rw [isBlock] at refusal
    exact followed.truthful.point_accepted ofNode below inside selects refusal
  | nameless tagged placed hashless =>
    obtain rfl := asks.point followed ofNode tagged placed
    exact hash_some (Nat.le_trans (Nat.le_of_lt below) inside) hashless
  | notMultisig asked => exact nomatch asks.part_eq asked

/-- All its calls are answered, if the node tells the actor of the account. -/
theorem call_told (asks : AsksBalance service chain node account number request)
    (followed : chain.FollowedBy node) (ofNode : ground.OfNode node)
    (tells : node.Tells (.actor account (chain.tipset (number + 1)).key)) {call : Node.Call}
    {site : CallSite} (ofBalance : BalanceCall ground service request call site) :
    node.Tells call := by
  obtain ⟨top, below, inside, isTop⟩ := asks.top
  cases ofBalance with
  | progress => exact followed.synced.tells
  | place tagged ofPlace =>
    cases ofPlace with
    | head => exact (isTop _ tagged).head_told followed
    | point isHead ofPoint =>
      obtain rfl := (isTop _ tagged).head_eq followed ofNode isHead
      have isRooted : chain.Rooted top :=
        ⟨inside, fun isZero => absurd below (isZero ▸ Nat.not_lt_zero number)⟩
      exact followed.pointCall_told ofNode isRooted ofPoint
  | actor tagged placed parsed =>
    obtain rfl := asks.point followed ofNode tagged placed
    obtain rfl := asks.address_eq parsed
    exact tells
  | part tagged placed parsed asked => exact nomatch asks.part_eq asked

end AsksBalance

/-- The balance at a tipset is the one in the state of the next tipset. -/
theorem balance_told (followed : chain.FollowedBy node)
    (ledger : Ledger service.directory node chain) (owned : ledger.owner account = some account)
    {request : Request BalanceQuery}
    (asks : AsksBalance service chain node account number request) (session : Session) :
    ∃ balance, ((service.accountBalance request).run.run node session).1 = .ok balance ∧
      balance.amount = ledger.balance (number + 1) account := by
  obtain ⟨top, below, inside, -⟩ := asks.top
  have tells := (ledger.tells · (number + 1) account (Nat.le_trans below inside) owned)
  have ofNode := Ground.ofNode_since node []
  have course : Course (.since node []) _ _ _ (service.accountBalance request).run :=
    Course.accountBalance service request
  obtain ⟨balance, isOk, found⟩ := (course.ended session).1.succeeds (asks.accepted followed ofNode)
    fun _ _ => asks.call_told followed ofNode fun past => ⟨_, tells past⟩
  refine ⟨balance, isOk, ?_⟩
  generalize calls node (service.accountBalance request).run session = made at found
  obtain ⟨tagged, parsed, asked, placed, names, read⟩ := found
  obtain rfl := asks.point followed ofNode tagged placed
  obtain rfl := asks.address_eq parsed
  obtain rfl := asks.part_eq asked
  obtain ⟨actor, isTold, amount⟩ := read.whole_eq
  obtain ⟨past, answer⟩ := ofNode isTold
  obtain rfl := Except.ok.inj (answer.symm.trans (tells past))
  exact amount

/-! ## Blocks -/

/-- The block of a tipset tells what the messages of the tipset before it moved. -/
theorem block_told (followed : chain.FollowedBy node) (ledger : Ledger service.directory node chain)
    (inside : number < chain.last) {request : Request BlockSelector}
    (asks : AsksBlock service chain (number + 1) request) (session : Session)
    (coherent : service.directory.Coherent node ledger.answers session.cache) :
    ∃ block, ((service.block request).run.run node session).1 = .ok (some block) ∧
      ∀ account : Address,
        Operation.totalOf (account.text service.directory.network)
            (block.transactions.flatMap Transaction.operations) =
          Invocation.movesAll ledger.owner account (ledger.executed number).invocations := by
  obtain ⟨network, ⟨index, hash⟩⟩ := request
  obtain ⟨⟨identifier, accepted⟩, selects⟩ := asks
  obtain rfl : index = some (chain.tipset (number + 1)).height := selects.height
  obtain ⟨told, tells, total⟩ := Directory.sends_told ledger.steady ledger.resolved
    (ledger.executed number).invocations (ledger.plain number inside)
  let kept := service.directory.Coherent node ledger.answers
  have ofNode := Ground.ofNode_on node kept service.directory
  have course : Course (.on node kept service.directory) _ _ _ (service.block _).run :=
    Course.block service ⟨network, ⟨some (chain.tipset (number + 1)).height, hash⟩⟩
      fun invocations _ inherited => inherited.transactions invocations
  have computes : chain.Computes node :=
    fun past number below => ⟨_, ledger.computes past number below⟩
  have ended := (course.meets_on (fun uses session => uses.coherent session) session coherent).1.1
  obtain ⟨block, isOk, found⟩ := ended.succeeds
    (fun cause refusal => (followed.told.block_refused ofNode accepted refusal).not_selected
      inside selects)
    fun _ _ => followed.told.blockCall_told ofNode computes
  generalize calls node (service.block _).run session = made at found
  cases found with
  | nullRound isIndex isFound =>
    obtain rfl := Option.some.inj isIndex
    exact nomatch (followed.told.finds ofNode isFound).unique inside selects
  | block isIndex isFound isMade =>
    obtain rfl := Option.some.inj isIndex
    obtain rfl := Option.some.inj ((followed.told.finds ofNode isFound).unique inside selects)
    refine ⟨_, isOk, ?_⟩
    obtain ⟨parent, parentCalls, executionCalls, -, executed, -, -⟩ := isMade.found
    generalize Block.transactions _ = transactions at executed ⊢
    cases executed with
    | first isFirst => exact absurd isFirst (chain.height_pos inside)
    | executed child computed finds =>
      obtain ⟨before, same, below, rfl⟩ := hasParent inside child
      obtain rfl := Nat.succ.inj same
      obtain ⟨past, answer⟩ := computed
      obtain rfl := Except.ok.inj (answer.symm.trans (ledger.computes past number inside))
      obtain ⟨⟨earlier, known, isRun⟩, -⟩ := finds
      rw [isRun, (tells earlier known).1]
      exact total

/-! ## Balances and blocks -/

/-- On a chain of plain sends, the balance at a tipset below the head differs from
the balance at the tipset before it by the amounts of the account's operations in
the block of the tipset after it. A block tells the executions of the tipset before
it, and a balance at a tipset is read from the state behind its executions, which is
where the shift by one comes from. -/
theorem balances_reconcile (service : Service) (anyOrigin : Bool) (followed : chain.FollowedBy node)
    (ledger : Ledger service.directory node chain) (owned : ledger.owner account = some account)
    {first second : Request BalanceQuery} {third : Request BlockSelector}
    (asksBefore : AsksBalance service chain node account number first)
    (asksAfter : AsksBalance service chain node account (number + 1) second)
    (asksBlock : AsksBlock service chain (number + 2) third)
    (beforeFirst beforeSecond beforeThird : List HttpRequest) :
    let session := service.sessionAfter anyOrigin node
    ∃ before after block,
      ((service.accountBalance first).run.run node (session beforeFirst)).1 = .ok before ∧
      ((service.accountBalance second).run.run node (session beforeSecond)).1 = .ok after ∧
      ((service.block third).run.run node (session beforeThird)).1 = .ok (some block) ∧
      after.amount.atto - before.amount.atto =
        Operation.totalOf (account.text service.directory.network)
          (block.transactions.flatMap Transaction.operations) := by
  intro session
  obtain ⟨identifier, tag, top, -, -, isTop, below⟩ := asksAfter.below
  have inside : number + 1 < chain.last := Nat.lt_of_lt_of_le below isTop.inside
  obtain ⟨before, beforeTold, beforeAmount⟩ :=
    balance_told followed ledger owned asksBefore (session beforeFirst)
  obtain ⟨after, afterTold, afterAmount⟩ :=
    balance_told followed ledger owned asksAfter (session beforeSecond)
  have coherent := service.sessionAfter_coherent anyOrigin node ledger.answers beforeThird
  obtain ⟨block, blockTold, total⟩ := block_told followed ledger inside asksBlock _ coherent
  refine ⟨before, after, block, beforeTold, afterTold, blockTold, ?_⟩
  have changes : (ledger.balance (number + 2) account).atto =
      (ledger.balance (number + 1) account).atto + _ :=
        ledger.changes (number + 1) account inside owned
  rw [beforeAmount, afterAmount, total account, changes]
  omega

end

/-! ## One payment on three tipsets -/

namespace Payment

/-- The account that pays. -/
def payer : Address := .secp256k1 ⟨List.replicate 20 1, rfl⟩

/-- The account that is paid. -/
def payee : Address := .secp256k1 ⟨List.replicate 20 2, rfl⟩

/-- Both accounts have a number besides their key. -/
def owner : Owner := fun address =>
  if address = payer ∨ address = .id 101 then some payer
  else if address = payee ∨ address = .id 102 then some payee
  else none

/-- The code of both accounts. -/
def code : Cid := .v1 Cid.rawCodec ⟨Cid.identityCode, [7], by decide⟩

/-- The service, which knows the code. -/
def service : Service where
  registry := ⟨[⟨16, [(code, .account)]⟩]⟩
  networkName := "calibnet"
  options := ⟨false, false⟩

/-- The number that stands for the code in a key is one byte, which is short
enough for a key. -/
theorem key_length_le (number : Nat) : [UInt8.ofNat number].length ≤ 64 := by
  simp

/-- The keys of the tipsets. -/
def key (number : Nat) : TipsetKey :=
  ⟨[.v1 Cid.dagCbor ⟨Cid.identityCode, [UInt8.ofNat number], key_length_le number⟩]⟩

/-- Tipsets of one block at each height. -/
def tipset (number : Nat) : Tipset where
  key := key number
  blocks := [⟨.id 1, if number = 0 then .empty else key (number - 1), Int64.ofNat number, 0⟩]
  height := Int64.ofNat number

/-- The tipsets at the heights from zero to two. -/
def chain : Chain where
  tipset := tipset
  last := 2
  start := rfl
  rising := by decide
  named := fun _ _ => rfl
  linked := fun _ _ => rfl

/-- The payment is a message of the tipset at height one. -/
def executed (number : Nat) : ComputedState where
  root := .default
  invocations :=
    if number = 1 then
      [{ messageCid := .default
         message := ⟨0, payee, .id 101, 0, ⟨100⟩, 0, 0, 0, 0, [], none⟩
         receipt := none
         error := ""
         gasCost := ⟨none, 0, 0, 0, 0, 0, 0, 0⟩
         trace := some (.node ⟨.id 101, payee, ⟨100⟩, 0, [], 0⟩ ⟨0, [], 0⟩ []) }]
    else []

/-- The state of the tipset at height two is the first one after the payment. -/
def actor (number : Nat) (account : Address) : Option ActorState :=
  some ⟨code, .default, 0,
    if account = payer then (if number = 2 then ⟨400⟩ else ⟨500⟩)
    else (if number = 2 then ⟨100⟩ else ⟨0⟩), none⟩

/-- What the node answers. -/
def answers : Node.Answers := chain.tell fun
  | .syncState => .ok ⟨[⟨1, none, some (tipset 2), .complete, 2, ""⟩], 0⟩
  | .actor address asked =>
      .ok ((owner address).bind (actor (if asked = key 2 then 2 else 0)))
  | .accountKey address _ =>
      match owner address with
      | some account => .ok account
      | none => .error .unreachable
  | .computeState _ asked => .ok (executed (if asked = key 1 then 1 else 0))
  | _ => .error .unreachable

/-- The sample node follows the chain of the sample. -/
theorem followed : chain.FollowedBy (.constant answers) := by
  have distinct : ∀ first, first < 3 → ∀ second, second < 3 → key first = key second →
      first = second := by
    decide
  refine chain.tell_followed (fun _ _ => rfl) ?_ ?_
  · intro past
    exact ⟨_, _, rfl, rfl, rfl⟩
  · intro first second below under same
    exact distinct first (Nat.lt_succ_of_le below) second (Nat.lt_succ_of_le under) same

/-- The addresses of both accounts: each has its own, and the
one with its number. -/
theorem owner_cases {address account : Address} (owns : owner address = some account) :
    (account = payer ∧ (address = payer ∨ address = .id 101)) ∨
      (account = payee ∧ (address = payee ∨ address = .id 102)) := by
  unfold owner at owns
  split at owns
  · rename_i ofPayer
    exact .inl ⟨(Option.some.inj owns).symm, ofPayer⟩
  · split at owns
    · rename_i ofPayee
      exact .inr ⟨(Option.some.inj owns).symm, ofPayee⟩
    · cases owns

/-- The node resolves the addresses of both accounts to the text
of the account itself. -/
theorem resolved (address account : Address) (owns : owner address = some account) :
    service.directory.keyOf answers address = .ok (account.text service.directory.network) := by
  rcases owner_cases owns with ⟨rfl, rfl | rfl⟩ | ⟨rfl, rfl | rfl⟩
  · rfl
  · rfl
  · rfl
  · rfl

/-- The payment as the node tells it. -/
def ledger : Ledger service.directory (.constant answers) chain where
  owner := owner
  answers := answers
  steady := fun address _ _ => Node.constant_steady answers address
  resolved := resolved
  actor := actor
  tells := by
    intro past number account below owns
    have told : answers (.actor account (key number)) =
        .ok ((owner account).bind (actor (if key number = key 2 then 2 else 0))) := rfl
    change answers (.actor account (key number)) = _
    rw [told, owns]
    match number, below with
    | 0, _ => rfl
    | 1, _ => rfl
    | 2, _ => rfl
  executed := executed
  computes := by
    intro past number below
    match number, below with
    | 0, _ => rfl
    | 1, _ => rfl
  plain := by
    intro number below invocation member
    match number, below with
    | 0, _ => exact absurd member List.not_mem_nil
    | 1, _ =>
      obtain rfl := List.mem_singleton.mp member
      exact ⟨rfl, _, _, rfl, rfl, rfl, ⟨payer, rfl⟩, ⟨payee, rfl⟩⟩
  changes := by
    intro number account below owns
    match number, below with
    | 0, _ =>
      rcases owner_cases owns with ⟨rfl, -⟩ | ⟨rfl, -⟩
      · rfl
      · rfl
    | 1, _ =>
      rcases owner_cases owns with ⟨rfl, -⟩ | ⟨rfl, -⟩
      · rfl
      · rfl

/-- The network of all questions. -/
def network : NetworkIdentifier := ⟨blockchainName, "calibnet", none⟩

/-- The question for the balance of the account that is paid. -/
def balanceAt (number : Nat) : Request BalanceQuery :=
  ⟨some network, ⟨payee.text service.directory.network, none⟩,
    some ⟨some (tipset number).height, none⟩⟩

/-- The question for a block. -/
def blockAt (number : Nat) : Request BlockSelector :=
  ⟨some network, some (tipset number).height, none⟩

/-- Balances can be asked for below the head, where the state behind
a tipset is known. -/
theorem asksBalance {number : Nat} (below : number < 2) :
    AsksBalance service chain (.constant answers) payee number (balanceAt number) where
  below := ⟨network, .latest, 2, rfl, rfl, rfl, below⟩
  account := rfl
  block := ⟨_, rfl, rfl, fun _ impossible => nomatch impossible⟩

/-- Blocks can be asked for at each height by the height alone. -/
theorem asksBlock (number : Nat) : AsksBlock service chain number (blockAt number) where
  accepted := ⟨network, rfl⟩
  block := ⟨rfl, fun _ impossible => nomatch impossible⟩

end Payment

/-- The payment is in the balance at height one, and in the block at height two. -/
theorem payment_reconciles :
    let node := Node.constant Payment.answers
    let session := Payment.service.sessionAfter false node []
    ∃ before after block,
      ((Payment.service.accountBalance (Payment.balanceAt 0)).run.run node session).1 = .ok before ∧
      ((Payment.service.accountBalance (Payment.balanceAt 1)).run.run node session).1 = .ok after ∧
      ((Payment.service.block (Payment.blockAt 2)).run.run node session).1 = .ok (some block) ∧
      after.amount.atto - before.amount.atto =
        Operation.totalOf (Payment.payee.text Payment.service.directory.network)
          (block.transactions.flatMap Transaction.operations) :=
  balances_reconcile Payment.service false Payment.followed Payment.ledger rfl
    (Payment.asksBalance (by decide)) (Payment.asksBalance (by decide))
    (Payment.asksBlock 2) [] [] []

/-- The payment is in the balance at height one, but not in the
block at height one. -/
theorem payment_not_in_own_block :
    let node := Node.constant Payment.answers
    let session := Payment.service.sessionAfter false node []
    Payment.chain.FollowedBy node ∧
      (∃ ledger : Ledger Payment.service.directory node Payment.chain,
        ledger.owner Payment.payee = some Payment.payee) ∧
      AsksBalance Payment.service Payment.chain node Payment.payee 0 (Payment.balanceAt 0) ∧
      AsksBalance Payment.service Payment.chain node Payment.payee 1 (Payment.balanceAt 1) ∧
      AsksBlock Payment.service Payment.chain 1 (Payment.blockAt 1) ∧
      ∃ before after block,
        ((Payment.service.accountBalance (Payment.balanceAt 0)).run.run node session).1 =
          .ok before ∧
        ((Payment.service.accountBalance (Payment.balanceAt 1)).run.run node session).1 =
          .ok after ∧
        ((Payment.service.block (Payment.blockAt 1)).run.run node session).1 = .ok (some block) ∧
        after.amount.atto - before.amount.atto = 100 ∧
        Operation.totalOf (Payment.payee.text Payment.service.directory.network)
          (block.transactions.flatMap Transaction.operations) = 0 := by
  intro node session
  have owned : Payment.ledger.owner Payment.payee = some Payment.payee := rfl
  have asksBefore : AsksBalance Payment.service Payment.chain node Payment.payee 0 _ :=
    Payment.asksBalance (by decide)
  have asksAfter : AsksBalance Payment.service Payment.chain node Payment.payee 1 _ :=
    Payment.asksBalance (by decide)
  have inside : 0 < Payment.chain.last := by decide
  have coherent := Payment.service.sessionAfter_coherent false node Payment.ledger.answers []
  obtain ⟨before, beforeTold, beforeAmount⟩ :=
    balance_told Payment.followed Payment.ledger owned asksBefore session
  obtain ⟨after, afterTold, afterAmount⟩ :=
    balance_told Payment.followed Payment.ledger owned asksAfter session
  obtain ⟨block, blockTold, total⟩ :=
    block_told Payment.followed Payment.ledger inside (Payment.asksBlock 1) session coherent
  refine ⟨Payment.followed, ⟨Payment.ledger, owned⟩, asksBefore, asksAfter, Payment.asksBlock 1,
    before, after, block, beforeTold, afterTold, blockTold, ?_, ?_⟩
  · rw [beforeAmount, afterAmount]
    rfl
  · rw [total Payment.payee]
    rfl

end FilecoinRosetta.Chain
