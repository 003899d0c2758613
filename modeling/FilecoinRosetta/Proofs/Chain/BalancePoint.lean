import FilecoinRosetta.Proofs.Chain.Points

/-!
# Where balances are read

A node may fail to answer, but as far as it answers questions about tipsets it tells
the truth about a chain. Then a balance that is told is the one in the state of the
tipset right after the reported one, however heights are left out, and the height
right above a tipset is only computed where there is a greater height.
-/

namespace FilecoinRosetta

namespace Chain

open Program Rosetta Rosetta.Service

/-- As far as the node answers questions about tipsets, it tells the chain. -/
structure Honest (chain : Chain) (node : Node) : Prop where
  /-- Heads are on the chain. -/
  head : ∀ past tipset, node.answer past .chainHead = .ok tipset →
    ∃ top, top ≤ chain.last ∧ tipset = chain.tipset top
  /-- So are the heads of tags. -/
  tagged : ∀ past tag tipset, node.answer past (.tipsetOfTag tag) = .ok tipset →
    ∃ top, top ≤ chain.last ∧ tipset = chain.tipset top
  /-- Keys name tipsets. -/
  byKey : ∀ past number tipset, number ≤ chain.last →
    node.answer past (.tipset (chain.tipset number).key) = .ok tipset → tipset = chain.tipset number
  /-- From any tipset on, heights down the chain are told. -/
  atOrBelow : ∀ past base height number tipset, base ≤ chain.last →
    chain.LastUpTo base height number →
    node.answer past (.tipsetAtOrBelow height (chain.tipset base).key) = .ok tipset →
    tipset = chain.tipset number
  /-- From any tipset on, heights up the chain are told. -/
  atOrAbove : ∀ past base height number tipset, base ≤ chain.last →
    chain.FirstFrom base height number →
    node.answer past (.tipsetAtOrAbove height (chain.tipset base).key) = .ok tipset →
    tipset = chain.tipset number

/-- The node took a tipset for the head, as final as a tag asks for. -/
def TookForHead (chain : Chain) (node : Node) (tag : Node.TipsetTag) (top : Nat) : Prop :=
  match tag with
  | .latest => ∃ past, node.answer past .chainHead = .ok (chain.tipset top)
  | tag => ∃ past, node.answer past (.tipsetOfTag tag) = .ok (chain.tipset top)

/-- What an account's balance was read from. -/
structure Reads (chain : Chain) (node : Node) (account : AccountIdentifier) (state : Nat)
    (amount : TokenAmount) (made : List Node.Call) : Prop where
  /-- No other state is read. -/
  only : ∀ call ∈ made, ∀ key, call.stateKey? = some key → key = (chain.tipset state).key
  /-- The actor of the account is read. The balance of a whole account is the
  one of its actor. -/
  actor : ∃ address, Address.parse account.address = .ok address ∧
    .actor address (chain.tipset state).key ∈ made ∧
    (account.subAccount = none → ∃ past found,
      node.answer past (.actor address (chain.tipset state).key) = .ok found ∧
        amount = (found.map ActorState.balance).getD 0)

variable {chain : Chain} {node : Node}

/-- A node that follows a chain is honest, if the heads of tags are on
the chain as well. -/
theorem FollowedBy.honest (followed : chain.FollowedBy node)
    (tagged : ∀ past tag tipset, node.answer past (.tipsetOfTag tag) = .ok tipset →
      ∃ top, top ≤ chain.last ∧ tipset = chain.tipset top) : chain.Honest node where
  head past tipset answer := by
    rw [followed.head] at answer
    exact ⟨chain.last, Nat.le_refl _, (Except.ok.inj answer).symm⟩
  tagged := tagged
  byKey := followed.truthful.byKey
  atOrBelow := followed.truthful.atOrBelow
  atOrAbove := followed.truthful.atOrAbove

/-- An honest node tells the truth from any tipset of the chain on. -/
theorem Honest.truthful (honest : chain.Honest node) : chain.Truthful node where
  byKey := honest.byKey
  atOrBelow := honest.atOrBelow
  atOrAbove := honest.atOrAbove

/-- What an honest node tells as the head is a tipset of the chain. -/
theorem Honest.tookForHead (honest : chain.Honest node) {ground : Ground}
    (ofNode : ground.OfNode node) {tag : Node.TipsetTag} {head : Tipset}
    (isHead : ground.Head tag head) :
    ∃ top, top ≤ chain.last ∧ chain.TookForHead node tag top ∧ head = chain.tipset top := by
  cases tag with
  | latest =>
    obtain ⟨past, answer⟩ := ofNode isHead
    obtain ⟨top, inside, rfl⟩ := honest.head past head answer
    exact ⟨top, inside, ⟨past, answer⟩, rfl⟩
  | safe | finalized =>
    obtain ⟨past, answer⟩ := ofNode isHead
    obtain ⟨top, inside, rfl⟩ := honest.tagged past _ head answer
    exact ⟨top, inside, ⟨past, answer⟩, rfl⟩

/-! ## Calls -/

/-- The calls after which the point of a balance is found read no state. -/
theorem point_quiet {ground : Ground} {tag : Node.TipsetTag} {block : Option BlockSelector}
    {point : BalancePoint} {made : List Node.Call}
    (placed : PlaceFound ground tag block point made) :
    ∀ call ∈ made, call.stateKey? = none := by
  have ofHead {head : Tipset} {point : BalancePoint} {made : List Node.Call}
      (found : HeadPoint ground head point made) : ∀ call ∈ made, call.stateKey? = none := by
    cases found with
    | first unlinked => exact List.forall_mem_nil _
    | parent linked told => exact List.forall_mem_singleton.mpr rfl
  obtain ⟨isHead, found⟩ := placed
  refine List.forall_mem_cons.mpr ⟨headCall_quiet tag, ?_⟩
  cases found with
  | unasked found => exact ofHead found
  | unselected found => exact ofHead found
  | atHead isRequested same found => exact List.forall_mem_cons.mpr ⟨rfl, ofHead found⟩
  | below isRequested other isChild =>
    exact List.forall_mem_cons.mpr ⟨rfl, List.forall_mem_singleton.mpr rfl⟩

/-- What an account has is read from one state, whichever part of it is asked for.
No call behind the first one names another state. -/
theorem amount_reads {ground : Ground} {service : Service} {address : Address} {state : Tipset}
    {part : Option SubAccount} {found : TokenAmount × Option VestingSchedule}
    {made : List Node.Call} (read : AmountFound ground service address state part found made) :
    ∀ call ∈ made, call.stateKey? = some state.key := by
  cases read with
  | whole told => exact List.forall_mem_singleton.mpr rfl
  | @part actor part found told isMultisig ofPart =>
    refine List.forall_mem_cons.mpr ⟨rfl, List.forall_mem_singleton.mpr ?_⟩
    cases part <;> rfl

/-- The actor of the account is read first, in the state at which
the balance is told. -/
theorem amount_actor {ground : Ground} {service : Service} {address : Address} {state : Tipset}
    {part : Option SubAccount} {found : TokenAmount × Option VestingSchedule}
    {made : List Node.Call} (read : AmountFound ground service address state part found made) :
    .actor address state.key ∈ made := by
  cases read with
  | whole told => exact List.mem_cons_self
  | part told isMultisig ofPart => exact List.mem_cons_self

/-! ## Balances -/

section Balances

variable {ground : Ground} {service : Service} {request : Request BalanceQuery}

/-- A balance that is found is read from the child of the block
it is reported for. -/
theorem Honest.balance (honest : chain.Honest node) (ofNode : ground.OfNode node)
    (first : ∀ key, (chain.tipset 0).parents? = some key → key.isEmpty = true) {balance : Balance}
    {made : List Node.Call} (found : BalanceFound ground service request balance made) :
    ∃ identifier tag top reported state, service.accept request.network = .ok identifier ∧
      service.finalityTag identifier = .ok tag ∧ top ≤ chain.last ∧ chain.TookForHead node tag top ∧
      chain.Placed top request.wanted.block reported state ∧
      balance.block = chain.identifier reported ∧
      chain.Reads node request.wanted.account state balance.amount made := by
  obtain ⟨⟨accepted, isTag⟩, parsed, asked, placed, names, read⟩ := found
  have quiet := point_quiet placed
  obtain ⟨isHead, found⟩ := placed
  obtain ⟨top, inside, took, rfl⟩ := honest.tookForHead ofNode isHead
  obtain ⟨reported, state, isPlaced, rfl⟩ :=
    honest.truthful.placed ofNode (rooted first inside) found
  rw [names_iff (Nat.le_trans isPlaced.inside.1 inside)] at names
  refine ⟨_, _, top, reported, state, accepted, isTag, inside, took, isPlaced, names, ?_⟩
  constructor
  case only =>
    intro call member key isKey
    rcases List.mem_cons.mp member with rfl | member
    · exact nomatch isKey
    · rcases List.mem_append.mp member with ofPoint | ofRead
      · exact nomatch (quiet call ofPoint).symm.trans isKey
      · exact Option.some.inj (isKey.symm.trans (amount_reads read call ofRead))
  case actor =>
    refine ⟨_, parsed, List.mem_cons_of_mem _ (List.mem_append_right _ (amount_actor read)), ?_⟩
    intro whole
    obtain rfl := asked.whole_only whole
    obtain ⟨actor, isTold, amount⟩ := read.whole_eq
    obtain ⟨past, answer⟩ := ofNode isTold
    exact ⟨past, actor, answer, amount⟩

/-- A call that looks for a tipset up the chain is one that finds the point of a
balance. It looks right above the tipset that was told for the selected height, and
only if that one is not at the height of the head. -/
theorem next_of_call {height : Int64} {key : TipsetKey} {site : CallSite}
    (ofBalance : BalanceCall ground service request (.tipsetAtOrAbove height key) site) :
    ∃ tag head, ground.Head tag head ∧
      PointCall ground head request.wanted.block (.tipsetAtOrAbove height key) site := by
  generalize asks : Node.Call.tipsetAtOrAbove height key = call at ofBalance ⊢
  cases ofBalance with
  | progress => exact nomatch asks
  | @place tag _ _ tagged ofPlace =>
    cases ofPlace with
    | head => cases tag <;> exact nomatch asks
    | point isHead ofPoint => exact ⟨_, _, isHead, ofPoint⟩
  | actor tagged placed parsed => exact nomatch asks
  | @part tag point made address part tagged placed parsed asked =>
    cases part <;> exact nomatch asks

/-- A tipset is only looked for up the chain right above one
below the last tipset. -/
theorem Honest.above (honest : chain.Honest node) (ofNode : ground.OfNode node)
    (first : ∀ key, (chain.tipset 0).parents? = some key → key.isEmpty = true) {height : Int64}
    {key : TipsetKey} {site : CallSite}
    (ofBalance : BalanceCall ground service request (.tipsetAtOrAbove height key) site) :
    ∃ number, number < chain.last ∧ height.toInt = (chain.tipset number).height.toInt + 1 := by
  obtain ⟨tag, head, isHead, ofPoint⟩ := next_of_call ofBalance
  obtain ⟨top, inside, -, rfl⟩ := honest.tookForHead ofNode isHead
  exact (honest.truthful.pointCall ofNode (rooted first inside) tag ofPoint).above inside

/-- The height above a requested tipset is exact on every node, honest or not, that
tells no tipset above the height it was asked for. Only a node that breaks this
could make it overflow. -/
theorem next_height_exact (service : Service) (request : Request BalanceQuery) (node : Node)
    (atOrBelow : ∀ past height key tipset, node.answer past (.tipsetAtOrBelow height key) =
      .ok tipset → tipset.height ≤ height)
    (session : Session) {height : Int64} {key : TipsetKey}
    (asked : .tipsetAtOrAbove height key ∈
      (service.accountBalance request).run.calls node session) :
    ∃ past index requested, node.answer past (.tipsetAtOrBelow index key) = .ok requested ∧
      height.toInt = requested.height.toInt + 1 := by
  have ofNode := Ground.ofNode_since node []
  have course : Course (.since node []) _ _ _ (service.accountBalance request).run :=
    Course.accountBalance service request
  obtain ⟨site, ofBalance⟩ := (course.ended session).2 _ asked
  obtain ⟨tag, head, isHead, ofPoint⟩ := next_of_call ofBalance
  cases ofPoint with
  | next isBlock isRequested other =>
    obtain ⟨past, answer⟩ := ofNode isRequested.told
    have upTo := Int64.le_trans (atOrBelow past _ _ _ answer) (Int64.not_lt.mp isRequested.upToHead)
    exact ⟨past, _, _, answer, toInt_succ _ _ (Int64.lt_of_le_of_ne upTo other)⟩

end Balances

/-- A balance is read from the child of the block it is reported for, as the request
selects it. Heights below zero and above the head are refused, and the height above
a tipset never overflows. All of it is read off the course of the endpoint, where a
head on the chain can be the only one that is told. -/
theorem balances_placed (service : Service) (honest : chain.Honest node)
    (first : ∀ key, (chain.tipset 0).parents? = some key → key.isEmpty = true)
    (request : Request BalanceQuery) (session : Session) :
    let program := (service.accountBalance request).run
    (∀ balance, (program.run node session).1 = .ok balance →
      ∃ identifier tag top reported state,
        service.accept request.network = .ok identifier ∧
        service.finalityTag identifier = .ok tag ∧
        top ≤ chain.last ∧ chain.TookForHead node tag top ∧
        chain.Placed top request.wanted.block reported state ∧
        ((chain.tipset state).parents? = some (chain.tipset reported).key ∨
          (top = 0 ∧ reported = 0 ∧ state = 0)) ∧
        balance.block = chain.identifier reported ∧
        chain.Reads node request.wanted.account state balance.amount (program.calls node session)) ∧
    (∀ index hash, request.wanted.block = some ⟨some index, hash⟩ →
      (index < 0 ∨ ∀ identifier tag top, service.accept request.network = .ok identifier →
        service.finalityTag identifier = .ok tag → chain.TookForHead node tag top →
        (chain.tipset top).height < index) →
      ∃ cause, (program.run node session).1 = .error cause) ∧
    ∀ height key, .tipsetAtOrAbove height key ∈ program.calls node session →
      ∃ number, number < chain.last ∧ height.toInt = (chain.tipset number).height.toInt + 1 := by
  intro program
  have ofNode := Ground.ofNode_since node []
  have course : Course (.since node []) _ _ _ program := Course.accountBalance service request
  obtain ⟨ended, asks⟩ := course.ended session
  have told (balance : Balance) (isOk : (program.run node session).1 = .ok balance) := by
    rw [isOk] at ended
    cases ended with
    | found isFound => exact honest.balance ofNode first isFound
  refine ⟨?_, ?_, ?_⟩
  · intro balance isOk
    obtain ⟨identifier, tag, top, reported, state, accepted, tagged, inside, took, placed, rest⟩ :=
      told balance isOk
    exact ⟨identifier, tag, top, reported, state, accepted, tagged, inside, took, placed,
      placed.child inside, rest⟩
  · intro index hash selected refused
    cases result : (program.run node session).1 with
    | error cause => exact ⟨cause, rfl⟩
    | ok balance =>
      obtain ⟨identifier, tag, top, reported, state, accepted, tagged, -, took, placed, -⟩ :=
        told balance result
      rw [selected] at placed
      rcases refused with below | above
      · exact absurd below placed.chosen.1
      · exact absurd (above identifier tag top accepted tagged took) placed.chosen.2
  · intro height key asked
    obtain ⟨site, ofBalance⟩ := asks _ asked
    exact honest.above ofNode first ofBalance

/-- The question for the balance of an account at the null round. -/
def Skipping.balanceAtNullRound : Request BalanceQuery :=
  ⟨some network, ⟨⟨"f0100", none⟩, some ⟨some 2, none⟩⟩⟩

/-- At the null round the balance is that of the tipset before it, read from the
state of the tipset after it. -/
theorem skipping_placed :
    let node := Node.constant Skipping.answers
    let program := (Skipping.service.accountBalance Skipping.balanceAtNullRound).run
    ∃ balance, (program.run node .fresh).1 = .ok balance ∧
      balance.block = Skipping.chain.identifier 1 ∧
      Skipping.chain.Reads node Skipping.balanceAtNullRound.wanted.account 2 balance.amount
        (program.calls node .fresh) := by
  intro node program
  have honest : Skipping.chain.Honest node :=
    Skipping.followed.honest fun _ _ _ impossible => nomatch impossible
  have first : ∀ key, (Skipping.chain.tipset 0).parents? = some key → key.isEmpty = true := by
    intro key same
    obtain rfl := Option.some.inj same
    rfl
  have reported : ∃ balance, ((Skipping.service.accountBalance Skipping.balanceAtNullRound).run.run
      (.constant Skipping.answers) .fresh).1 = .ok balance := ⟨_, rfl⟩
  obtain ⟨balance, isOk⟩ := reported
  obtain ⟨identifier, tag, top, reported, state, accepted, tagged, inside, took, placed, -,
      block, reads⟩ :=
    (balances_placed Skipping.service honest first Skipping.balanceAtNullRound .fresh).1
      balance isOk
  -- The head is the third tipset, and the second one is the last tipset up to
  -- height two.
  obtain rfl : Skipping.network = identifier := Except.ok.inj accepted
  obtain rfl : .latest = tag := Except.ok.inj tagged
  obtain ⟨past, answer⟩ := took
  obtain rfl : 2 = top :=
    Skipping.chain.height_injective (Nat.le_refl 2) inside
      (congrArg Tipset.height (Except.ok.inj answer))
  cases placed with
  | atHead chosen => exact absurd chosen.isLast.reached (by decide)
  | below chosen below =>
    match reported, below with
    | 0, _ => exact absurd (chosen.isLast.passed 1 (by decide) (by decide)) (by decide)
    | 1, _ => exact ⟨balance, isOk, block, reads⟩

end Chain

end FilecoinRosetta
