import FilecoinRosetta.Proofs.Chain.Blocks
import FilecoinRosetta.Proofs.Rosetta.Courses.Network

/-!
# Walking down a chain

A client that reads a whole chain starts at the block that the network's status
names and asks for the parent of every block it gets, by height and hash, until a
block is its own parent. On a node that tells a chain such a walk never fails. It
passes every tipset once, whatever heights are left out, and on its way every tipset
but the head has its messages executed once.
-/

namespace FilecoinRosetta.Chain

open Program Rosetta Rosetta.Service

/-- Blocks asked for by their identifiers, each one the parent of the one before,
down to one that is its own parent. -/
inductive Descent (service : Service) (node : Node) (network : Option NetworkIdentifier) :
    BlockIdentifier → Session → List Block → Session → Prop where
  /-- The block is its own parent. -/
  | ends {identifier : BlockIdentifier} {before after : Session} {block : Block}
      (told : (service.block ⟨network, ⟨some identifier.index, some identifier.hash⟩⟩).run.run node
        before = (.ok (some block), after))
      (isRoot : block.parent = identifier) :
      Descent service node network identifier before [block] after
  /-- The parent is asked for next. -/
  | goesOn {identifier : BlockIdentifier} {before after last : Session} {block : Block}
      {rest : List Block}
      (told : (service.block ⟨network, ⟨some identifier.index, some identifier.hash⟩⟩).run.run node
        before = (.ok (some block), after))
      (notRoot : block.parent ≠ identifier)
      (follows : Descent service node network block.parent after rest last) :
      Descent service node network identifier before (block :: rest) last

/-- A walk over the tipsets from a number down to the first one. -/
structure Covers (chain : Chain) (service : Service) (node : Node) (number : Nat) (before : Session)
    (blocks : List Block) (after : Session) : Prop where
  /-- The blocks of these tipsets, each one once and the highest first. -/
  identifiers : blocks.map Block.identifier =
    (List.range (number + 1)).reverse.map chain.identifier
  /-- No block comes twice. -/
  once : (blocks.map Block.identifier).Nodup
  /-- Each of them tells its tipset. -/
  tells : ∀ block ∈ blocks, ∃ told, told ≤ chain.last ∧ chain.TellsBlock service node told block
  /-- The messages of all these tipsets but the highest one are executed on the way,
  once and at the height of the next tipset. -/
  executed : after.calls.filter Node.Call.isExecution =
    before.calls.filter Node.Call.isExecution ++ (List.range number).reverse.map fun below =>
      .computeState (chain.tipset (below + 1)).height (chain.tipset below).key

/-- Another hash is given for a height than that of its tipset. -/
def OtherHash (chain : Chain) (index : Int64) (hash : Option String) : Prop :=
  ∃ number, number ≤ chain.last ∧ (chain.tipset number).height = index ∧
    ∃ given, hash = some given ∧ (chain.identifier number).hash ≠ given

/-- What requests for the blocks at all heights come to. -/
structure HeightsTold (chain : Chain) (service : Service) (node : Node)
    (network : Option NetworkIdentifier) : Prop where
  belowZero : ∀ index hash session,
    (∃ cause, ((service.block ⟨network, ⟨some index, hash⟩⟩).run.run node session).1 =
      .error cause ∧
      cause.kind = .malformedValue) ↔ index < 0
  aboveHead : ∀ index hash session,
    (∃ cause, ((service.block ⟨network, ⟨some index, hash⟩⟩).run.run node session).1 =
      .error cause ∧
      cause.kind = .blockNotSynced) ↔ (chain.tipset chain.last).height < index
  otherHash : ∀ index hash session,
    (∃ cause, ((service.block ⟨network, ⟨some index, hash⟩⟩).run.run node session).1 =
      .error cause ∧
      cause.kind = .hashMismatch) ↔ chain.OtherHash index hash
  nullRound : ∀ index hash session,
    ((service.block ⟨network, ⟨some index, hash⟩⟩).run.run node session).1 = .ok none ↔
      chain.NullRound index
  tipset : ∀ number, number ≤ chain.last → ∀ index hash session,
    Selects (chain.tipset number) ⟨some index, hash⟩ →
      ∃ block, ((service.block ⟨network, ⟨some index, hash⟩⟩).run.run node session).1 =
        .ok (some block) ∧ chain.TellsBlock service node number block

variable {chain : Chain} {service : Service} {node : Node} {network : Option NetworkIdentifier}
  {identifier : NetworkIdentifier} {index : Int64} {hash : Option String}

/-! ## Heights -/

/-- The height of a tipset is neither below zero nor above the head. -/
theorem height_between {number : Nat} (inside : number ≤ chain.last)
    (height : (chain.tipset number).height = index) :
    ¬ index < 0 ∧ ¬ (chain.tipset chain.last).height < index := by
  subst height
  exact ⟨chain.height_nonneg inside, Int64.not_lt.mpr (chain.height_le inside (Nat.le_refl _))⟩

/-- No height is both below zero and above the head, so the
refusals exclude each other. -/
theorem not_below_and_above : ¬ (index < 0 ∧ (chain.tipset chain.last).height < index) := by
  rintro ⟨below, above⟩
  exact chain.height_nonneg (Nat.le_refl chain.last) (Int64.lt_trans above below)

namespace Refuses

variable {kind : ErrorKind}

/-- Below zero the value is malformed, and nowhere else, so this error tells the
lower end of the chain. -/
theorem malformed_iff (refuses : chain.Refuses index hash kind) :
    kind = .malformedValue ↔ index < 0 := by
  cases refuses with
  | belowZero below => exact iff_of_true rfl below
  | aboveHead above =>
    exact iff_of_false (fun other => nomatch other) fun below => not_below_and_above ⟨below, above⟩
  | otherHash inside height isGiven differs =>
    exact iff_of_false (fun other => nomatch other) (height_between inside height).1

/-- Above the head the block is not there yet, and nowhere else. -/
theorem unsynced_iff (refuses : chain.Refuses index hash kind) :
    kind = .blockNotSynced ↔ (chain.tipset chain.last).height < index := by
  cases refuses with
  | belowZero below =>
    exact iff_of_false (fun other => nomatch other) fun above => not_below_and_above ⟨below, above⟩
  | aboveHead above => exact iff_of_true rfl above
  | otherHash inside height isGiven differs =>
    exact iff_of_false (fun other => nomatch other) (height_between inside height).2

/-- Only at the height of a tipset the hash matters. At a null round there is
nothing to compare it with. -/
theorem mismatch_iff (refuses : chain.Refuses index hash kind) :
    kind = .hashMismatch ↔ chain.OtherHash index hash := by
  cases refuses with
  | belowZero below =>
    refine iff_of_false (fun other => nomatch other) ?_
    rintro ⟨number, inside, height, -⟩
    exact (height_between inside height).1 below
  | aboveHead above =>
    refine iff_of_false (fun other => nomatch other) ?_
    rintro ⟨number, inside, height, -⟩
    exact (height_between inside height).2 above
  | otherHash inside height isGiven differs =>
    exact iff_of_true rfl ⟨_, inside, height, _, isGiven, differs⟩

/-- At heights without a tipset nothing is refused. Null rounds have an answer of
their own, which is no block. -/
theorem not_null (refuses : chain.Refuses index hash kind) : ¬ chain.NullRound index := by
  intro isNull
  cases refuses with
  | belowZero below => exact isNull.nonneg below
  | aboveHead above => exact isNull.upToHead above
  | otherHash inside height isGiven differs => exact isNull.skipped _ inside height

end Refuses

namespace TellsHeight

variable {found : Option Block} {made : List Node.Call}

/-- A height of which something is told is neither below zero nor above the head,
and no other hash is given for it. -/
theorem not_refused (tells : chain.TellsHeight service node index hash found made) :
    ¬ index < 0 ∧ ¬ (chain.tipset chain.last).height < index ∧ ¬ chain.OtherHash index hash := by
  cases tells with
  | block inside selects =>
    have height := (Option.some.inj selects.height).symm
    refine ⟨(height_between inside height).1, (height_between inside height).2, ?_⟩
    rintro ⟨number, inChain, same, given, isGiven, differs⟩
    obtain rfl := chain.height_injective inside inChain (height.trans same.symm)
    have known := selects.hash given isGiven
    rw [identifier_hash inside] at known
    exact differs (Option.some.inj known)
  | nullRound isNull =>
    refine ⟨isNull.nonneg, isNull.upToHead, ?_⟩
    rintro ⟨number, inChain, same, -⟩
    exact isNull.skipped number inChain same

/-- There is no block exactly where there is no tipset, so null rounds can be
told from everything else. -/
theorem none_iff (tells : chain.TellsHeight service node index hash found made) :
    found = none ↔ chain.NullRound index := by
  cases tells with
  | block inside selects =>
    refine iff_of_false (fun none => nomatch none) fun isNull => ?_
    exact isNull.skipped _ inside (Option.some.inj selects.height).symm
  | nullRound isNull => exact iff_of_true rfl isNull

/-- Where a tipset is selected, its block is told, with the calls that this
takes and no others. -/
theorem selected (tells : chain.TellsHeight service node index hash found made) {number : Nat}
    (inside : number ≤ chain.last) (selects : Selects (chain.tipset number) ⟨some index, hash⟩) :
    ∃ block, found = some block ∧ chain.TellsBlock service node number block ∧
      made = chain.executions number := by
  obtain rfl := Option.some.inj selects.height
  cases tells with
  | block inChain other tellsBlock =>
    obtain rfl := chain.height_injective inside inChain (Option.some.inj other.height)
    exact ⟨_, rfl, tellsBlock, rfl⟩
  | nullRound isNull => exact absurd rfl (isNull.skipped number inside)

end TellsHeight

section

variable (service) (told : chain.ToldBy node) (computes : chain.Computes node)
  (accepted : service.accept network = .ok identifier)

include told computes accepted

/-- What a selector of a tipset is answered: the block of that tipset, whatever is
known of addresses before. -/
theorem block_selected {number : Nat} (inside : number ≤ chain.last)
    (selects : Selects (chain.tipset number) ⟨some index, hash⟩) (before : Session) :
    ∃ block after, (service.block ⟨network, ⟨some index, hash⟩⟩).run.run node before =
        (.ok (some block), after) ∧ chain.TellsBlock service node number block ∧
      after.calls.filter Node.Call.isExecution =
        before.calls.filter Node.Call.isExecution ++ chain.executions number := by
  obtain ⟨tells, refuses⟩ := block_settles service told computes accepted index hash before
  have made := run_calls node (service.block ⟨network, ⟨some index, hash⟩⟩).run before
  cases comesTo : (service.block ⟨network, ⟨some index, hash⟩⟩).run.run node before with
  | mk found after =>
    rw [comesTo] at tells refuses made
    cases found with
    | ok found =>
      obtain ⟨block, rfl, tellsBlock, executed⟩ := (tells found rfl).selected inside selects
      refine ⟨block, after, rfl, tellsBlock, ?_⟩
      rw [made, List.filter_append, executed]
    | error cause => exact ((refuses cause rfl).not_selected inside selects).elim

/-- A height is refused for a reason exactly where a condition says
so, if the condition is that of the reason and holds of no height of
which something is told. -/
theorem refused_iff {kind : ErrorKind} {condition : Prop}
    (refused : ∀ other, chain.Refuses index hash other → (other = kind ↔ condition))
    (notTold : ∀ found made, chain.TellsHeight service node index hash found made → ¬ condition)
    (session : Session) :
    (∃ cause, ((service.block ⟨network, ⟨some index, hash⟩⟩).run.run node session).1 =
      .error cause ∧
      cause.kind = kind) ↔ condition := by
  obtain ⟨tells, refuses⟩ := block_settles service told computes accepted index hash session
  cases found : ((service.block ⟨network, ⟨some index, hash⟩⟩).run.run node session).1 with
  | ok block =>
    refine iff_of_false ?_ (notTold block _ (tells block found))
    rintro ⟨cause, impossible, -⟩
    exact nomatch impossible
  | error cause =>
    rw [← refused cause.kind (refuses cause found)]
    constructor
    · rintro ⟨other, same, isKind⟩
      obtain rfl := Except.error.inj same
      exact isKind
    · intro isKind
      exact ⟨cause, rfl, isKind⟩

/-- Every height is answered by what there is at it: an error below zero and above
the head, no block at a null round, the block of a tipset elsewhere, unless the
hash is another one. -/
theorem heights_told : chain.HeightsTold service node network where
  belowZero _ _ session :=
    refused_iff service told computes accepted (fun _ => Refuses.malformed_iff)
    (fun _ _ tells => tells.not_refused.1) session
  aboveHead _ _ session :=
    refused_iff service told computes accepted (fun _ => Refuses.unsynced_iff)
    (fun _ _ tells => tells.not_refused.2.1) session
  otherHash _ _ session :=
    refused_iff service told computes accepted (fun _ => Refuses.mismatch_iff)
    (fun _ _ tells => tells.not_refused.2.2) session
  nullRound index hash session := by
    obtain ⟨tells, refuses⟩ := block_settles service told computes accepted index hash session
    cases found : ((service.block ⟨network, ⟨some index, hash⟩⟩).run.run node session).1 with
    | ok block =>
      rw [Except.ok.injEq]
      exact (tells block found).none_iff
    | error cause => exact iff_of_false (fun none => nomatch none) (refuses cause found).not_null
  tipset number inside index hash session selects := by
    obtain ⟨block, after, comesTo, tells, -⟩ :=
      block_selected service told computes accepted inside selects session
    exact ⟨block, congrArg Prod.fst comesTo, tells⟩

/-! ## The walk -/

omit told computes accepted in
/-- The identifiers of some tipsets in a row are different ones, so a walk along
parents passes no tipset twice. -/
theorem identifiers_nodup {number : Nat} (inside : number ≤ chain.last) :
    ((List.range (number + 1)).reverse.map chain.identifier).Nodup := by
  have inChain : ∀ other ∈ List.range (number + 1), other ≤ chain.last := by
    intro other member
    exact Nat.le_trans (Nat.le_of_lt_succ (List.mem_range.mp member)) inside
  rw [List.Nodup, List.map_reverse, List.pairwise_reverse, List.pairwise_map]
  refine List.Pairwise.imp_of_mem ?_ List.nodup_range
  intro first second firstMember secondMember different same
  exact different
    (identifier_injective (inChain first firstMember) (inChain second secondMember) same.symm)

/-- From the identifier of any tipset a walk covers it and all tipsets before it. -/
theorem descends {number : Nat} (inside : number ≤ chain.last) (before : Session) :
    ∃ blocks after, Descent service node network (chain.identifier number) before blocks after ∧
      chain.Covers service node number before blocks after := by
  induction number generalizing before with
  | zero =>
    obtain ⟨block, after, comesTo, tells, executed⟩ :=
      block_selected service told computes accepted inside (selects_identifier inside) before
    have identifiers : [block].map Block.identifier =
        (List.range (0 + 1)).reverse.map chain.identifier :=
      congrArg (fun told => [told]) tells.identifier
    refine ⟨[block], after, .ends comesTo tells.parent, ?_⟩
    exact {
      identifiers := identifiers
      once := identifiers ▸ identifiers_nodup inside
      tells := fun only member => ⟨0, inside, List.mem_singleton.mp member ▸ tells⟩
      executed := executed }
  | succ number ih =>
    have lower : number ≤ chain.last := Nat.le_of_succ_le inside
    obtain ⟨block, middle, comesTo, tells, executed⟩ :=
      block_selected service told computes accepted inside (selects_identifier inside) before
    have parent : block.parent = chain.identifier number := tells.parent
    have notRoot : block.parent ≠ chain.identifier (number + 1) := by
      intro same
      rw [parent] at same
      exact Nat.ne_of_lt (Nat.lt_succ_self number) (identifier_injective lower inside same)
    obtain ⟨rest, after, follows, covers⟩ := ih lower middle
    have identifiers : (block :: rest).map Block.identifier =
        (List.range (number + 1 + 1)).reverse.map chain.identifier := by
      rw [List.map_cons, tells.identifier, covers.identifiers, List.range_succ (n := number + 1)]
      rw [List.reverse_append]
      rfl
    refine ⟨block :: rest, after, .goesOn comesTo notRoot (parent ▸ follows), ?_⟩
    exact {
      identifiers := identifiers
      once := identifiers ▸ identifiers_nodup inside
      tells := by
        rw [List.forall_mem_cons]
        exact ⟨⟨number + 1, inside, tells⟩, covers.tells⟩
      executed := by
        rw [covers.executed, executed, List.range_succ, List.reverse_append, List.append_assoc]
        rfl }

/-! ## Where walks start -/

/-- The node does not tell the first tipset when it is asked for it, or keeps
its peers to itself. -/
def Withholds (chain : Chain) (node : Node) : Prop :=
  ∃ past, node.answer past .chainGenesis ≠ .ok (chain.tipset 0) ∨
    ∃ failure, node.answer past .peers = .error failure

omit computes in
/-- The status names the head as the current block, or it cannot be told. Then the
node withholds the first tipset or its peers. -/
theorem networkStatus_ends (tagged : service.finalityTag identifier = .ok .latest)
    (session : Session) :
    match ((service.networkStatus ⟨network, ()⟩).run.run node session).1 with
    | .ok status => status.current = chain.identifier chain.last
    | .error _ => chain.Withholds node := by
  have ofNode := Ground.ofNode_since node []
  -- There is one tag, and the current tipset is the head.
  have current {other : NetworkIdentifier} {tag : Node.TipsetTag} {first current : Tipset}
      (isAccepted : service.accept network = .ok other)
      (isTagged : service.finalityTag other = .ok tag)
      (isCurrent : (Ground.since node []).Current tag first current) :
      current = chain.tipset chain.last := by
    obtain rfl := Except.ok.inj (accepted.symm.trans isAccepted)
    obtain rfl := Except.ok.inj (tagged.symm.trans isTagged)
    obtain ⟨-, status, progress, ⟨-, isHead⟩ | ⟨notSynced, -⟩⟩ := isCurrent
    · exact told.head_eq ofNode isHead
    · exact absurd (told.synced.progress ofNode progress) notSynced
  obtain ⟨ended, -⟩ := (Course.networkStatus service ⟨network, ()⟩).ended session
  generalize ((service.networkStatus ⟨network, ()⟩).run.run node session).1 = outcome at ended ⊢
  generalize (service.networkStatus ⟨network, ()⟩).run.calls node session = made at ended
  cases ended with
  | found isGood =>
    obtain ⟨isAccepted, isTagged, isCurrent, names⟩ := isGood
    obtain rfl := current isAccepted isTagged isCurrent
    exact (names_iff (Nat.le_refl _)).mp names
  | refused isRefusal =>
    cases isRefusal with
    | unaccepted refused => exact nomatch accepted.symm.trans refused
    | untagged isAccepted refused =>
      obtain rfl := Except.ok.inj (accepted.symm.trans isAccepted)
      exact nomatch tagged.symm.trans refused
    | stalled isStalled =>
      have isLate : (Ground.since node []).Late .blockNotSynced _ := .stalled isStalled
      exact (told.synced.not_late ofNode isLate).elim
    | nameless isAccepted isTagged isCurrent hashless =>
      obtain rfl := current isAccepted isTagged isCurrent
      rcases hashless with hashless | hashless
      · exact absurd hashless (hash_some (Nat.le_refl _))
      · obtain ⟨past, answer⟩ := ofNode isCurrent.isGenesis
        refine ⟨past, .inl fun same => ?_⟩
        obtain rfl := Except.ok.inj (answer.symm.trans same)
        exact absurd hashless (hash_some (Nat.zero_le _))
  | @failed made call site past failure isMade mayAsk answer =>
    cases mayAsk with
    | progress => exact (told.synced.tells.not_failed answer).elim
    | genesis =>
      refine ⟨past, .inl ?_⟩
      rw [answer]
      exact fun impossible => nomatch impossible
    | head isAccepted isTagged =>
      obtain rfl := Except.ok.inj (accepted.symm.trans isAccepted)
      obtain rfl := Except.ok.inj (tagged.symm.trans isTagged)
      exact nomatch (told.head past).symm.trans answer
    | peers => exact ⟨past, .inr ⟨failure, answer⟩⟩

/-- Every height of a chain is answered by what there is at it, and from the current
block of the network's status the parents lead once over all tipsets down to the
first one. The walk is an induction on the number of the tipset: the parent that a
block tells is the identifier of the tipset before. -/
theorem blocks_chained :
    chain.HeightsTold service node network ∧
      (service.finalityTag identifier = .ok .latest → ∀ session,
        match (service.networkStatus ⟨network, ()⟩).run.run node session with
        | (.ok status, before) => status.current = chain.identifier chain.last ∧
            ∃ blocks after, Descent service node network status.current before blocks after ∧
              chain.Covers service node chain.last before blocks after
        | (.error _, _) => chain.Withholds node) := by
  constructor
  · exact heights_told service told computes accepted
  · intro tagged session
    have ends := networkStatus_ends service told accepted tagged session
    cases comesTo : (service.networkStatus ⟨network, ()⟩).run.run node session with
    | mk found before =>
      rw [comesTo] at ends
      cases found with
      | ok status =>
        have current : status.current = chain.identifier chain.last := ends
        refine ⟨current, ?_⟩
        rw [current]
        exact descends service told computes accepted (Nat.le_refl _) before
      | error cause => exact ends

end

/-- On the chain with a null round the status is told, and the walk from it
passes all three tipsets. -/
theorem skipping_chained :
    let node := Node.constant Skipping.answers
    let network := some Skipping.network
    Skipping.chain.HeightsTold Skipping.service node network ∧
      ∃ status before blocks after,
        (Skipping.service.networkStatus ⟨network, ()⟩).run.run node .fresh = (.ok status, before) ∧
        Descent Skipping.service node network status.current before blocks after ∧
        Skipping.chain.Covers Skipping.service node 2 before blocks after := by
  intro node network
  have computes : Skipping.chain.Computes node := fun _ _ _ => ⟨_, rfl⟩
  have accepted : Skipping.service.accept network = .ok Skipping.network := rfl
  obtain ⟨heights, walks⟩ :=
    blocks_chained Skipping.service Skipping.followed.told computes accepted
  have walk := walks rfl .fresh
  refine ⟨heights, ?_⟩
  cases comesTo : (Skipping.service.networkStatus ⟨network, ()⟩).run.run node .fresh with
  | mk found before =>
    rw [comesTo] at walk
    cases found with
    | ok status =>
      obtain ⟨-, blocks, after, descent, covers⟩ := walk
      exact ⟨status, before, blocks, after, rfl, descent, covers⟩
    | error cause =>
      obtain ⟨past, different | ⟨failure, impossible⟩⟩ := walk
      · exact absurd rfl different
      · exact nomatch impossible

end FilecoinRosetta.Chain
