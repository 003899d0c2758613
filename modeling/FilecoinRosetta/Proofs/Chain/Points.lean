import FilecoinRosetta.Proofs.Chain.Blocks
import FilecoinRosetta.Proofs.Rosetta.Courses.Balances

/-!
# Points of a chain

The course of a request for a balance says from which answers the point is found at
which the balance is read. On a node whose answers are true of a chain this point is
one of the chain: a tipset that is reported and the one after it, whose state is
read. Both are up to the head that the request starts from, and so is everything
that is asked for on the way.
-/

namespace FilecoinRosetta

/-- The key of the tipset whose state a call reads. -/
def Node.Call.stateKey? : Node.Call → Option TipsetKey
  | .actor _ key => some key
  | .accountKey _ key => some key
  | .idAddress _ key => some key
  | .robustAddress _ key => some key
  | .availableBalance _ key => some key
  | .vestingSchedule _ key => some key
  | _ => none

namespace Chain

open Program Rosetta Rosetta.Service

/-! ## Points and the calls for them -/

/-- A height up to that of a head selects the last tipset at or below it, whose
hash may be given. -/
structure Chosen (chain : Chain) (top : Nat) (index : Int64) (hash : Option String) (number : Nat) :
    Prop where
  /-- The height is not below zero. -/
  nonneg : ¬ index < 0
  /-- It is not above the head. -/
  upToHead : ¬ (chain.tipset top).height < index
  /-- No tipset up to the height comes later. -/
  isLast : chain.LastUpTo top index number
  /-- The hash is its own. -/
  matching : ∀ given, hash = some given → given = (chain.identifier number).hash

/-- The tipset that a balance is reported for and the one whose state is
read, below a head. -/
inductive Placed (chain : Chain) (top : Nat) :
    Option BlockSelector → (reported state : Nat) → Prop where
  /-- Nothing is selected: the head is read for its parent. The first tipset has
  none and is reported itself. -/
  | unasked : Placed chain top none (top - 1) top
  /-- A selector that selects nothing is no different. -/
  | unselected : Placed chain top (some ⟨none, none⟩) (top - 1) top
  /-- Nor is the head any different from nothing. -/
  | atHead {index : Int64} {hash : Option String} (chosen : chain.Chosen top index hash top) :
      Placed chain top (some ⟨some index, hash⟩) (top - 1) top
  /-- Below the head, the next tipset is read for the one selected. -/
  | below {index : Int64} {hash : Option String} {number : Nat}
      (chosen : chain.Chosen top index hash number) (below : number < top) :
      Placed chain top (some ⟨some index, hash⟩) number (number + 1)

/-- A call about nothing above a tipset that a tag selects. -/
inductive UpTo (chain : Chain) (tag : Node.TipsetTag) (top : Nat) : Node.Call → Prop where
  /-- How far the node is. -/
  | progress : UpTo chain tag top .syncState
  /-- The tipset of the tag. -/
  | tagged : UpTo chain tag top (.tipsetOfTag tag)
  /-- A tipset up to it by its key. -/
  | byKey {number : Nat} (inside : number ≤ top) :
      UpTo chain tag top (.tipset (chain.tipset number).key)
  /-- Its chain at one of the heights up to its own. -/
  | atOrBelow {height : Int64} (nonneg : ¬ height < 0)
      (inside : ¬ (chain.tipset top).height < height) :
      UpTo chain tag top (.tipsetAtOrBelow height (chain.tipset top).key)
  /-- Its chain right above a tipset below it. -/
  | next {number : Nat} (below : number < top) :
      UpTo chain tag top
        (.tipsetAtOrAbove ((chain.tipset number).height + 1) (chain.tipset top).key)
  /-- An actor at a tipset up to it. -/
  | actor {number : Nat} (inside : number ≤ top) (address : Address) :
      UpTo chain tag top (.actor address (chain.tipset number).key)
  /-- What a multisig may spend at a tipset up to it. -/
  | spendable {number : Nat} (inside : number ≤ top) (address : Address) :
      UpTo chain tag top (.availableBalance address (chain.tipset number).key)
  /-- How the balance of a multisig is released at a tipset up to it. -/
  | vesting {number : Nat} (inside : number ≤ top) (address : Address) :
      UpTo chain tag top (.vestingSchedule address (chain.tipset number).key)

variable {chain : Chain} {node : Node} {tag : Node.TipsetTag} {top : Nat}

/-- The tipset whose state is read was made on the reported one, or both are the
first tipset and the head. -/
theorem Placed.child {block : Option BlockSelector} {reported state : Nat}
    (placed : chain.Placed top block reported state) (inside : top ≤ chain.last) :
    (chain.tipset state).parents? = some (chain.tipset reported).key ∨
      (top = 0 ∧ reported = 0 ∧ state = 0) := by
  have ofHead : (chain.tipset top).parents? = some (chain.tipset (top - 1)).key ∨
      (top = 0 ∧ top - 1 = 0 ∧ top = 0) := by
    cases top with
    | zero => exact .inr ⟨rfl, rfl, rfl⟩
    | succ number => exact .inl (chain.linked number inside)
  cases placed with
  | unasked => exact ofHead
  | unselected => exact ofHead
  | atHead chosen => exact ofHead
  | below chosen below => exact .inl (chain.linked _ (Nat.lt_of_lt_of_le below inside))

/-- What is selected at another height than that of the head is below the head. -/
theorem Chosen.below_head {index : Int64} {hash : Option String} {number : Nat}
    (chosen : chain.Chosen top index hash number)
    (other : (chain.tipset number).height ≠ (chain.tipset top).height) : number < top := by
  rcases Nat.lt_or_eq_of_le chosen.isLast.inside with below | rfl
  · exact below
  · exact absurd rfl other

/-- A height that is selected is neither below zero nor above the head. Such heights
are refused, so no balance is placed there. -/
theorem Placed.chosen {index : Int64} {hash : Option String} {reported state : Nat}
    (placed : chain.Placed top (some ⟨some index, hash⟩) reported state) :
    ¬ index < 0 ∧ ¬ (chain.tipset top).height < index := by
  cases placed with
  | atHead chosen => exact ⟨chosen.nonneg, chosen.upToHead⟩
  | below chosen below => exact ⟨chosen.nonneg, chosen.upToHead⟩

/-- No tipset that is reported or read is above the head, so a balance at a
tag stays below it. -/
theorem Placed.inside {block : Option BlockSelector} {reported state : Nat}
    (placed : chain.Placed top block reported state) : reported ≤ top ∧ state ≤ top := by
  cases placed with
  | unasked => exact ⟨Nat.sub_le top 1, Nat.le_refl top⟩
  | unselected => exact ⟨Nat.sub_le top 1, Nat.le_refl top⟩
  | atHead chosen => exact ⟨Nat.sub_le top 1, Nat.le_refl top⟩
  | below chosen below => exact ⟨Nat.le_of_lt below, below⟩

/-- Where a tipset below the head is selected, it is the one that is reported, and
the next one is read. -/
theorem Placed.selected {block : Option BlockSelector} {reported state number : Nat}
    {selector : BlockSelector} (placed : chain.Placed top block reported state)
    (inside : top ≤ chain.last) (isBlock : block = some selector)
    (selects : Selects (chain.tipset number) selector) (below : number < top) :
    reported = number ∧ state = number + 1 := by
  subst isBlock
  have own := chain.lastUpTo_own (Nat.le_of_lt below) inside
  cases placed with
  | unselected => exact nomatch selects.height
  | atHead chosen =>
    obtain rfl := Option.some.inj selects.height
    exact absurd (chain.height_lt below inside) (Int64.not_lt.mpr chosen.isLast.reached)
  | below chosen _ =>
    obtain rfl := Option.some.inj selects.height
    have same := (chain.lastFrom_exact chosen.isLast).symm.trans (chain.lastFrom_exact own)
    exact ⟨same, congrArg (· + 1) same⟩

/-- A tipset that is looked for up the chain is looked for right above one
below the last tipset. The height to look at is one more than that of a tipset
and does not overflow. -/
theorem UpTo.above {height : Int64} {key : TipsetKey}
    (upTo : chain.UpTo tag top (.tipsetAtOrAbove height key)) (inside : top ≤ chain.last) :
    ∃ number, number < chain.last ∧ height.toInt = (chain.tipset number).height.toInt + 1 := by
  cases upTo with
  | next below =>
    exact ⟨_, Nat.lt_of_lt_of_le below inside, toInt_succ _ _ (chain.height_lt below inside)⟩

/-- No state is read to find the head, so the first call is not among those that
balances are read from. -/
theorem headCall_quiet (tag : Node.TipsetTag) : (headCall tag).stateKey? = none := by
  cases tag <;> rfl

/-- No state is read to find out where a balance is read. -/
theorem place_quiet {ground : Ground} {block : Option BlockSelector} {call : Node.Call}
    {site : CallSite} (ofPlace : PlaceCall ground tag block call site) : call.stateKey? = none := by
  cases ofPlace with
  | head => exact headCall_quiet tag
  | point isHead ofPoint => cases ofPoint <;> rfl

/-! ## Nodes that tell the truth -/

/-- As far as the node answers questions about tipsets from a tipset of the chain
on, it tells the chain. -/
structure Truthful (chain : Chain) (node : Node) : Prop where
  /-- Keys name tipsets. -/
  byKey : ∀ past number tipset, number ≤ chain.last →
    node.answer past (.tipset (chain.tipset number).key) = .ok tipset → tipset = chain.tipset number
  /-- From any tipset on, heights down the chain are told. -/
  atOrBelow : ∀ past base height number tipset, base ≤ chain.last →
    chain.LastUpTo base height number →
    node.answer past (.tipsetAtOrBelow height (chain.tipset base).key) = .ok tipset →
    tipset = chain.tipset number
  /-- From any tipset on, heights up the chain are told. -/
  atOrAbove : ∀ past base height number tipset, base ≤ chain.last →
    chain.FirstFrom base height number →
    node.answer past (.tipsetAtOrAbove height (chain.tipset base).key) = .ok tipset →
    tipset = chain.tipset number

/-- A node that follows a chain tells the truth about it. Balances need no more than
that, so they may be read from other nodes too. -/
theorem FollowedBy.truthful (followed : chain.FollowedBy node) : chain.Truthful node where
  byKey past number tipset inside answer := by
    rw [followed.byKey past number inside] at answer
    exact (Except.ok.inj answer).symm
  atOrBelow past base height number tipset inside isLast answer := by
    rw [followed.atOrBelow past base height number inside isLast] at answer
    exact (Except.ok.inj answer).symm
  atOrAbove past base height number tipset inside isFirst answer := by
    rw [followed.atOrAbove past base height number inside isFirst] at answer
    exact (Except.ok.inj answer).symm

/-- A head on the chain that names no other parent than the tipset before it. -/
structure Rooted (chain : Chain) (top : Nat) : Prop where
  /-- It is on the chain. -/
  inside : top ≤ chain.last
  /-- Only the first tipset has none before it, and it was made on none. -/
  first : top = 0 → parentKey? (chain.tipset 0) = none

/-- Every head is rooted where the first tipset was made on none. -/
theorem rooted (first : ∀ key, (chain.tipset 0).parents? = some key → key.isEmpty = true)
    (inside : top ≤ chain.last) : chain.Rooted top :=
  ⟨inside, fun _ => parentKey_first first⟩

/-- The parent of a rooted head is the tipset before it. If the head is the first
tipset, it names no parent. -/
theorem Rooted.parent (isRooted : chain.Rooted top) {key : TipsetKey}
    (linked : parentKey? (chain.tipset top) = some key) :
    ∃ number, top = number + 1 ∧ key = (chain.tipset number).key := by
  cases top with
  | zero => exact nomatch (isRooted.first rfl).symm.trans linked
  | succ number =>
    rw [parentKey_linked isRooted.inside] at linked
    exact ⟨number, rfl, (Option.some.inj linked).symm⟩

namespace Truthful

variable {ground : Ground} {block : Option BlockSelector} {point : BalancePoint}
  {made : List Node.Call}

/-- What is requested from a head on is the tipset that is selected. -/
theorem requested (truthful : chain.Truthful node) (ofNode : ground.OfNode node)
    (inside : top ≤ chain.last) {index : Int64} {hash : Option String} {tipset : Tipset}
    (requested : ground.Requested (chain.tipset top) index hash tipset) :
    ∃ number, chain.Chosen top index hash number ∧ tipset = chain.tipset number := by
  have isLast := chain.lastFrom_upTo requested.nonneg inside
  obtain ⟨past, answer⟩ := ofNode requested.told
  obtain rfl := truthful.atOrBelow past top index _ tipset inside isLast answer
  refine ⟨_, ⟨requested.nonneg, requested.upToHead, isLast, ?_⟩, rfl⟩
  intro given isGiven
  have named := requested.hash given isGiven
  rw [identifier_hash (Nat.le_trans isLast.inside inside)] at named
  exact (Option.some.inj named).symm

/-- The head is read for the tipset before it: a state is that after the
tipset below was executed. -/
theorem headPoint (truthful : chain.Truthful node) (ofNode : ground.OfNode node)
    (isRooted : chain.Rooted top) (found : HeadPoint ground (chain.tipset top) point made) :
    point = ⟨chain.tipset (top - 1), chain.tipset top⟩ := by
  cases found with
  | first unlinked =>
    cases top with
    | zero => rfl
    | succ number =>
      rw [parentKey_linked isRooted.inside] at unlinked
      exact nomatch unlinked
  | parent linked told =>
    obtain ⟨number, rfl, rfl⟩ := isRooted.parent linked
    obtain ⟨past, answer⟩ := ofNode told
    rw [truthful.byKey past number _ (Nat.le_of_succ_le isRooted.inside) answer]
    rfl

/-- A balance is read on the chain: at the tipset after the one
it is reported for. -/
theorem placed (truthful : chain.Truthful node) (ofNode : ground.OfNode node)
    (isRooted : chain.Rooted top) (found : PointFound ground (chain.tipset top) block point made) :
    ∃ reported state, chain.Placed top block reported state ∧
      point = ⟨chain.tipset reported, chain.tipset state⟩ := by
  cases found with
  | unasked ofHead => exact ⟨_, _, .unasked, truthful.headPoint ofNode isRooted ofHead⟩
  | unselected ofHead => exact ⟨_, _, .unselected, truthful.headPoint ofNode isRooted ofHead⟩
  | atHead isRequested same ofHead =>
    obtain ⟨number, chosen, rfl⟩ := truthful.requested ofNode isRooted.inside isRequested
    have upTo := Nat.le_trans chosen.isLast.inside isRooted.inside
    obtain rfl := chain.height_injective upTo isRooted.inside same
    exact ⟨_, _, .atHead chosen, truthful.headPoint ofNode isRooted ofHead⟩
  | below isRequested other isChild =>
    obtain ⟨number, chosen, rfl⟩ := truthful.requested ofNode isRooted.inside isRequested
    have below := chosen.below_head other
    obtain ⟨past, answer⟩ := ofNode isChild
    obtain rfl := truthful.atOrAbove past top _ (number + 1) _ isRooted.inside
      (chain.firstFrom_next below isRooted.inside) answer
    exact ⟨_, _, .below chosen below, rfl⟩

/-- Nothing above the head is asked for to find the point, and no state is read. -/
theorem pointCall (truthful : chain.Truthful node) (ofNode : ground.OfNode node)
    (isRooted : chain.Rooted top) (tag : Node.TipsetTag) {call : Node.Call} {site : CallSite}
    (ofPoint : PointCall ground (chain.tipset top) block call site) : chain.UpTo tag top call := by
  cases ofPoint with
  | parent linked =>
    obtain ⟨number, rfl, rfl⟩ := isRooted.parent linked
    exact .byKey (Nat.le_succ number)
  | requested isBlock nonneg upToHead => exact .atOrBelow nonneg upToHead
  | next isBlock isRequested other =>
    obtain ⟨number, chosen, rfl⟩ := truthful.requested ofNode isRooted.inside isRequested
    exact .next (chosen.below_head other)

end Truthful

end Chain

end FilecoinRosetta
