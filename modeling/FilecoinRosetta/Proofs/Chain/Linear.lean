import FilecoinRosetta.Proofs.Program.Outcome

/-!
# Chains and the nodes that tell them

A chain is a row of tipsets, each on top of the one before, from height zero up to
the head. Heights may be left out. A node follows a chain if it is synced and
answers all questions about tipsets from it. Its answers to other questions, and
what it tells about its workers as long as they are done, may change.
-/

namespace FilecoinRosetta

/-- A row of tipsets, counted from the first one. -/
structure Chain where
  /-- The tipset of a number. Numbers above the last one mean nothing. -/
  tipset : Nat → Tipset
  /-- The number of the head. -/
  last : Nat
  /-- The first tipset is at height zero. -/
  start : (tipset 0).height = 0
  /-- Heights rise, by one or more. -/
  rising : ∀ number, number < last → (tipset number).height < (tipset (number + 1)).height
  /-- Keys name blocks. -/
  named : ∀ number, number ≤ last → (tipset number).key.isEmpty = false
  /-- Every tipset after the first one is made on the one before. -/
  linked : ∀ number, number < last →
    (tipset (number + 1)).parents? = some (tipset number).key

/-- One more than a height does not overflow where there is a greater height. -/
theorem toInt_succ (height other : Int64) (below : height < other) :
    (height + 1).toInt = height.toInt + 1 := by
  rw [Int64.lt_iff_toInt_lt] at below
  have least := height.le_toInt
  have most := other.toInt_lt
  have one : (1 : Int64).toInt = 1 := rfl
  rw [Int64.toInt_add, one]
  apply Int.bmod_eq_of_le
  · omega
  · omega

/-- Between a height and a greater one there is room for one more. -/
theorem height_succ (height other : Int64) (below : height < other) :
    height < height + 1 ∧ height + 1 ≤ other := by
  have step := toInt_succ height other below
  rw [Int64.lt_iff_toInt_lt] at below
  rw [Int64.lt_iff_toInt_lt, Int64.le_iff_toInt_le, step]
  omega

namespace Chain

variable (chain : Chain)

/-- A tipset further on is higher. The gap may be more than one,
where rounds are null. -/
theorem height_lt {first second : Nat} (before : first < second) (inside : second ≤ chain.last) :
    (chain.tipset first).height < (chain.tipset second).height := by
  induction second with
  | zero => exact absurd before (Nat.not_lt_zero first)
  | succ second ih =>
    have step := chain.rising second inside
    rcases Nat.lt_or_eq_of_le (Nat.le_of_lt_succ before) with earlier | rfl
    · exact Int64.lt_trans (ih earlier (Nat.le_of_succ_le inside)) step
    · exact step

/-- A tipset further on is not lower, which includes the tipset itself. -/
theorem height_le {first second : Nat} (upTo : first ≤ second) (inside : second ≤ chain.last) :
    (chain.tipset first).height ≤ (chain.tipset second).height := by
  rcases Nat.lt_or_eq_of_le upTo with before | rfl
  · exact Int64.le_of_lt (chain.height_lt before inside)
  · exact Int64.le_refl _

/-- No two tipsets are at one height, so a height stands for one tipset or
for a null round. -/
theorem height_injective {first second : Nat} (firstInside : first ≤ chain.last)
    (secondInside : second ≤ chain.last)
    (same : (chain.tipset first).height = (chain.tipset second).height) : first = second := by
  rcases Nat.lt_trichotomy first second with before | equal | after
  · have lower := chain.height_lt before secondInside
    rw [same] at lower
    exact absurd lower Int64.lt_irrefl
  · exact equal
  · have lower := chain.height_lt after firstInside
    rw [same] at lower
    exact absurd lower Int64.lt_irrefl

/-- The tipsets of an honest chain have heights that are no less than zero, since
the genesis has height zero and each tipset is higher than its parent. -/
theorem height_nonneg {number : Nat} (inside : number ≤ chain.last) :
    ¬ (chain.tipset number).height < 0 := by
  rw [Int64.not_lt, ← chain.start]
  exact chain.height_le (Nat.zero_le number) inside

/-- Every tipset after the first one is above height zero. -/
theorem height_pos {number : Nat} (inside : number < chain.last) :
    (chain.tipset (number + 1)).height ≠ 0 := by
  intro atZero
  have above := chain.height_lt (Nat.succ_pos number) inside
  rw [atZero, chain.start] at above
  exact Int64.lt_irrefl above

/-- The last tipset at a height or below it, up to some tipset. -/
structure LastUpTo (base : Nat) (height : Int64) (number : Nat) : Prop where
  /-- It is not further than that tipset. -/
  inside : number ≤ base
  /-- It is at the height or below it. -/
  reached : (chain.tipset number).height ≤ height
  /-- What follows is above the height. -/
  passed : ∀ later, number < later → later ≤ base → height < (chain.tipset later).height

/-- The first tipset at a height or above it, up to some tipset. -/
structure FirstFrom (base : Nat) (height : Int64) (number : Nat) : Prop where
  /-- It is not further than that tipset. -/
  inside : number ≤ base
  /-- It is at the height or above it. -/
  reached : height ≤ (chain.tipset number).height
  /-- What comes before is below the height. -/
  missed : ∀ earlier, earlier < number → (chain.tipset earlier).height < height

/-- At its own height a tipset is the last one up to there, as the ones
above it are higher. -/
theorem lastUpTo_own {number base : Nat} (inside : number ≤ base) (below : base ≤ chain.last) :
    chain.LastUpTo base (chain.tipset number).height number where
  inside := inside
  reached := Int64.le_refl _
  passed := fun _ after upTo => chain.height_lt after (Nat.le_trans upTo below)

/-- Right above a tipset the next one is the first, however many rounds
between them are null. -/
theorem firstFrom_next {number base : Nat} (inside : number < base) (below : base ≤ chain.last) :
    chain.FirstFrom base ((chain.tipset number).height + 1) (number + 1) where
  inside := inside
  reached :=
    (height_succ _ _ (chain.height_lt (Nat.lt_succ_self number) (Nat.le_trans inside below))).2
  missed := by
    intro earlier before
    have next := chain.height_lt (Nat.lt_succ_self number) (Nat.le_trans inside below)
    have above := (height_succ _ _ next).1
    rcases Nat.lt_or_eq_of_le (Nat.le_of_lt_succ before) with lower | rfl
    · have inChain : number ≤ chain.last := Nat.le_trans (Nat.le_of_lt inside) below
      exact Int64.lt_trans (chain.height_lt lower inChain) above
    · exact above

/-- The node is done with its work. -/
def Synced (node : Node) : Prop :=
  ∀ past, ∃ state status, node.answer past .syncState = .ok state ∧
    SyncStatus.evaluate? state = some status ∧ status.isSynced = true

/-- The node is synced and tells the tipsets of the chain. -/
structure FollowedBy (node : Node) : Prop where
  /-- It is done with its work. -/
  synced : Synced node
  /-- The head is the last tipset. -/
  head : ∀ past, node.answer past .chainHead = .ok (chain.tipset chain.last)
  /-- Keys name tipsets. -/
  byKey : ∀ past number, number ≤ chain.last →
    node.answer past (.tipset (chain.tipset number).key) = .ok (chain.tipset number)
  /-- From any tipset on, heights down the chain are told. -/
  atOrBelow : ∀ past base height number, base ≤ chain.last → chain.LastUpTo base height number →
    node.answer past (.tipsetAtOrBelow height (chain.tipset base).key) = .ok (chain.tipset number)
  /-- From any tipset on, heights up the chain are told. -/
  atOrAbove : ∀ past base height number, base ≤ chain.last → chain.FirstFrom base height number →
    node.answer past (.tipsetAtOrAbove height (chain.tipset base).key) = .ok (chain.tipset number)

/-- The tipset that a node takes for the head, as final as a tag asks for. -/
def TopFor (node : Node) (tag : Node.TipsetTag) (top : Nat) : Prop :=
  match tag with
  | .latest => top = chain.last
  | tag => top ≤ chain.last ∧
      ∀ past, node.answer past (.tipsetOfTag tag) = .ok (chain.tipset top)

/-- No head is above the last tipset, be it the head of the chain or the
one of a tag. -/
theorem TopFor.inside {chain : Chain} {node : Node} {tag : Node.TipsetTag} {top : Nat}
    (isTop : chain.TopFor node tag top) : top ≤ chain.last := by
  cases tag with
  | latest => exact Nat.le_of_eq isTop
  | safe => exact isTop.1
  | finalized => exact isTop.1

/-! ## A node for every chain -/

/-- The number of the tipset of a key, looking down from a number. -/
def numberFrom? (key : TipsetKey) : Nat → Option Nat
  | 0 => if (chain.tipset 0).key = key then some 0 else none
  | number + 1 =>
      if (chain.tipset (number + 1)).key = key then some (number + 1) else numberFrom? key number

/-- The number of the last tipset at a height or below it, looking
down from a number. -/
def lastFrom (height : Int64) : Nat → Nat
  | 0 => 0
  | number + 1 =>
      if (chain.tipset (number + 1)).height ≤ height then number + 1 else lastFrom height number

/-- The number of the first tipset at a height or above it, looking
down from a number. -/
def firstFrom (height : Int64) : Nat → Nat
  | 0 => 0
  | number + 1 =>
      if height ≤ (chain.tipset number).height then firstFrom height number else number + 1

/-- The answers about the tipsets of a chain, and other ones
about everything else. -/
def tell (others : Node.Answers) : Node.Answers
  | .chainHead => .ok (chain.tipset chain.last)
  | .tipset key =>
      match chain.numberFrom? key chain.last with
      | some number => .ok (chain.tipset number)
      | none => .error .unreadable
  | .tipsetAtOrBelow height key =>
      match chain.numberFrom? key chain.last with
      | some base => .ok (chain.tipset (chain.lastFrom height base))
      | none => .error .unreadable
  | .tipsetAtOrAbove height key =>
      match chain.numberFrom? key chain.last with
      | some base => .ok (chain.tipset (chain.firstFrom height base))
      | none => .error .unreadable
  | call => others call

/-- Different keys are told apart, so a tipset is found by its key from
any base above it. -/
theorem numberFrom_key (distinct : ∀ first second, first ≤ chain.last → second ≤ chain.last →
      (chain.tipset first).key = (chain.tipset second).key → first = second)
    {number base : Nat} (below : number ≤ base) (inside : base ≤ chain.last) :
    chain.numberFrom? (chain.tipset number).key base = some number := by
  induction base with
  | zero =>
    obtain rfl := Nat.le_zero.mp below
    rw [numberFrom?, if_pos rfl]
  | succ base ih =>
    rw [numberFrom?]
    by_cases same : (chain.tipset (base + 1)).key = (chain.tipset number).key
    · rw [if_pos same, distinct _ _ inside (Nat.le_trans below inside) same]
    · rw [if_neg same]
      apply ih
      · rcases Nat.lt_or_eq_of_le below with lower | rfl
        · exact Nat.le_of_lt_succ lower
        · exact absurd rfl same
      · exact Nat.le_of_succ_le inside

/-- Looking down finds the last tipset at a height or below it. -/
theorem lastFrom_exact {base number : Nat} {height : Int64}
    (isLast : chain.LastUpTo base height number) : chain.lastFrom height base = number := by
  induction base with
  | zero => exact (Nat.le_zero.mp isLast.inside).symm
  | succ base ih =>
    rw [lastFrom]
    rcases Nat.lt_or_eq_of_le isLast.inside with lower | rfl
    · have above := isLast.passed (base + 1) lower (Nat.le_refl _)
      rw [if_neg (Int64.not_le.mpr above)]
      apply ih
      exact {
        inside := Nat.le_of_lt_succ lower
        reached := isLast.reached
        passed := fun later after upTo => isLast.passed later after (Nat.le_succ_of_le upTo) }
    · rw [if_pos isLast.reached]

/-- Looking down finds a tipset for every height from zero on, as the first
one is at zero. -/
theorem lastFrom_upTo {height : Int64} (nonneg : ¬ height < 0) {base : Nat}
    (inside : base ≤ chain.last) :
    chain.LastUpTo base height (chain.lastFrom height base) := by
  induction base with
  | zero =>
    exact {
      inside := Nat.le_refl 0
      reached := by
        rw [lastFrom, chain.start]
        exact Int64.not_lt.mp nonneg
      passed := fun later after upTo => absurd (Nat.lt_of_lt_of_le after upTo) (Nat.lt_irrefl _) }
  | succ base ih =>
    rw [lastFrom]
    by_cases reached : (chain.tipset (base + 1)).height ≤ height
    · rw [if_pos reached]
      exact {
        inside := Nat.le_refl _
        reached := reached
        passed := fun later after upTo => absurd (Nat.lt_of_lt_of_le after upTo) (Nat.lt_irrefl _) }
    · rw [if_neg reached]
      have lower := ih (Nat.le_of_succ_le inside)
      exact {
        inside := Nat.le_succ_of_le lower.inside
        reached := lower.reached
        passed := by
          intro later after upTo
          rcases Nat.lt_or_eq_of_le upTo with before | rfl
          · exact lower.passed later after (Nat.le_of_lt_succ before)
          · exact Int64.not_le.mp reached }

/-- Looking down finds the first tipset at a height or above it. -/
theorem firstFrom_exact {base number : Nat} {height : Int64} (inside : base ≤ chain.last)
    (isFirst : chain.FirstFrom base height number) : chain.firstFrom height base = number := by
  induction base with
  | zero => exact (Nat.le_zero.mp isFirst.inside).symm
  | succ base ih =>
    rw [firstFrom]
    rcases Nat.lt_or_eq_of_le isFirst.inside with lower | rfl
    · have upTo := Nat.le_of_lt_succ lower
      have reached : height ≤ (chain.tipset base).height :=
        Int64.le_trans isFirst.reached (chain.height_le upTo (Nat.le_of_succ_le inside))
      rw [if_pos reached]
      exact ih (Nat.le_of_succ_le inside) ⟨upTo, isFirst.reached, isFirst.missed⟩
    · have missed := isFirst.missed base (Nat.lt_succ_self base)
      rw [if_neg (Int64.not_le.mpr missed)]

/-- Every chain of different keys is followed by the nodes that tell
it and are synced. -/
theorem tell_followed {node : Node} {others : Node.Answers}
    (tells : ∀ past call, node.answer past call = chain.tell others call)
    (synced : Synced node)
    (distinct : ∀ first second, first ≤ chain.last → second ≤ chain.last →
      (chain.tipset first).key = (chain.tipset second).key → first = second) :
    chain.FollowedBy node where
  synced := synced
  head past := tells past _
  byKey := by
    intro past number inside
    rw [tells, tell, chain.numberFrom_key distinct inside (Nat.le_refl _)]
  atOrBelow := by
    intro past base height number inside isLast
    rw [tells, tell, chain.numberFrom_key distinct inside (Nat.le_refl _)]
    dsimp only
    rw [chain.lastFrom_exact isLast]
  atOrAbove := by
    intro past base height number inside isFirst
    rw [tells, tell, chain.numberFrom_key distinct inside (Nat.le_refl _)]
    dsimp only
    rw [chain.firstFrom_exact inside isFirst]

end Chain

/-! ## A chain with a null round -/

namespace Chain.Skipping

/-- The keys of the tipsets. -/
def key (number : Nat) : TipsetKey :=
  ⟨[.v1 Cid.dagCbor ⟨Cid.identityCode, [UInt8.ofNat number], by simp⟩]⟩

/-- Tipsets of one block. The third one is at height three. -/
def tipset (number : Nat) : Tipset where
  key := key number
  blocks := [⟨.id 1, if number = 0 then .empty else key (number - 1), height, 0⟩]
  height := height
where
  height := Int64.ofNat (if number < 2 then number else number + 1)

/-- The tipsets at the heights zero, one and three. -/
def chain : Chain where
  tipset := tipset
  last := 2
  start := rfl
  rising := by decide
  named := fun _ _ => rfl
  linked := fun _ _ => rfl

/-- What the node answers. -/
def answers : Node.Answers := chain.tell fun
  | .syncState => .ok ⟨[⟨1, none, some (tipset 2), .complete, 3, ""⟩], 0⟩
  | .chainGenesis => .ok (tipset 0)
  | .peers => .ok []
  | .computeState _ _ => .ok ⟨.default, []⟩
  | .actor _ _ => .ok none
  | _ => .error .unreachable

/-- The sample node follows the chain of the sample. -/
theorem followed : chain.FollowedBy (.constant answers) := by
  have distinct : ∀ first, first < 3 → ∀ second, second < 3 → key first = key second →
      first = second := by
    decide
  refine chain.tell_followed (fun _ _ => rfl) ?_ ?_
  · intro past
    exact ⟨_, _, rfl, rfl, rfl⟩
  · intro first second below under same
    exact distinct first (Nat.lt_succ_of_le below) second (Nat.lt_succ_of_le under) same

end Chain.Skipping

end FilecoinRosetta
