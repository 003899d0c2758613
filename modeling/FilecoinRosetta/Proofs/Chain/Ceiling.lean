import FilecoinRosetta.Proofs.Chain.BalancePoint

/-!
# Nothing above the tipset of a tag

Where a safe or a final tipset is wanted, the node says which one that is, and the
chain goes on above it. The next tipset is looked for by height, so it might be one
above. It never is: the one that is looked for is right above a tipset below the
tagged one, on the chain of the tagged one, however many heights are left out. So
nothing above can be told by an answer, and it cannot change an answer either.
-/

namespace FilecoinRosetta.Chain

open Program Rosetta Rosetta.Service

variable {chain : Chain} {node : Node} {since : List Node.Event} {tag : Node.TipsetTag} {top : Nat}

/-- The head of the chain is above, so it is not among the calls that
stay below the tag. -/
theorem UpTo.not_head {call : Node.Call} (upTo : chain.UpTo tag top call) : call ≠ .chainHead := by
  rintro rfl
  exact nomatch upTo

/-- No state above is read: whatever state a call reads is that of a tipset of the
chain that is no higher than the one of the tag. -/
theorem UpTo.state {call : Node.Call} (upTo : chain.UpTo tag top call) {key : TipsetKey}
    (reads : call.stateKey? = some key) :
    ∃ number, number ≤ top ∧ key = (chain.tipset number).key := by
  cases upTo with
  | actor inside address => exact ⟨_, inside, (Option.some.inj reads).symm⟩
  | spendable inside address => exact ⟨_, inside, (Option.some.inj reads).symm⟩
  | vesting inside address => exact ⟨_, inside, (Option.some.inj reads).symm⟩
  | _ => exact nomatch reads

/-- Two nodes agree up to a tipset that a tag selects. The chains that they follow
may part above it. The nodes agree on how far they are, on the tag and on the states
up to there, whatever they are asked on the way. -/
structure Shared (chain : Chain) (node : Node) (since : List Node.Event) (fork : Chain)
    (twin : Node) (twinSince : List Node.Event) (tag : Node.TipsetTag) (top : Nat) : Prop where
  /-- One node follows the chain. -/
  followed : chain.FollowedBy node
  /-- The other one follows the fork. -/
  forkFollowed : fork.FollowedBy twin
  /-- Both get as far as the tipset. -/
  inside : top ≤ chain.last ∧ top ≤ fork.last
  /-- They have the same tipsets up to there. -/
  tipsets : ∀ number, number ≤ top → fork.tipset number = chain.tipset number
  /-- They agree on how far they are. -/
  progress : ∀ made,
    node.answer (made ++ since) .syncState = twin.answer (made ++ twinSince) .syncState
  /-- They agree on the tag. -/
  tagged : ∀ made,
    node.answer (made ++ since) (.tipsetOfTag tag) =
      twin.answer (made ++ twinSince) (.tipsetOfTag tag)
  /-- They agree on the states up to there. -/
  states : ∀ made call number, number ≤ top → call.stateKey? = some (chain.tipset number).key →
    node.answer (made ++ since) call = twin.answer (made ++ twinSince) call

/-- Nodes that agree up to a tipset answer all calls up to it alike. A tipset looked
for by its height is found by the chain below, which is the same for both. -/
theorem Shared.answers {fork : Chain} {twin : Node} {twinSince : List Node.Event}
    (shared : Shared chain node since fork twin twinSince tag top) (made : List Node.Event)
    {call : Node.Call} (upTo : chain.UpTo tag top call) :
    node.answer (made ++ since) call = twin.answer (made ++ twinSince) call := by
  obtain ⟨followed, forkFollowed, ⟨inside, forkInside⟩, tipsets, progress, tagged, states⟩ := shared
  have ofTop := tipsets top (Nat.le_refl top)
  cases upTo with
  | progress => exact progress made
  | tagged => exact tagged made
  | @byKey number upTo =>
    have told := followed.byKey (made ++ since) number (Nat.le_trans upTo inside)
    have toldTwin := forkFollowed.byKey (made ++ twinSince) number (Nat.le_trans upTo forkInside)
    rw [tipsets number upTo] at toldTwin
    rw [told, toldTwin]
  | @atOrBelow height nonneg _ =>
    have isLast := chain.lastFrom_upTo nonneg inside
    have forkLast : fork.LastUpTo top height (chain.lastFrom height top) := {
      inside := isLast.inside
      reached := by
        rw [tipsets _ isLast.inside]
        exact isLast.reached
      passed := by
        intro later after upTo
        rw [tipsets later upTo]
        exact isLast.passed later after upTo }
    have told := followed.atOrBelow (made ++ since) top height _ inside isLast
    have toldTwin := forkFollowed.atOrBelow (made ++ twinSince) top height _ forkInside forkLast
    rw [ofTop, tipsets _ isLast.inside] at toldTwin
    rw [told, toldTwin]
  | @next number below =>
    have isFirst := chain.firstFrom_next below inside
    have told := followed.atOrAbove (made ++ since) top _ _ inside isFirst
    have toldTwin := forkFollowed.atOrAbove (made ++ twinSince) top _ _ forkInside
      (fork.firstFrom_next below forkInside)
    rw [ofTop, tipsets number (Nat.le_of_lt below), tipsets (number + 1) below] at toldTwin
    rw [told, toldTwin]
  | @actor number upTo address => exact states made _ number upTo rfl
  | @spendable number upTo address => exact states made _ number upTo rfl
  | @vesting number upTo address => exact states made _ number upTo rfl

/-- From some past on, the node gives a tipset of the chain for a tag,
if it gives any. -/
def Gives (chain : Chain) (node : Node) (since : List Node.Event) (tag : Node.TipsetTag)
    (top : Nat) : Prop :=
  ∀ made tipset, node.answer (made ++ since) (.tipsetOfTag tag) = .ok tipset →
    tipset = chain.tipset top

/-! ## The head that is given -/

/-- The head of a request for a tag is the tipset that the tag gives. -/
theorem Gives.head_eq (gives : chain.Gives node since tag top) (final : tag ≠ .latest)
    {head : Tipset} (isHead : (Ground.since node since).Head tag head) :
    head = chain.tipset top := by
  cases tag with
  | latest => exact absurd rfl final
  | safe | finalized =>
    obtain ⟨made, answer⟩ := isHead
    exact gives made head answer

/-- The head is asked for by the tag, which is the first of the calls
that stay below it. -/
theorem UpTo.ofHead (final : tag ≠ .latest) : chain.UpTo tag top (headCall tag) := by
  cases tag with
  | latest => exact absurd rfl final
  | safe | finalized => exact .tagged

/-- Parts of a balance are read up to a tipset if their state is. -/
theorem UpTo.ofPart {number : Nat} (inside : number ≤ top) (part : SubAccount) (address : Address) :
    chain.UpTo tag top (part.call address (chain.tipset number).key) := by
  cases part with
  | locked | spendable => exact .spendable inside address
  | vesting => exact .vesting inside address

section Giving

variable (honest : chain.Honest node)
  (first : ∀ key, (chain.tipset 0).parents? = some key → key.isEmpty = true)
  (inside : top ≤ chain.last)
  (gives : chain.Gives node since tag top) (final : tag ≠ .latest)
include honest first inside gives final

/-- The point of a selector is found below the tipset of the tag. -/
theorem Gives.placed {block : Option BlockSelector} {point : BalancePoint} {made : List Node.Call}
    (found : PlaceFound (.since node since) tag block point made) :
    ∃ reported state, chain.Placed top block reported state ∧
      point = ⟨chain.tipset reported, chain.tipset state⟩ := by
  obtain ⟨isHead, found⟩ := found
  obtain rfl := gives.head_eq final isHead
  exact honest.truthful.placed (Ground.ofNode_since node since) (rooted first inside) found

variable {service : Service} {request : Request BalanceQuery} {identifier : NetworkIdentifier}
  (accepted : service.accept request.network = .ok identifier)
  (tagged : service.finalityTag identifier = .ok tag)
include accepted tagged

/-- All calls for the balance of an account are about nothing above the
tipset of the tag. -/
theorem Gives.call_upTo {call : Node.Call} {site : CallSite}
    (ofBalance : BalanceCall (.since node since) service request call site) :
    chain.UpTo tag top call := by
  cases ofBalance with
  | progress => exact .progress
  | place isTagged ofPlace =>
    obtain rfl := isTagged.unique accepted tagged
    cases ofPlace with
    | head => exact .ofHead final
    | point isHead ofPoint =>
      obtain rfl := gives.head_eq final isHead
      exact honest.truthful.pointCall (Ground.ofNode_since node since)
        (rooted first inside) _ ofPoint
  | actor isTagged placed parsed =>
    obtain rfl := isTagged.unique accepted tagged
    obtain ⟨reported, state, isPlaced, rfl⟩ := gives.placed honest first inside final placed
    exact .actor isPlaced.inside.2 _
  | part isTagged placed parsed asked =>
    obtain rfl := isTagged.unique accepted tagged
    obtain ⟨reported, state, isPlaced, rfl⟩ := gives.placed honest first inside final placed
    exact .ofPart isPlaced.inside.2 _ _

/-- The block that is reported is the one of a tipset up to that of the tag, and the
height that is selected is not above it. -/
theorem Gives.balance {balance : Balance} {made : List Node.Call}
    (found : BalanceFound (.since node since) service request balance made) :
    (∃ reported, reported ≤ top ∧ balance.block = chain.identifier reported) ∧
      ∀ index hash, request.wanted.block = some ⟨some index, hash⟩ →
        ¬ (chain.tipset top).height < index := by
  obtain ⟨isTagged, parsed, asked, placed, names, read⟩ := found
  obtain rfl := isTagged.unique accepted tagged
  obtain ⟨reported, state, isPlaced, rfl⟩ := gives.placed honest first inside final placed
  rw [names_iff (Nat.le_trans isPlaced.inside.1 inside)] at names
  refine ⟨⟨reported, isPlaced.inside.1, names⟩, ?_⟩
  intro index hash selected
  rw [selected] at isPlaced
  exact isPlaced.chosen.2

end Giving

/-- Where a safe or a final tipset is wanted, the head of the chain is never
asked for. What is reported and what is read are tipsets up to the one that the
node gives for the tag, and heights above that are refused. The answer is the
same on every node that answers the calls up to there alike. Nodes that share the
tipsets and the states up to there do, and agree on how far they are and on the
tag, whatever lies above. -/
theorem balances_below_tag (service : Service) (honest : chain.Honest node)
    (first : ∀ key, (chain.tipset 0).parents? = some key → key.isEmpty = true)
    (inside : top ≤ chain.last) (session : Session)
    (gives : chain.Gives node session.past tag top) (final : tag ≠ .latest)
    (request : Request BalanceQuery) {identifier : NetworkIdentifier}
    (accepted : service.accept request.network = .ok identifier)
    (tagged : service.finalityTag identifier = .ok tag) :
    let program := (service.accountBalance request).run
    let ceiling := (chain.tipset top).height
    .chainHead ∉ program.calls node session ∧
    (∀ balance, (program.run node session).1 = .ok balance →
      ∃ reported, reported ≤ top ∧ (chain.tipset reported).height ≤ ceiling ∧
        balance.block = chain.identifier reported) ∧
    (∀ call ∈ program.calls node session, ∀ key, call.stateKey? = some key →
      ∃ state, state ≤ top ∧ (chain.tipset state).height ≤ ceiling ∧
        key = (chain.tipset state).key) ∧
    (∀ index hash, request.wanted.block = some ⟨some index, hash⟩ → ceiling < index →
      ∃ cause, (program.run node session).1 = .error cause) ∧
    (∀ twin other,
      (∀ made call, chain.UpTo tag top call →
        node.answer (made ++ session.past) call = twin.answer (made ++ other.past) call) →
      (program.run node session).1 = (program.run twin other).1 ∧
        program.calls node session = program.calls twin other) ∧
    ∀ fork twin other, Shared chain node session.past fork twin other.past tag top →
      (program.run node session).1 = (program.run twin other).1 ∧
        program.calls node session = program.calls twin other := by
  intro program ceiling
  have course : Course (.since node session.past) _ _ _ program :=
    Course.accountBalance service request
  have confined : Confined node session.past (chain.UpTo tag top) _ program :=
    course.confined (fun made _ _ answer => ⟨made, answer⟩) (fun _ => not_false)
      fun _ _ => gives.call_upTo honest first inside final accepted tagged
  have now : session.past = [] ++ session.past := rfl
  have told := confined.result_good now
  have asks := confined.calls_allowed now
  have alike (twin : Node) (other : Session)
      (agree : ∀ made call, chain.UpTo tag top call →
        node.answer (made ++ session.past) call = twin.answer (made ++ other.past) call) :
      (program.run node session).1 = (program.run twin other).1 ∧
        program.calls node session = program.calls twin other :=
    confined.alike agree now (List.nil_append other.past).symm
  refine ⟨?_, ?_, ?_, ?_, alike, ?_⟩
  · intro asked
    exact (asks _ asked).not_head rfl
  · intro balance isOk
    obtain ⟨_, found⟩ := told balance isOk
    obtain ⟨⟨reported, upTo, block⟩, -⟩ :=
      gives.balance honest first inside final accepted tagged found
    exact ⟨reported, upTo, chain.height_le upTo inside, block⟩
  · intro call member key reads
    obtain ⟨state, upTo, same⟩ := (asks call member).state reads
    exact ⟨state, upTo, chain.height_le upTo inside, same⟩
  · intro index hash selected above
    cases result : (program.run node session).1 with
    | error cause => exact ⟨cause, rfl⟩
    | ok balance =>
      obtain ⟨_, found⟩ := told balance result
      exact absurd above
        ((gives.balance honest first inside final accepted tagged found).2 index hash selected)
  · intro fork twin other shared
    exact alike twin other fun made call upTo => shared.answers made upTo

end FilecoinRosetta.Chain

/-! ## A fork above the tipset of a tag -/

namespace FilecoinRosetta.Chain

open Program Rosetta Rosetta.Service

namespace Forked

/-- The tipset above the chain with a null round: right above it, or further up. -/
def above (far : Bool) : Tipset where
  key := Skipping.key (if far then 4 else 3)
  blocks := [⟨.id 1, Skipping.key 2, if far then 7 else 4, 0⟩]
  height := if far then 7 else 4

/-- The chain that goes on from the third tipset. -/
def chain (far : Bool) : Chain where
  tipset number := if number < 3 then Skipping.tipset number else above far
  last := 3
  start := rfl
  rising := by
    cases far with
    | false => decide
    | true => decide
  named := by
    cases far with
    | false => decide
    | true => decide
  linked := by
    cases far with
    | false => decide
    | true => decide

/-- What the node answers. The tipset of every tag is the third one, and only the
states above it depend on the fork. -/
def answers (far : Bool) : Node.Answers := (chain far).tell fun
  | .syncState => .ok ⟨[⟨1, none, some (Skipping.tipset 2), .complete, 3, ""⟩], 0⟩
  | .tipsetOfTag _ => .ok (Skipping.tipset 2)
  | .actor _ key => if key = (above far).key then .error .unreachable else .ok none
  | _ => .error .unreachable

/-- A service that asks for safe tipsets. -/
def service : Service := ⟨⟨[]⟩, "calibnet", ⟨true, true⟩⟩

/-- The node follows the chain of the sample, on both sides of its fork. -/
theorem followed (far : Bool) : (chain far).FollowedBy (.constant (answers far)) := by
  refine (chain far).tell_followed (fun _ _ => rfl) (fun _ => ⟨_, _, rfl, rfl, rfl⟩) ?_
  have distinct : ∀ first, first < 4 → ∀ second, second < 4 →
      ((chain far).tipset first).key = ((chain far).tipset second).key → first = second := by
    cases far with
    | false => decide
    | true => decide
  intro first second below under
  exact distinct first (Nat.lt_succ_of_le below) second (Nat.lt_succ_of_le under)

/-- States up to the third tipset do not depend on the fork. -/
theorem states_shared {call : Node.Call} {number : Nat} (inside : number ≤ 2)
    (reads : call.stateKey? = some ((chain false).tipset number).key) :
    answers false call = answers true call := by
  have notAbove :
      ∀ number, number < 3 → ∀ far, ((chain false).tipset number).key ≠ (above far).key := by
    decide
  have below : number < 3 := Nat.lt_succ_of_le inside
  cases call with
  | actor address key =>
    obtain rfl := Option.some.inj reads
    change (if _ = (above false).key then Except.error Node.Failure.unreachable else .ok none) =
      if _ = (above true).key then .error .unreachable else .ok none
    rw [if_neg (notAbove number below false), if_neg (notAbove number below true)]
  | accountKey address key | idAddress address key | robustAddress address key => rfl
  | availableBalance address key | vestingSchedule address key => rfl
  | _ => exact nomatch reads

end Forked

/-- A balance at the null round below the third tipset is told although the chain
goes on, and it is the same on both sides of the fork. -/
theorem forked_alike :
    let program := (Forked.service.accountBalance Skipping.balanceAtNullRound).run
    let near := Node.constant (Forked.answers false)
    let far := Node.constant (Forked.answers true)
    near.answer [] .chainHead ≠ far.answer [] .chainHead ∧
      .chainHead ∉ program.calls near .fresh ∧
      (program.run near .fresh).1 = (program.run far .fresh).1 ∧
      ∃ balance, (program.run near .fresh).1 = .ok balance ∧
        balance.block = (Forked.chain false).identifier 1 := by
  intro program near far
  have honest : (Forked.chain false).Honest near := by
    apply (Forked.followed false).honest
    rintro past tag tipset ⟨⟩
    exact ⟨2, by decide, rfl⟩
  have first : ∀ key, ((Forked.chain false).tipset 0).parents? = some key → key.isEmpty = true := by
    rintro key ⟨⟩
    rfl
  have inside : 2 ≤ (Forked.chain false).last := by decide
  have gives : (Forked.chain false).Gives near Session.fresh.past .safe 2 := by
    rintro made tipset ⟨⟩
    rfl
  have accepted : Forked.service.accept Skipping.balanceAtNullRound.network =
      .ok Skipping.network := rfl
  have tagged : Forked.service.finalityTag Skipping.network = .ok .safe := rfl
  obtain ⟨noHead, -, -, -, -, alike⟩ :=
    balances_below_tag Forked.service honest first inside .fresh gives
    (by decide) Skipping.balanceAtNullRound accepted tagged
  have heads : near.answer [] .chainHead ≠ far.answer [] .chainHead := fun same =>
    absurd (congrArg Tipset.height (Except.ok.inj same)) (by decide)
  have shared : Shared (Forked.chain false) near [] (Forked.chain true) far [] .safe 2 := {
    followed := Forked.followed false
    forkFollowed := Forked.followed true
    inside := ⟨by decide, by decide⟩
    tipsets := by
      intro number inside
      have below : number < 3 := Nat.lt_succ_of_le inside
      exact (if_pos below).trans (if_pos below).symm
    progress := fun _ => rfl
    tagged := fun _ => rfl
    states := fun _ _ _ inside reads => Forked.states_shared inside reads }
  exact ⟨heads, noHead, (alike (Forked.chain true) far .fresh shared).1, _, rfl, rfl⟩

end FilecoinRosetta.Chain
