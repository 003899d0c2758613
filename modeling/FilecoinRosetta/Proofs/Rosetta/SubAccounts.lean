import FilecoinRosetta.Proofs.Chain.Points
import FilecoinRosetta.Proofs.Rosetta.Endings

/-!
# Parts of a balance

The balance of a multisig, what it may spend of it and what is locked are three
questions, each of which finds the block and its state anew. On a node that always
gives the same answers they find the same state, so the parts add up, even where
more may be spent than there is. A part is refused where there is no multisig,
before anything else is asked of it; the whole is never asked for that.
-/

namespace FilecoinRosetta

/-- Whether a call is a question that only multisigs have an answer to. -/
def Node.Call.isMultisigQuery : Node.Call → Bool
  | availableBalance _ _ => true
  | vestingSchedule _ _ => true
  | _ => false

/-- A call that reads no state is none of them, as each of them is about the
state of a tipset. -/
theorem Node.Call.not_multisigQuery {call : Node.Call} (quiet : call.stateKey? = none) :
    call.isMultisigQuery = false := by
  cases call with
  | availableBalance address key => cases quiet
  | vestingSchedule address key => cases quiet
  | _ => rfl

namespace Rosetta

open Program

/-! ## The selected block -/

/-- The errors by which the selection of a block is refused. -/
def selectorRefusals : List ErrorKind :=
  [.malformedValue, .blockNotSynced, .hashMismatch, .insufficientQuery, .tipsetHashUnavailable]

namespace Service

/-- What is told of the selected block, and the tipset whose state
is read for it. -/
def selected (tag : Node.TipsetTag) (block : Option BlockSelector) :
    Endpoint (BlockIdentifier × Tipset) := do
  let point ← balancePoint tag block
  let told ← blockIdentifier point.reported
  return (told, point.state)

/-- The same on a node that follows the chain. -/
def located (tag : Node.TipsetTag) (block : Option BlockSelector) :
    Endpoint (BlockIdentifier × Tipset) := do
  requireSynced .nodeNotSynced
  selected tag block

end Service

/-- The calls that find the selected block and its state. -/
inductive LocateCall (ground : Ground) (tag : Node.TipsetTag) (block : Option BlockSelector) :
    Node.Call → CallSite → Prop where
  /-- How far the node is. -/
  | progress : LocateCall ground tag block .syncState (.told .syncStatusUnavailable)
  /-- Where the balance is read. -/
  | place {call : Node.Call} {site : CallSite} (ofPlace : PlaceCall ground tag block call site) :
      LocateCall ground tag block call site

/-- Why there is no selected block. -/
inductive LocateRefusal (ground : Ground) (tag : Node.TipsetTag) (block : Option BlockSelector) :
    ServiceError → Prop where
  /-- The node does not follow the chain. -/
  | late {cause : ServiceError} (isLate : ground.Late .nodeNotSynced cause) :
      LocateRefusal ground tag block cause
  /-- The selector is refused. -/
  | place {cause : ServiceError} (refusal : PlaceRefusal ground tag block cause) :
      LocateRefusal ground tag block cause
  /-- The block to report has no hash. -/
  | nameless : LocateRefusal ground tag block namelessError

/-- The selected block and its state are found after the gate, by the same calls
as for a balance. -/
theorem Course.located {ground : Ground} (tag : Node.TipsetTag) (block : Option BlockSelector) :
    Course ground (LocateCall ground tag block) (LocateRefusal ground tag block) (fun _ _ => True)
      (Service.located tag block).run := by
  apply (requireSynced _ .progress fun _ => LocateRefusal.late).attempt
  intro _ _ _
  apply (balancePoint tag block (fun _ _ => LocateCall.place) fun _ => LocateRefusal.place).attempt
  intro point _ _
  apply (blockIdentifier point.reported fun _ => LocateRefusal.nameless).attempt
  exact fun _ _ _ => result trivial

/-- No state is read in search of the block: it is found by tipsets alone. -/
theorem LocateCall.quiet {ground : Ground} {tag : Node.TipsetTag} {block : Option BlockSelector}
    {call : Node.Call} {site : CallSite} (ofBlock : LocateCall ground tag block call site) :
    call.stateKey? = none := by
  cases ofBlock with
  | progress => rfl
  | place ofPlace => exact Chain.place_quiet ofPlace

/-- On a node that follows the chain, only the selector is refused. -/
theorem LocateRefusal.ofSelector {ground : Ground} {tag : Node.TipsetTag}
    {block : Option BlockSelector} {cause : ServiceError}
    (refusal : LocateRefusal ground tag block cause)
    (notLate : ¬ ground.Late .nodeNotSynced cause) : cause.kind ∈ selectorRefusals := by
  cases refusal with
  | late isLate => exact absurd isLate notLate
  | nameless => decide
  | place refusal =>
    obtain ⟨isHead, refusal⟩ := refusal
    cases refusal with
    | belowZero isBlock below => exact of_decide_eq_true rfl
    | aboveHead isBlock above => exact of_decide_eq_true rfl
    | nameless isBlock isRequested hashless => exact of_decide_eq_true rfl
    | otherHash isBlock isRequested isOwn differs => exact of_decide_eq_true rfl
    | unindexed isBlock => exact of_decide_eq_true rfl

namespace Service

/-! ## The state of the selected block -/

/-- The question for the balance of an account, or for a part of it. -/
def partQuery (network : Option NetworkIdentifier) (text : String) (block : Option BlockSelector)
    (part : Option SubAccount) : Request BalanceQuery :=
  ⟨network, ⟨⟨text, part.map SubAccount.name⟩, block⟩⟩

/-- What was read, as the balance at a block. -/
def balanceOf (told : BlockIdentifier) (found : TokenAmount × Option VestingSchedule) : Balance :=
  ⟨told, found.1, found.2⟩

/-- The balance of an account, or a part of it, at a block with a state. -/
def balanceIn (service : Service) (account : AccountIdentifier) (address : Address)
    (part : Option SubAccount) (place : BlockIdentifier × Tipset) : Endpoint Balance := do
  let found ← service.readBalance account address part place.2
  return balanceOf place.1 found

/-- Whether there is an actor, and it is a multisig. -/
def holdsMultisig (service : Service) (actor : Option ActorState) : Bool :=
  actor.any fun state => service.isMultisig state.code

section Reading

variable (service : Service) {network : Option NetworkIdentifier} {identifier : NetworkIdentifier}
  {tag : Node.TipsetTag} {text : String} {address : Address}

/-- A question that is accepted is answered by finding the block first and
reading its state afterwards. -/
theorem accountBalance_located (accepted : service.accept network = .ok identifier)
    (tagged : service.finalityTag identifier = .ok tag) (parsed : Address.parse text = .ok address)
    (block : Option BlockSelector) (part : Option SubAccount) :
    service.accountBalance (partQuery network text block part) =
      located tag block >>= service.balanceIn ⟨text, part.map SubAccount.name⟩ address part := by
  have isPart : accountPart ⟨text, part.map SubAccount.name⟩ = pure part := by
    cases part with
    | none => rfl
    | some part => cases part <;> rfl
  have isAddress : accountAddress ⟨text, part.map SubAccount.name⟩ = pure address := by
    unfold accountAddress
    rw [parsed]
  unfold accountBalance partQuery located selected balanceIn
  rw [accepted, Endpoint.given_ok, tagged, Endpoint.given_ok]
  dsimp only
  rw [isAddress, pure_bind, isPart, pure_bind]
  simp only [LawfulMonad.bind_assoc, pure_bind]
  rfl

variable {node : Node} {session : Session} {account : AccountIdentifier} {told : BlockIdentifier}
  {state : Tipset}

/-- Where the actor cannot be read, that is told, whichever part of its
balance was asked for. -/
theorem unread_ends {failure : Node.Failure} (part : Option SubAccount)
    (answer : node.answer session.past (.actor address state.key) = .error failure) :
    Ends node session (service.balanceIn account address part (told, state))
      (.error (.ofFailure .accountUnavailable failure)) [.actor address state.key] := by
  have fails :
      ((Endpoint.call .accountUnavailable (.actor address state.key)).run.run node session).1 =
      .error (.ofFailure .accountUnavailable failure) := by
    rw [Endpoint.call_run, answer]
    rfl
  have reads : Ends node session (service.readBalance account address part state)
      (.error (.ofFailure .accountUnavailable failure)) [.actor address state.key] :=
    .failed fails _
  exact reads.viewed (balanceOf told)

/-- The whole balance is the one of the actor, and none if there is no actor. No
other call is made for it. -/
theorem whole_ends {actor : Option ActorState}
    (answer : node.answer session.past (.actor address state.key) = .ok actor) :
    Ends node session (service.balanceIn account address none (told, state))
      (.ok ⟨told, (actor.map ActorState.balance).getD 0, none⟩) [.actor address state.key] := by
  have reads : Ends node session (service.readBalance account address none state)
      (.ok ((actor.map ActorState.balance).getD 0, none)) [.actor address state.key] := by
    apply Ends.call _ answer
    cases actor with
    | none => exact .result _
    | some actor => exact .result _
  exact reads.viewed (balanceOf told)

/-- Without a multisig there are no parts, so a part is refused as soon as
the actor is known. -/
theorem refused_ends {actor : Option ActorState} (part : SubAccount)
    (answer : node.answer session.past (.actor address state.key) = .ok actor)
    (other : service.holdsMultisig actor = false) :
    Ends node session (service.balanceIn account address (some part) (told, state))
      (.error (.because .notMultisig account.address)) [.actor address state.key] := by
  have reads : Ends node session (service.readBalance account address (some part) state)
      (.error (.because .notMultisig account.address)) [.actor address state.key] := by
    apply Ends.call _ answer
    cases actor with
    | none => exact .refusal _ _
    | some actor =>
      have notMultisig : service.isMultisig actor.code = false := other
      dsimp only
      rw [notMultisig]
      exact .refusal _ _
  exact reads.viewed (balanceOf told)

/-- Of a multisig a part is read behind the actor, in the same state. Its
failure is the outcome. -/
theorem part_ends {actor : ActorState} {part : SubAccount}
    {outcome : Except ServiceError (TokenAmount × Option VestingSchedule)} {made : List Node.Call}
    (answer : node.answer session.past (.actor address state.key) = .ok (some actor))
    (isMultisig : service.isMultisig actor.code = true)
    (ends : Ends node (session.asked (.actor address state.key))
      (subBalance part address state actor) outcome made) :
    Ends node session (service.balanceIn account address (some part) (told, state))
      (outcome.map (balanceOf told)) (.actor address state.key :: made) := by
  have reads : Ends node session (service.readBalance account address (some part) state) outcome
      (.actor address state.key :: made) := by
    apply Ends.call _ answer
    dsimp only
    rw [isMultisig]
    exact ends
  exact reads.viewed (balanceOf told)

/-- If a part of a multisig's balance cannot be read, the error does not deny that
it is a multisig. -/
theorem subBalance_ends (part : SubAccount) (actor : ActorState) :
    ∃ outcome made, Ends node session (subBalance part address state actor) outcome made ∧
      ∀ cause, outcome = .error cause → cause.kind ≠ .notMultisig := by
  have notDenied {call : Node.Call} {kind : ErrorKind} (foreseen : kind ≠ .notMultisig)
      (view : call.Answer → TokenAmount × Option VestingSchedule) (cause : ServiceError)
      (failed : ((node.answer session.past call).mapError (ServiceError.ofFailure kind)).map view =
        .error cause) :
      cause.kind ≠ .notMultisig := by
    cases answer : node.answer session.past call with
    | ok value =>
      rw [answer] at failed
      cases failed
    | error failure =>
      rw [answer] at failed
      obtain rfl := Except.error.inj failed
      rcases ServiceError.ofFailure_kind kind failure with same | same
      · rwa [same]
      · rw [same]
        decide
  cases part with
  | locked =>
    exact ⟨_, _, (Ends.told _ _).viewed fun amount => (actor.balance + -amount, none),
      notDenied (by decide) _⟩
  | spendable =>
    exact ⟨_, _, (Ends.told _ _).viewed fun amount => (amount, none), notDenied (by decide) _⟩
  | vesting =>
    exact ⟨_, _, (Ends.told _ _).viewed fun schedule => (0, some schedule), notDenied (by decide) _⟩

/-- No state is read in search of the block, so the first call for a state is the
one for the actor. -/
theorem located_quiet (tag : Node.TipsetTag) (block : Option BlockSelector) (node : Node)
    (session : Session) :
    ∀ call ∈ (located tag block).run.calls node session, call.stateKey? = none := by
  have course : Course (.since node []) _ _ _ (located tag block).run := Course.located tag block
  intro call member
  obtain ⟨site, ofBlock⟩ := (course.ended session).2 call member
  exact ofBlock.quiet

/-! ## Questions for parts -/

/-- What the questions for a balance come to once their block is found, by the
answer to the question for the actor. -/
structure DecidedBy (service : Service) (node : Node) (session : Session)
    (balance : Option SubAccount → Endpoint Balance) (text : String) (asked : List Node.Call)
    (read : Node.Call) (told : BlockIdentifier) (answer : Except Node.Failure (Option ActorState)) :
    Prop where
  /-- No state was read so far. -/
  quiet : ∀ call ∈ asked, call.stateKey? = none
  /-- Without an actor there is nothing. -/
  missing : answer = .ok none → ∃ nothing : Balance,
    Ends node session (balance none) (.ok nothing) (asked ++ [read]) ∧
      nothing.json = .obj [("block_identifier", told.json),
        ("balances", .arr [.obj [("value", .str "0"), ("currency", currencyJson)]])]
  /-- The whole balance is the one of the actor. -/
  whole : ∀ actor, answer = .ok (some actor) →
    Ends node session (balance none) (.ok ⟨told, actor.balance, none⟩) (asked ++ [read])
  /-- Without a multisig every part is refused, and nothing more is asked. -/
  refused : ∀ actor part, answer = .ok actor → service.holdsMultisig actor = false →
    Ends node session (balance (some part)) (.error (.because .notMultisig text)) (asked ++ [read])
  /-- A part is refused for nothing else. -/
  onlyThen : ∀ part cause, ((balance (some part)).run.run node session).1 = .error cause →
    cause.kind = .notMultisig →
    ∃ actor, answer = .ok actor ∧ service.holdsMultisig actor = false

/-- On a node that always gives the same answers, the parts of a multisig's balance
are told of one block, read from one state, and add up to the whole. -/
structure Partition (answers : Node.Answers) (balance : Option SubAccount → Endpoint Balance)
    (asked : List Node.Call) (told : BlockIdentifier) (address : Address) (key : TipsetKey)
    (actor : ActorState) (amount : TokenAmount) (schedule : VestingSchedule) : Prop where
  /-- The whole. -/
  whole : Constantly answers (balance none) (.ok ⟨told, actor.balance, none⟩)
    (asked ++ [.actor address key])
  /-- What may be spent is as the node tells. -/
  spendable : Constantly answers (balance (some .spendable)) (.ok ⟨told, amount, none⟩)
    (asked ++ [.actor address key, .availableBalance address key])
  /-- What is locked is the rest. -/
  locked : ∃ rest : TokenAmount,
    Constantly answers (balance (some .locked)) (.ok ⟨told, rest, none⟩)
    (asked ++ [.actor address key, .availableBalance address key]) ∧ rest + amount = actor.balance
  /-- The schedule comes with no amount. -/
  vesting : Constantly answers (balance (some .vesting)) (.ok ⟨told, 0, some schedule⟩)
    (asked ++ [.actor address key, .vestingSchedule address key])
  /-- Its numbers are shown in decimal digits. -/
  shown : (⟨told, 0, some schedule⟩ : Balance).json = .obj [("block_identifier", told.json),
    ("balances", .arr [.obj [("value", .str "0"), ("currency", currencyJson)]]),
    ("metadata", .obj [("VestingSchedule", .obj
      [("StartEpoch", .str (toString schedule.startEpoch.toInt)),
       ("UnlockDuration", .str (toString schedule.unlockDuration.toInt)),
       ("InitialBalance", .str (toString schedule.initialBalance.atto))])])]

/-- The ending of a question whose block was found is the ending of the
look at the state. -/
theorem accountBalance_ends (accepted : service.accept network = .ok identifier)
    (tagged : service.finalityTag identifier = .ok tag)
    (parsed : Address.parse text = .ok address) {block : Option BlockSelector}
    {part : Option SubAccount} {later : Session} {outcome : Except ServiceError Balance}
    {made : List Node.Call}
    (found : (located tag block).run.run node session = (.ok (told, state), later))
    (ends : Ends node later
      (service.balanceIn ⟨text, part.map SubAccount.name⟩ address part (told, state))
        outcome made) :
    Ends node session (service.accountBalance (partQuery network text block part)) outcome
      ((located tag block).run.calls node session ++ made) := by
  rw [service.accountBalance_located accepted tagged parsed]
  exact .attempt found ends

/-- Once the block of a query is located, the balance of each part of an account is
decided by the state that was found. What is asked before, and what it comes to, is
the same for all of them. -/
theorem accountBalance_decided (accepted : service.accept network = .ok identifier)
    (tagged : service.finalityTag identifier = .ok tag) (parsed : Address.parse text = .ok address)
    {block : Option BlockSelector} {later : Session}
    (found : (located tag block).run.run node session = (.ok (told, state), later)) :
    service.DecidedBy node session
      (fun part => service.accountBalance (partQuery network text block part)) text
      ((located tag block).run.calls node session) (.actor address state.key) told
      (node.answer later.past (.actor address state.key)) := by
  constructor
  case quiet => exact located_quiet tag block node session
  case missing =>
    intro answer
    exact ⟨_, service.accountBalance_ends accepted tagged parsed found (service.whole_ends answer),
      rfl⟩
  case whole =>
    intro actor answer
    exact service.accountBalance_ends accepted tagged parsed found (service.whole_ends answer)
  case refused =>
    intro actor part answer other
    exact service.accountBalance_ends accepted tagged parsed found
      (service.refused_ends part answer other)
  case onlyThen =>
    intro part cause isError isKind
    have comesTo {outcome : Except ServiceError Balance} {made : List Node.Call}
        (ends : Ends node later
          (service.balanceIn ⟨text, some part.name⟩ address (some part) (told, state))
          outcome made) : outcome = .error cause := by
      have whole :
          Ends node session (service.accountBalance (partQuery network text block (some part)))
            outcome _ :=
        service.accountBalance_ends accepted tagged parsed found ends
      exact whole.1.symm.trans isError
    cases answer : node.answer later.past (.actor address state.key) with
    | error failure =>
      obtain rfl := Except.error.inj (comesTo (service.unread_ends (some part) answer))
      rcases ServiceError.ofFailure_kind .accountUnavailable failure with same | same
      · cases same.symm.trans isKind
      · cases same.symm.trans isKind
    | ok actor =>
      cases holds : service.holdsMultisig actor with
      | false => exact ⟨actor, rfl, holds⟩
      | true =>
        cases actor with
        | none => cases holds
        | some multisig =>
          obtain ⟨outcome, _, ends, notDenied⟩ := subBalance_ends part multisig
          have same := comesTo (service.part_ends answer holds ends)
          cases outcome with
          | ok found => cases same
          | error failed =>
            obtain rfl := Except.error.inj same
            exact absurd isKind (notDenied failed rfl)

/-- On a node that always gives the same answers the block is found alike by every
question, without a look at a state. Where the node follows the chain, it is not
found only if the selector is refused or a call fails. -/
theorem located_constantly {answers : Node.Answers} (synced : Chain.Synced (.constant answers))
    (tag : Node.TipsetTag) (block : Option BlockSelector) :
    ∃ outcome asked, Constantly answers (located tag block) outcome asked ∧
      ∀ cause, outcome = .error cause →
      cause.kind ∈ selectorRefusals ∨ ∃ call ∈ asked, ∃ failure, answers call = .error failure := by
  have course : Course (.since (.constant answers) []) _ _ _ (located tag block).run :=
    Course.located tag block
  obtain ⟨outcome, made, ends, ended⟩ := course.constantly
  refine ⟨outcome, made, ends, ?_⟩
  rintro cause rfl
  cases ended with
  | refused isRefusal =>
    exact .inl (isRefusal.ofSelector (synced.not_late (Ground.ofNode_since (.constant answers) [])))
  | failed isMade mayAsk answer => exact .inr ⟨_, isMade, _, answer⟩

/-- A whole balance is never asked of a multisig alone. Its calls are those that
find the block, and one for the actor. -/
theorem whole_asks_no_multisig (request : Request BalanceQuery)
    (whole : request.wanted.account.subAccount = none) (node : Node) (session : Session) :
    ∀ call ∈ (service.accountBalance request).run.calls node session,
      call.isMultisigQuery = false := by
  have course : Course (.since node []) _ _ _ (service.accountBalance request).run :=
    Course.accountBalance service request
  intro call member
  obtain ⟨site, ofBalance⟩ := (course.ended session).2 call member
  cases ofBalance with
  | progress => rfl
  | place tagged ofPlace => exact Node.Call.not_multisigQuery (Chain.place_quiet ofPlace)
  | actor tagged placed parsed => rfl
  | part tagged placed parsed asked => exact nomatch asked.whole_only whole

/-- On a node that always gives the same answers, a multisig's balance is read in
parts from one state. -/
theorem accountBalance_partition (accepted : service.accept network = .ok identifier)
    (tagged : service.finalityTag identifier = .ok tag)
    (parsed : Address.parse text = .ok address) {answers : Node.Answers}
    {block : Option BlockSelector} {asked : List Node.Call}
    (found : Constantly answers (located tag block) (.ok (told, state)) asked)
    {actor : ActorState} (ofActor : answers (.actor address state.key) = .ok (some actor))
    (isMultisig : service.isMultisig actor.code = true) {amount : TokenAmount}
    (ofAmount : answers (.availableBalance address state.key) = .ok amount)
    {schedule : VestingSchedule}
    (ofSchedule : answers (.vestingSchedule address state.key) = .ok schedule) :
    Partition answers (fun part => service.accountBalance (partQuery network text block part)) asked
      told address
      state.key actor amount schedule := by
  have behind {part : Option SubAccount} {outcome : Except ServiceError Balance}
      {made : List Node.Call}
      (ends : ∀ later, Ends (.constant answers) later
        (service.balanceIn ⟨text, part.map SubAccount.name⟩ address part (told, state))
          outcome made) :
      Constantly answers (service.accountBalance (partQuery network text block part)) outcome
        (asked ++ made) := by
    intro session
    rw [← (found session).2]
    exact service.accountBalance_ends accepted tagged parsed
      (Prod.ext (found session).1 rfl) (ends _)
  have spends (view : TokenAmount → TokenAmount × Option VestingSchedule) (session : Session) :
      Ends (.constant answers) session (do return view (← spendable address state))
        (.ok (view amount))
        [.availableBalance address state.key] :=
    .call _ ofAmount (.result _)
  have ofPart (part : SubAccount) (read : TokenAmount × Option VestingSchedule)
      {made : List Node.Call}
      (reads : ∀ later, Ends (.constant answers) later (subBalance part address state actor)
        (.ok read) made) :
      Constantly answers (service.accountBalance (partQuery network text block (some part)))
        (.ok (balanceOf told read)) (asked ++ .actor address state.key :: made) := by
    apply behind
    intro later
    have told : (Node.constant answers).answer later.past (.actor address state.key) =
        .ok (some actor) := ofActor
    exact service.part_ends told isMultisig (reads _)
  constructor
  case whole =>
    apply behind
    intro later
    have told : (Node.constant answers).answer later.past (.actor address state.key) =
        .ok (some actor) := ofActor
    exact service.whole_ends told
  case spendable => exact ofPart .spendable _ (spends fun amount => (amount, none))
  case locked =>
    refine ⟨actor.balance + -amount,
      ofPart .locked _ (spends fun amount => (actor.balance + -amount, none)), ?_⟩
    exact congrArg TokenAmount.mk (Int.neg_add_cancel_right actor.balance.atto amount.atto)
  case vesting => exact ofPart .vesting (0, some schedule) fun _ => .call _ ofSchedule (.result _)
  case shown => rfl

/-- The parts of a balance. No question for the whole asks what only multisigs
answer. A part is refused exactly where there is no multisig, and a missing actor
has nothing. On a node that follows the chain and always gives the same answers, all
questions find the same block, or none does: then the selector is refused or a call
failed. The parts of a multisig's balance are read from the state that was found,
and add up to the whole. -/
theorem balance_parts (service : Service) :
    (∀ request : Request BalanceQuery, request.wanted.account.subAccount = none → ∀ node session,
      ∀ call ∈ (service.accountBalance request).run.calls node session,
        call.isMultisigQuery = false) ∧
    ∀ network identifier tag text address (block : Option BlockSelector), service.accept network =
      .ok identifier →
      service.finalityTag identifier = .ok tag → Address.parse text = .ok address →
      let balance := fun part => service.accountBalance (partQuery network text block part)
      (∀ node session told state later, (located tag block).run.run node session =
        (.ok (told, state), later) →
        service.DecidedBy node session balance text ((located tag block).run.calls node session)
          (.actor address state.key) told (node.answer later.past (.actor address state.key))) ∧
      ∀ answers, Chain.Synced (.constant answers) →
        ∃ found asked, Constantly answers (located tag block) found asked ∧
        (∀ cause, found = .error cause →
          (∀ part, Constantly answers (balance part) (.error cause) asked) ∧
          (cause.kind ∈ selectorRefusals ∨ ∃ call ∈ asked, ∃ failure,
            answers call = .error failure)) ∧
        ∀ told state actor amount schedule, found = .ok (told, state) →
          answers (.actor address state.key) = .ok (some actor) →
            service.isMultisig actor.code = true →
          answers (.availableBalance address state.key) = .ok amount →
          answers (.vestingSchedule address state.key) = .ok schedule →
          Partition answers balance asked told address state.key actor amount schedule := by
  refine ⟨service.whole_asks_no_multisig, ?_⟩
  intro network identifier tag text address block accepted tagged parsed balance
  refine ⟨fun node session told state later found =>
    service.accountBalance_decided accepted tagged parsed found, ?_⟩
  intro answers synced
  obtain ⟨found, asked, ends, fails⟩ := located_constantly synced tag block
  refine ⟨found, asked, ends, ?_, ?_⟩
  · rintro cause rfl
    refine ⟨?_, fails cause rfl⟩
    intro part session
    change Ends _ _ (service.accountBalance (partQuery network text block part)) _ _
    rw [service.accountBalance_located accepted tagged parsed, ← (ends session).2]
    exact .failed (ends session).1 _
  · rintro told state actor amount schedule rfl ofActor isMultisig ofAmount ofSchedule
    exact service.accountBalance_partition accepted tagged parsed ends ofActor isMultisig
      ofAmount ofSchedule

end Reading

/-! ## A multisig that may spend more than it has -/

namespace Vault

/-- The code of multisigs in a released bundle. -/
def code : Cid :=
  Actor.programCode 0x6bd30d73269f875599f4b7f613d7d4517003c0deede59a0371d9812f5b936b66

/-- The multisig. -/
def actor : ActorState := ⟨code, default, 0, ⟨10⟩, none⟩

/-- The schedule of its release. -/
def schedule : VestingSchedule := ⟨⟨10⟩, 2, 100⟩

/-- The answers about it, wherever it is looked for, on the chain
with a null round. -/
def answers : Node.Answers
  | .actor _ _ => .ok (some actor)
  | .availableBalance _ _ => .ok ⟨25⟩
  | .vestingSchedule _ _ => .ok schedule
  | call => Chain.Skipping.answers call

/-- A service that knows the code. -/
def service : Service := ⟨.builtin, "calibnet", ⟨false, false⟩⟩

/-- The question for a part of its balance. -/
def query (part : Option SubAccount) : Request BalanceQuery :=
  partQuery (some Chain.Skipping.network) "f0100" none part

end Vault

/-- What is locked of it is less than nothing. Where there is no actor,
a part is refused. -/
theorem vault_parts :
    let balance answers part :=
      ((Vault.service.accountBalance (Vault.query part)).run.run (.constant answers) .fresh).1
    (∃ told, balance Vault.answers none = .ok ⟨told, ⟨10⟩, none⟩ ∧
      balance Vault.answers (some .spendable) = .ok ⟨told, ⟨25⟩, none⟩ ∧
      balance Vault.answers (some .locked) = .ok ⟨told, ⟨-15⟩, none⟩ ∧
      balance Vault.answers (some .vesting) = .ok ⟨told, 0, some Vault.schedule⟩) ∧
    balance Chain.Skipping.answers (some .locked) = .error (.because .notMultisig "f0100") ∧
    (∀ call ∈ (Vault.service.accountBalance (Vault.query none)).run.calls
        (.constant Vault.answers) .fresh, call.isMultisigQuery = false) := by
  intro balance
  obtain ⟨unasked, parts⟩ := balance_parts Vault.service
  have parsed : Address.parse "f0100" = .ok (.id 100) := rfl
  obtain ⟨decided, partition⟩ :=
    parts (some Chain.Skipping.network) Chain.Skipping.network .latest "f0100" (.id 100) none
      rfl rfl parsed
  refine ⟨?_, ?_, unasked (Vault.query none) rfl _ _⟩
  · obtain ⟨found, asked, located, -, ofMultisig⟩ :=
      partition Vault.answers fun _ => ⟨_, _, rfl, rfl, rfl⟩
    obtain ⟨told, isFound⟩ : ∃ told,
      ((Service.located .latest none).run.run (.constant Vault.answers) .fresh).1 =
        .ok (told, Chain.Skipping.tipset 2) := ⟨_, rfl⟩
    have isMultisig : Vault.service.isMultisig Vault.actor.code = true := by decide +kernel
    have split := ofMultisig told _ Vault.actor ⟨25⟩ Vault.schedule
        ((located .fresh).1.symm.trans isFound) rfl
      isMultisig rfl rfl
    obtain ⟨rest, isRest, adds⟩ := split.locked
    have sum : rest.atto + 25 = 10 := congrArg TokenAmount.atto adds
    have isDebt : rest.atto = -15 := by omega
    obtain rfl : rest = ⟨-15⟩ := congrArg TokenAmount.mk isDebt
    exact ⟨told, (split.whole .fresh).1, (split.spendable .fresh).1, (isRest .fresh).1,
      (split.vesting .fresh).1⟩
  · obtain ⟨told, isFound⟩ : ∃ told,
      ((Service.located .latest none).run.run (.constant Chain.Skipping.answers)
        .fresh).1 = .ok (told, Chain.Skipping.tipset 2) := ⟨_, rfl⟩
    have refused := (decided _ .fresh told _ _ (Prod.ext isFound rfl)).refused none .locked rfl rfl
    exact refused.1

end Service

end Rosetta

end FilecoinRosetta
