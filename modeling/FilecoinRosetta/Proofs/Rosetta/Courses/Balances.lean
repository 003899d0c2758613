import FilecoinRosetta.Proofs.Rosetta.Courses.Gates
import FilecoinRosetta.Rosetta.BalanceEndpoint

/-!
# The course of the endpoint about balances

First the block is found that a balance is reported for, together with the tipset
whose state holds it. Then the state is read: the actor of the account, and of a
multisig what is known of the part that is asked for. Here it is said which calls
these are, in their order, and how the balance is made from what they are told.
-/

namespace FilecoinRosetta.Rosetta

open Service

/-! ## Where a balance is read -/

/-- Where the balance at a head is read, and after which calls. It is reported for
the parent, which the first tipset does not have. -/
inductive HeadPoint (ground : Ground) (head : Tipset) : BalancePoint → List Node.Call → Prop where
  /-- The head is the first tipset. -/
  | first (unlinked : parentKey? head = none) : HeadPoint ground head ⟨head, head⟩ []
  /-- The parent is told by its key. -/
  | parent {key : TipsetKey} {parent : Tipset} (linked : parentKey? head = some key)
      (told : ground.told (.tipset key) parent) : HeadPoint ground head ⟨parent, head⟩ [.tipset key]

/-- The calls that find out where a balance is read, from a head on. -/
inductive PointCall (ground : Ground) (head : Tipset) (block : Option BlockSelector) :
    Node.Call → CallSite → Prop where
  /-- The parent of the head. -/
  | parent {key : TipsetKey} (linked : parentKey? head = some key) :
      PointCall ground head block (.tipset key) (.told .parentUnavailable)
  /-- The tipset at or below the height that is selected. -/
  | requested {index : Int64} {hash : Option String} (isBlock : block = some ⟨some index, hash⟩)
      (nonneg : ¬ index < 0) (upToHead : ¬ head.height < index) :
      PointCall ground head block (.tipsetAtOrBelow index head.key) (.told .tipsetUnavailable)
  /-- The tipset right above that one, if it is not at the height of the head. -/
  | next {index : Int64} {hash : Option String} {requested : Tipset}
      (isBlock : block = some ⟨some index, hash⟩)
      (isRequested : ground.Requested head index hash requested)
      (below : requested.height ≠ head.height) :
      PointCall ground head block (.tipsetAtOrAbove (requested.height + 1) head.key)
        (.told .tipsetUnavailable)

/-- Why the selected block is refused, below a head. -/
inductive PointRefusal (ground : Ground) (head : Tipset) (block : Option BlockSelector) :
    ServiceError → Prop where
  /-- The height is below zero. -/
  | belowZero {index : Int64} {hash : Option String} (isBlock : block = some ⟨some index, hash⟩)
      (below : index < 0) :
      PointRefusal ground head block (.because .malformedValue (toString index.toInt))
  /-- The height is above the head. -/
  | aboveHead {index : Int64} {hash : Option String} (isBlock : block = some ⟨some index, hash⟩)
      (above : head.height < index) :
      PointRefusal ground head block (.because .blockNotSynced (toString index.toInt))
  /-- The tipset that is told has no hash that could be compared. -/
  | nameless {index : Int64} {hash : Option String} {requested : Tipset}
      (isBlock : block = some ⟨some index, hash⟩)
      (isRequested : ground.Requested head index none requested)
      (hashless : requested.key.hashText? = none) : PointRefusal ground head block namelessError
  /-- It has another hash. -/
  | otherHash {index : Int64} {given own : String} {requested : Tipset}
      (isBlock : block = some ⟨some index, some given⟩)
      (isRequested : ground.Requested head index none requested)
      (isOwn : requested.key.hashText? = some own) (differs : own ≠ given) :
      PointRefusal ground head block (.because .hashMismatch given)
  /-- A hash alone selects nothing. -/
  | unindexed {given : String} (isBlock : block = some ⟨none, some given⟩) :
      PointRefusal ground head block (.bare .insufficientQuery)

/-- Where a balance is read, from a head on, and after which calls. -/
inductive PointFound (ground : Ground) (head : Tipset) :
    Option BlockSelector → BalancePoint → List Node.Call → Prop where
  /-- Nothing is selected. -/
  | unasked {point : BalancePoint} {made : List Node.Call}
      (ofHead : HeadPoint ground head point made) :
      PointFound ground head none point made
  /-- A selector that selects nothing is no different. -/
  | unselected {point : BalancePoint} {made : List Node.Call}
      (ofHead : HeadPoint ground head point made) :
      PointFound ground head (some ⟨none, none⟩) point made
  /-- Nor is the head any different from nothing, but that it is looked for. -/
  | atHead {index : Int64} {hash : Option String} {requested : Tipset} {point : BalancePoint}
      {made : List Node.Call} (isRequested : ground.Requested head index hash requested)
      (same : requested.height = head.height) (ofHead : HeadPoint ground head point made) :
      PointFound ground head (some ⟨some index, hash⟩) point
        (.tipsetAtOrBelow index head.key :: made)
  /-- Below the head, the next tipset is read for the one selected. -/
  | below {index : Int64} {hash : Option String} {requested child : Tipset}
      (isRequested : ground.Requested head index hash requested)
      (below : requested.height ≠ head.height)
      (isChild : ground.told (.tipsetAtOrAbove (requested.height + 1) head.key) child) :
      PointFound ground head (some ⟨some index, hash⟩) ⟨requested, child⟩
        [.tipsetAtOrBelow index head.key, .tipsetAtOrAbove (requested.height + 1) head.key]

/-- The calls that find out where a balance is read, the one
for the head included. -/
inductive PlaceCall (ground : Ground) (tag : Node.TipsetTag) (block : Option BlockSelector) :
    Node.Call → CallSite → Prop where
  /-- The head. -/
  | head : PlaceCall ground tag block (headCall tag) (.told .headUnavailable)
  /-- What follows from there. -/
  | point {head : Tipset} {call : Node.Call} {site : CallSite} (isHead : ground.Head tag head)
      (ofPoint : PointCall ground head block call site) : PlaceCall ground tag block call site

/-- Where a balance is read, and after which calls. -/
inductive PlaceFound (ground : Ground) (tag : Node.TipsetTag) (block : Option BlockSelector)
    (point : BalancePoint) : List Node.Call → Prop where
  | intro {head : Tipset} {made : List Node.Call} (isHead : ground.Head tag head)
      (found : PointFound ground head block point made) :
      PlaceFound ground tag block point (headCall tag :: made)

/-- Why the selected block is refused. -/
inductive PlaceRefusal (ground : Ground) (tag : Node.TipsetTag) (block : Option BlockSelector)
    (cause : ServiceError) : Prop where
  | intro {head : Tipset} (isHead : ground.Head tag head)
      (refusal : PointRefusal ground head block cause)

/-! ## What is read -/

/-- The call that a part of a multisig's balance takes. -/
def SubAccount.call (part : SubAccount) (address : Address) (key : TipsetKey) : Node.Call :=
  match part with
  | .locked => .availableBalance address key
  | .spendable => .availableBalance address key
  | .vesting => .vestingSchedule address key

/-- The kind of error that tells of a failure of that call. -/
def SubAccount.failureKind : SubAccount → ErrorKind
  | .locked => .balanceUnavailable
  | .spendable => .balanceUnavailable
  | .vesting => .vestingUnavailable

/-- It is not the kind that is left to timeouts, so the site of
the call is well-formed. -/
theorem SubAccount.failureKind_inTime (part : SubAccount) : part.failureKind ≠ .nodeTimedOut := by
  cases part with
  | locked => decide
  | spendable => decide
  | vesting => decide

/-- What is made of a failure of that call. The client is told the cause. -/
def SubAccount.site (part : SubAccount) : CallSite :=
  .told part.failureKind part.failureKind_inTime

/-- What a part of a multisig's balance comes to. -/
inductive PartFound (ground : Ground) (address : Address) (state : Tipset) (actor : ActorState) :
    SubAccount → TokenAmount × Option VestingSchedule → Prop where
  /-- What is locked is the rest of the balance. -/
  | locked {amount : TokenAmount}
      (told : ground.told (.availableBalance address state.key) amount) :
      PartFound ground address state actor .locked (actor.balance + -amount, none)
  /-- What may be spent is as told. -/
  | spendable {amount : TokenAmount}
      (told : ground.told (.availableBalance address state.key) amount) :
      PartFound ground address state actor .spendable (amount, none)
  /-- The schedule comes with no amount. -/
  | vesting {schedule : VestingSchedule}
      (told : ground.told (.vestingSchedule address state.key) schedule) :
      PartFound ground address state actor .vesting (0, some schedule)

/-- What the balance of an account, or a part of it, comes to,
and after which calls. -/
inductive AmountFound (ground : Ground) (service : Service) (address : Address) (state : Tipset) :
    Option SubAccount → TokenAmount × Option VestingSchedule → List Node.Call → Prop where
  /-- The whole is the balance of the actor, and nothing where there is none. -/
  | whole {actor : Option ActorState} (told : ground.told (.actor address state.key) actor) :
      AmountFound ground service address state none ((actor.map ActorState.balance).getD 0, none)
        [.actor address state.key]
  /-- A part is one of a multisig. -/
  | part {actor : ActorState} {part : SubAccount} {found : TokenAmount × Option VestingSchedule}
      (told : ground.told (.actor address state.key) (some actor))
      (isMultisig : service.isMultisig actor.code = true)
      (ofPart : PartFound ground address state actor part found) :
      AmountFound ground service address state (some part) found
        [.actor address state.key, part.call address state.key]

/-- The whole is what the actor has, and nothing where there is no actor. -/
theorem AmountFound.whole_eq {ground : Ground} {service : Service} {address : Address}
    {state : Tipset} {found : TokenAmount × Option VestingSchedule} {made : List Node.Call}
    (read : AmountFound ground service address state none found made) :
    ∃ actor, ground.told (.actor address state.key) actor ∧
      found.1 = (actor.map ActorState.balance).getD 0 := by
  cases read with
  | whole told => exact ⟨_, told, rfl⟩

/-- The part of an account that is asked for. -/
inductive AskedPart (account : AccountIdentifier) : Option SubAccount → Prop where
  /-- The whole. -/
  | whole (isNone : account.subAccount = none) : AskedPart account none
  /-- A part, by its name. -/
  | part {name : String} {part : SubAccount} (isName : account.subAccount = some name)
      (known : SubAccount.ofName? name = some part) : AskedPart account (some part)

/-- Where no part is named, none is asked for, so it is the whole
balance that is told. -/
theorem AskedPart.whole_only {account : AccountIdentifier} {part : Option SubAccount}
    (asked : AskedPart account part) (isNone : account.subAccount = none) : part = none := by
  cases asked with
  | whole => rfl
  | part isName known => exact nomatch isName.symm.trans isNone

/-! ## Balances -/

/-- How final a tipset is asked for by a request that is for the network served. -/
inductive Service.Tagged (service : Service) (network : Option NetworkIdentifier)
    (tag : Node.TipsetTag) :
    Prop where
  | intro {identifier : NetworkIdentifier} (accepted : service.accept network = .ok identifier)
      (tagged : service.finalityTag identifier = .ok tag)

/-- A request that is accepted asks for one tag, as both the network and the tag are
read from the same text. -/
theorem Service.Tagged.unique {service : Service} {network : Option NetworkIdentifier}
    {tag other : Node.TipsetTag} {identifier : NetworkIdentifier}
    (tagged : service.Tagged network tag) (accepted : service.accept network = .ok identifier)
    (isOther : service.finalityTag identifier = .ok other) : tag = other := by
  obtain ⟨isAccepted, isTag⟩ := tagged
  obtain rfl := Except.ok.inj (isAccepted.symm.trans accepted)
  exact Except.ok.inj (isTag.symm.trans isOther)

/-- The calls that an endpoint makes for a balance. -/
inductive BalanceCall (ground : Ground) (service : Service) (request : Request BalanceQuery) :
    Node.Call → CallSite → Prop where
  /-- How far the node is. -/
  | progress : BalanceCall ground service request .syncState (.told .syncStatusUnavailable)
  /-- Where the balance is read. -/
  | place {tag : Node.TipsetTag} {call : Node.Call} {site : CallSite}
      (tagged : service.Tagged request.network tag)
      (ofPlace : PlaceCall ground tag request.wanted.block call site) :
      BalanceCall ground service request call site
  /-- The actor. -/
  | actor {tag : Node.TipsetTag} {point : BalancePoint} {made : List Node.Call} {address : Address}
      (tagged : service.Tagged request.network tag)
      (placed : PlaceFound ground tag request.wanted.block point made)
      (parsed : Address.parse request.wanted.account.address = .ok address) :
      BalanceCall ground service request (.actor address point.state.key)
        (.told .accountUnavailable)
  /-- What is known of a part. -/
  | part {tag : Node.TipsetTag} {point : BalancePoint} {made : List Node.Call} {address : Address}
      {part : SubAccount} (tagged : service.Tagged request.network tag)
      (placed : PlaceFound ground tag request.wanted.block point made)
      (parsed : Address.parse request.wanted.account.address = .ok address)
      (asked : AskedPart request.wanted.account (some part)) :
      BalanceCall ground service request (part.call address point.state.key) part.site

/-- Why a request for a balance is refused. -/
inductive BalanceRefusal (ground : Ground) (service : Service) (request : Request BalanceQuery) :
    ServiceError → Prop where
  /-- It is not for the network served. -/
  | unaccepted {cause : ServiceError} (refused : service.accept request.network = .error cause) :
      BalanceRefusal ground service request cause
  /-- Its tag is none. -/
  | untagged {identifier : NetworkIdentifier} {cause : ServiceError}
      (accepted : service.accept request.network = .ok identifier)
      (refused : service.finalityTag identifier = .error cause) :
      BalanceRefusal ground service request cause
  /-- Its account is no address. -/
  | unparsed {cause : Address.ParseError}
      (refused : Address.parse request.wanted.account.address = .error cause) :
      BalanceRefusal ground service request (.because .invalidAddress cause.message)
  /-- There is no such part of a balance. -/
  | unknownPart {name : String} (isName : request.wanted.account.subAccount = some name)
      (unknown : SubAccount.ofName? name = none) :
      BalanceRefusal ground service request (.because .unknownSubAccount name)
  /-- The node does not follow the chain. -/
  | late {cause : ServiceError} (late : ground.Late .nodeNotSynced cause) :
      BalanceRefusal ground service request cause
  /-- The selected block is refused. -/
  | place {tag : Node.TipsetTag} {cause : ServiceError}
      (tagged : service.Tagged request.network tag)
      (refusal : PlaceRefusal ground tag request.wanted.block cause) :
      BalanceRefusal ground service request cause
  /-- The block to report has no hash. -/
  | nameless {tag : Node.TipsetTag} {point : BalancePoint} {made : List Node.Call}
      (tagged : service.Tagged request.network tag)
      (placed : PlaceFound ground tag request.wanted.block point made)
      (hashless : point.reported.key.hashText? = none) :
      BalanceRefusal ground service request namelessError
  /-- A part is asked for where there is no multisig. -/
  | notMultisig {part : SubAccount} (asked : AskedPart request.wanted.account (some part)) :
      BalanceRefusal ground service request (.because .notMultisig request.wanted.account.address)

/-- What a request for a balance comes to, and after which calls. -/
inductive BalanceFound (ground : Ground) (service : Service) (request : Request BalanceQuery)
    (balance : Balance) : List Node.Call → Prop where
  | intro {tag : Node.TipsetTag} {address : Address} {part : Option SubAccount}
      {point : BalancePoint}
      {placeCalls readCalls : List Node.Call} (tagged : service.Tagged request.network tag)
      (parsed : Address.parse request.wanted.account.address = .ok address)
      (asked : AskedPart request.wanted.account part)
      (placed : PlaceFound ground tag request.wanted.block point placeCalls)
      (names : Names balance.block point.reported)
      (read : AmountFound ground service address point.state part (balance.amount, balance.vesting)
        readCalls) :
      BalanceFound ground service request balance (.syncState :: (placeCalls ++ readCalls))

/-! ## Courses -/

namespace Course

variable {ground : Ground} {may : Node.Call → CallSite → Prop} {refuses : ServiceError → Prop}

/-- The head is read for its parent, which takes one call, or none where it
is the first tipset. -/
theorem headBalancePoint (head : Tipset)
    (mayAsk : ∀ key, parentKey? head = some key → may (.tipset key) (.told .parentUnavailable)) :
    Course ground may refuses (HeadPoint ground head) (Service.headBalancePoint head).run := by
  unfold Service.headBalancePoint
  cases linked : parentKey? head with
  | none => exact result (.first linked)
  | some key =>
    apply (call (mayAsk key linked)).attempt
    rintro parent made ⟨told, rfl⟩
    exact result (.parent linked told)

/-- Below a head, the selected tipset is looked for first, and
the next one afterwards. -/
theorem balancePointAt (head : Tipset) (index : Int64) (hash : Option String)
    (mayAsk : ∀ call site, PointCall ground head (some ⟨some index, hash⟩) call site →
      may call site)
    (isRefusal : ∀ cause, PointRefusal ground head (some ⟨some index, hash⟩) cause →
      refuses cause) :
    Course ground may refuses (PointFound ground head (some ⟨some index, hash⟩))
      (Service.balancePointAt head index hash).run := by
  have read (requested : Tipset) (isRequested : ground.Requested head index hash requested) :
      Course ground may refuses (fun point made =>
          PointFound ground head (some ⟨some index, hash⟩) point
            (.tipsetAtOrBelow index head.key :: made))
        (if requested.height = head.height then Service.headBalancePoint head
        else do
          let child ← Endpoint.call .tipsetUnavailable
            (.tipsetAtOrAbove (requested.height + 1) head.key)
          return ⟨requested, child⟩).run := by
    by_cases same : requested.height = head.height
    · rw [if_pos same]
      apply (headBalancePoint head fun key linked => mayAsk _ _ (.parent linked)).loosen
      exact fun point made ofHead => .atHead isRequested same ofHead
    · rw [if_neg same]
      apply (call (mayAsk _ _ (.next rfl isRequested same))).attempt
      rintro child made ⟨told, rfl⟩
      exact result (.below isRequested same told)
  unfold Service.balancePointAt
  refine guarded (fun below => isRefusal _ (.belowZero rfl below)) fun nonneg => ?_
  refine guarded (fun above => isRefusal _ (.aboveHead rfl above)) fun upToHead => ?_
  apply (call (mayAsk _ _ (.requested rfl nonneg upToHead))).attempt
  rintro requested made ⟨told, rfl⟩
  have isRequested : ground.Requested head index none requested :=
    ⟨nonneg, upToHead, told, fun _ impossible => nomatch impossible⟩
  cases hash with
  | none => exact read requested isRequested
  | some given =>
    apply (blockIdentifier requested fun hashless =>
      isRefusal _ (.nameless rfl isRequested hashless)).before
    rintro identifier ⟨own, isOwn, rfl⟩
    refine guarded (fun differs => isRefusal _ (.otherHash rfl isRequested isOwn differs))
      fun same => ?_
    obtain rfl := Decidable.not_not.mp same
    refine read requested { isRequested with hash := ?_ }
    rintro _ ⟨⟩
    exact isOwn

/-- The point of a selector is found from the head on: at the head itself if nothing
is selected, else by the height, and by the hash if one is given. -/
theorem balancePoint (tag : Node.TipsetTag) (block : Option BlockSelector)
    (mayAsk : ∀ call site, PlaceCall ground tag block call site → may call site)
    (isRefusal : ∀ cause, PlaceRefusal ground tag block cause → refuses cause) :
    Course ground may refuses (PlaceFound ground tag block)
      (Service.balancePoint tag block).run := by
  apply (head tag (mayAsk _ _ .head)).attempt
  rintro head made ⟨isHead, rfl⟩
  have ofHead :
      Course ground may refuses (HeadPoint ground head) (Service.headBalancePoint head).run :=
    headBalancePoint head fun key linked => mayAsk _ _ (.point isHead (.parent linked))
  match block with
  | none => exact ofHead.loosen fun point made found => .intro isHead (.unasked found)
  | some ⟨none, none⟩ =>
    exact ofHead.loosen fun point made found => .intro isHead (.unselected found)
  | some ⟨none, some given⟩ => exact refusal (isRefusal _ (.intro isHead (.unindexed rfl)))
  | some ⟨some index, hash⟩ =>
    apply (balancePointAt head index hash (fun _ _ ofPoint => mayAsk _ _ (.point isHead ofPoint))
      fun _ refusal => isRefusal _ (.intro isHead refusal)).loosen
    exact fun point made found => .intro isHead found

/-- A part of a multisig's balance takes one call, and the locked one is what the
balance has beyond it. -/
theorem subBalance (part : SubAccount) (address : Address) (state : Tipset) (actor : ActorState)
    (mayAsk : may (part.call address state.key) part.site) :
    Course ground may refuses (fun found made => PartFound ground address state actor part found ∧
        made = [part.call address state.key])
      (Service.subBalance part address state actor).run := by
  cases part with
  | locked =>
    apply attempt (call mayAsk)
    rintro amount made ⟨told, rfl⟩
    exact result ⟨.locked told, rfl⟩
  | spendable =>
    apply attempt (call mayAsk)
    rintro amount made ⟨told, rfl⟩
    exact result ⟨.spendable told, rfl⟩
  | vesting =>
    apply (call mayAsk).attempt
    rintro schedule made ⟨told, rfl⟩
    exact result ⟨.vesting told, rfl⟩

/-- The actor is read first, and a part afterwards, if it is one of a multisig. -/
theorem readBalance (service : Service) (account : AccountIdentifier) (address : Address)
    (part : Option SubAccount) (state : Tipset)
    (mayAsk : may (.actor address state.key) (.told .accountUnavailable))
    (mayAskPart : ∀ asked, part = some asked → may (asked.call address state.key) asked.site)
    (isRefusal : ∀ asked, part = some asked → refuses (.because .notMultisig account.address)) :
    Course ground may refuses (AmountFound ground service address state part)
      (service.readBalance account address part state).run := by
  apply (call mayAsk).attempt
  rintro actor made ⟨told, rfl⟩
  match part, actor with
  | none, none => exact result (.whole told)
  | none, some actor => exact result (.whole told)
  | some part, none => exact refusal (isRefusal part rfl)
  | some part, some actor =>
    dsimp only
    cases isMultisig : service.isMultisig actor.code with
    | false => exact refusal (isRefusal part rfl)
    | true =>
      apply (subBalance part address state actor (mayAskPart part rfl)).loosen
      rintro found made ⟨ofPart, rfl⟩
      exact .part told isMultisig ofPart

/-- The address of an account is read from its text, without a call. -/
theorem accountAddress (account : AccountIdentifier)
    (isRefusal : ∀ cause, Address.parse account.address = .error cause →
      refuses (.because .invalidAddress cause.message)) :
    Course ground may refuses (fun address made => Address.parse account.address =
      .ok address ∧ made = [])
      (Service.accountAddress account).run := by
  unfold Service.accountAddress
  cases parsed : Address.parse account.address with
  | ok address => exact result ⟨rfl, rfl⟩
  | error cause => exact refusal (isRefusal cause parsed)

/-- The part of an account that is asked for is known by its
name, without a call. -/
theorem accountPart (account : AccountIdentifier)
    (isRefusal : ∀ name, account.subAccount = some name → SubAccount.ofName? name = none →
      refuses (.because .unknownSubAccount name)) :
    Course ground may refuses (fun part made => AskedPart account part ∧ made = [])
      (Service.accountPart account).run := by
  unfold Service.accountPart
  cases isName : account.subAccount with
  | none => exact result ⟨.whole isName, rfl⟩
  | some name =>
    apply (demand (isRefusal name isName)).before
    intro part known
    exact result ⟨.part isName known, rfl⟩

/-- The course of a request for a balance: the gate, the head, the block, the actor
and its part, each with the refusals that belong to it. All that is proved of
balances is read off this. -/
theorem accountBalance (service : Service) (request : Request BalanceQuery) :
    Course ground (BalanceCall ground service request) (BalanceRefusal ground service request)
      (BalanceFound ground service request) (service.accountBalance request).run := by
  apply (given fun _ => BalanceRefusal.unaccepted).before
  intro identifier accepted
  apply (given fun _ => BalanceRefusal.untagged accepted).before
  intro tag isTag
  have tagged : service.Tagged request.network tag := .intro accepted isTag
  apply (accountAddress _ fun _ => BalanceRefusal.unparsed).before
  intro address parsed
  apply (accountPart _ fun _ => BalanceRefusal.unknownPart).before
  intro part asked
  apply (requireSynced _ .progress fun _ => BalanceRefusal.late).attempt
  rintro _ _ rfl
  apply (balancePoint tag request.wanted.block (fun _ _ => BalanceCall.place tagged)
    fun _ => BalanceRefusal.place tagged).attempt
  intro point placeCalls placed
  apply (blockIdentifier point.reported fun hashless => .nameless tagged placed hashless).before
  intro block names
  have mayAskPart (one : SubAccount) (isPart : part = some one) :
      BalanceCall ground service request (one.call address point.state.key) one.site := by
    subst isPart
    exact .part tagged placed parsed asked
  have isRefusal (one : SubAccount) (isPart : part = some one) :
      BalanceRefusal ground service request
      (.because .notMultisig request.wanted.account.address) := by
    subst isPart
    exact .notMultisig asked
  apply (readBalance service _ address part point.state (.actor tagged placed parsed) mayAskPart
    isRefusal).attempt
  rintro ⟨amount, vesting⟩ readCalls read
  have found : BalanceFound ground service request ⟨block, amount, vesting⟩
      (.syncState :: (placeCalls ++ readCalls)) := .intro tagged parsed asked placed names read
  apply result
  rw [List.append_nil]
  exact found

end Course

end FilecoinRosetta.Rosetta
