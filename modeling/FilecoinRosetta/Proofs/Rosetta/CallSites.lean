import FilecoinRosetta.Proofs.Rosetta.Admission
import FilecoinRosetta.Proofs.Rosetta.Courses.Balances
import FilecoinRosetta.Proofs.Rosetta.Courses.Blocks
import FilecoinRosetta.Proofs.Rosetta.Courses.Messages
import FilecoinRosetta.Proofs.Rosetta.Courses.Network

/-!
# What endpoints ask themselves

Of the calls that are made for a request, those of look-ups may fail without harm.
All others are made by the endpoint itself. Each of them has its place in a table,
which says by what kind of error a failure is told, and whether the cause is told
too. The first one that fails is the last one made.
-/

namespace FilecoinRosetta

namespace Rosetta

namespace Route

/-- A call whose failure is told with its cause. -/
def told (kind : ErrorKind) (inTime : kind ≠ .nodeTimedOut := by decide) : Option CallSite :=
  some ⟨kind, true, inTime⟩

/-- The calls that endpoints make themselves, with what they make of failures. -/
def site? (route : Route) (call : Node.Call) : Option CallSite :=
  match route with
  | .networkStatus => match call with
      | .syncState => told .syncStatusUnavailable
      | .chainGenesis => told .genesisUnavailable
      | .chainHead => told .headUnavailable
      | .tipsetOfTag _ => told .headUnavailable
      | .peers => told .peersUnavailable
      | _ => none
  | .networkOptions => match call with
      | .version => some ⟨.nodeInfoUnavailable, false, by decide⟩
      | _ => none
  | .accountBalance => match call with
      | .syncState => told .syncStatusUnavailable
      | .chainHead => told .headUnavailable
      | .tipsetOfTag _ => told .headUnavailable
      | .tipset _ => told .parentUnavailable
      | .tipsetAtOrBelow _ _ => told .tipsetUnavailable
      | .tipsetAtOrAbove _ _ => told .tipsetUnavailable
      | .actor _ _ => told .accountUnavailable
      | .availableBalance _ _ => told .balanceUnavailable
      | .vestingSchedule _ _ => told .vestingUnavailable
      | _ => none
  | .block => match call with
      | .syncState => told .syncStatusUnavailable
      | .chainHead => told .headUnavailable
      | .tipsetAtOrBelow _ _ => told .tipsetUnavailable
      | .tipset _ => told .parentUnavailable
      | .computeState _ _ => told .transactionsUnavailable
      | _ => none
  | .blockTransaction => match call with
      | .syncState => told .syncStatusUnavailable
      | .chainHead => told .headUnavailable
      | .tipsetAtOrBelow _ _ => told .tipsetUnavailable
      | .computeState _ _ => told .transactionsUnavailable
      | _ => none
  | .mempool => pending call
  | .mempoolTransaction => pending call
  | .constructionMetadata => match call with
      | .syncState => told .syncStatusUnavailable
      | .chainHead => told .headUnavailable
      | .nextNonce _ => told .nonceUnavailable
      | .estimateGasLimit _ _ => told .gasEstimateUnavailable
      | .estimateGasPremium _ _ _ _ => told .gasEstimateUnavailable
      | .estimateFeeCap _ _ _ => told .gasEstimateUnavailable
      | .actor _ _ => told .balanceUnavailable
      | _ => none
  | .constructionSubmit => match call with
      | .pushMessage _ => told .submissionFailed
      | _ => none
  | _ => none
where
  pending : Node.Call → Option CallSite
    | .syncState => told .syncStatusUnavailable
    | .chainHead => told .headUnavailable
    | .pendingMessages _ => told .transactionsUnavailable
    | _ => none

/-- The endpoints that look addresses up. -/
def looksUp : Route → Bool
  | .block => true
  | .blockTransaction => true
  | .mempoolTransaction => true
  | _ => false

/-- What look-ups ask for an endpoint. -/
def Seeks (route : Route) (call : Node.Call) : Prop :=
  route.looksUp = true ∧ Lookup.IsQuestion call

/-- No endpoint asks itself what look-ups ask for it, so it is clear of each
call who made it. -/
theorem Seeks.no_site {route : Route} {call : Node.Call} (seeks : route.Seeks call) :
    route.site? call = none := by
  obtain ⟨looksUp, address, member⟩ := seeks
  simp only [Node.Call.about, List.mem_cons, List.not_mem_nil, or_false] at member
  cases route with
  | block => rcases member with rfl | rfl | rfl | rfl <;> rfl
  | blockTransaction => rcases member with rfl | rfl | rfl | rfl <;> rfl
  | mempoolTransaction => rcases member with rfl | rfl | rfl | rfl <;> rfl
  | _ => exact absurd looksUp Bool.false_ne_true

end Route

/-! ## Endpoints that end with the first failure -/

variable {table : Node.Call → Option CallSite} {seeks : Node.Call → Prop} {α β : Type}

/-- An endpoint that makes calls of a table and ends with the first of them that
fails, by the error of the table. All other calls that it makes are those of
look-ups, and what it ends with otherwise is no timeout. -/
inductive Heeds (table : Node.Call → Option CallSite) (seeks : Node.Call → Prop) {α : Type} :
    Program (Except ServiceError α) → Prop where
  /-- The end. -/
  | done {result : Except ServiceError α}
      (inTime : ∀ cause, result = .error cause → cause.kind ≠ .nodeTimedOut) :
      Heeds table seeks (.done result)
  /-- A call of the table. -/
  | ask {call : Node.Call}
      {next : Except Node.Failure call.Answer → Program (Except ServiceError α)} {site : CallSite}
      (isSite : table call = some site)
      (fails : ∀ failure, next (.error failure) = .done (.error (site.error failure)))
      (follows : ∀ answer, Heeds table seeks (next (.ok answer))) :
      Heeds table seeks (.ask call next)
  /-- A call of a look-up. -/
  | look {call : Node.Call}
      {next : Except Node.Failure call.Answer → Program (Except ServiceError α)}
      (isSought : seeks call) (follows : ∀ answer, Heeds table seeks (next answer)) :
      Heeds table seeks (.ask call next)
  /-- A look at what is known. -/
  | consult (name : String) {next : AddressCache.Entry → Program (Except ServiceError α)}
      (follows : ∀ entry, Heeds table seeks (next entry)) : Heeds table seeks (.consult name next)
  /-- A fact learned. -/
  | learn (name : String) (fact : AddressCache.Fact) {next : Program (Except ServiceError α)}
      (follows : Heeds table seeks next) : Heeds table seeks (.learn name fact next)
  /-- Time that passes. -/
  | wait (span : Duration) {next : Program (Except ServiceError α)}
      (follows : Heeds table seeks next) :
      Heeds table seeks (.wait span next)

/-- Each step of a look-up is one that an endpoint may take between its own calls,
so what follows a look-up decides how failures are heeded. -/
theorem Heeds.behind {first : Program β} {next : β → Program (Except ServiceError α)}
    (asks : Program.Asks Lookup.IsQuestion first)
    (isSought : ∀ call, Lookup.IsQuestion call → seeks call)
    (follows : ∀ value, Heeds table seeks (next value)) : Heeds table seeks (first.bind next) := by
  induction asks with
  | done value => exact follows value
  | ask isQuestion _ ih => exact .look (isSought _ isQuestion) ih
  | consult name _ ih => exact .consult name ih
  | learn name fact _ ih => exact .learn name fact ih
  | wait span _ ih => exact .wait span ih

/-! ## Calls of courses -/

namespace Route

/-- Whatever head is asked for, a failure is told as one of the head. -/
theorem site_headCall {route : Route} (tag : Node.TipsetTag)
    (ofHead : route.site? .chainHead = told .headUnavailable)
    (ofTag : ∀ tag, route.site? (.tipsetOfTag tag) = told .headUnavailable) :
    route.site? (headCall tag) = some (.told .headUnavailable) := by
  cases tag with
  | latest => exact ofHead
  | safe => exact ofTag .safe
  | finalized => exact ofTag .finalized

end Route

variable {ground : Ground} {call : Node.Call} {site : CallSite}

/-- The calls for a block are those of the table, each with the error that
the table gives it. -/
theorem BlockCall.isSite {selector : BlockSelector}
    (ofBlock : BlockCall ground selector call site) :
    Route.block.site? call = some site := by
  cases ofBlock with
  | progress => rfl
  | tipset isIndex ofTipset => cases ofTipset <;> rfl
  | parent isIndex found child => rfl
  | execution isIndex found child => rfl

/-- So are those for a transaction of a block, which are those for the block. -/
theorem TransactionCall.isSite {query : TransactionQuery}
    (ofOne : TransactionCall ground query call site) :
    Route.blockTransaction.site? call = some site := by
  cases ofOne with
  | progress => rfl
  | tipset ofTipset => cases ofTipset <;> rfl
  | execution found child => rfl

/-- So are those that find out where a balance is read, whatever the block
that is asked for. -/
theorem PlaceCall.isSite {tag : Node.TipsetTag} {block : Option BlockSelector}
    (ofPlace : PlaceCall ground tag block call site) :
    Route.accountBalance.site? call = some site := by
  cases ofPlace with
  | head => exact Route.site_headCall tag rfl fun _ => rfl
  | point isHead ofPoint => cases ofPoint <;> rfl

/-- So are those that read it, one for each part of a balance and
one for the actor. -/
theorem BalanceCall.isSite {service : Service} {request : Request BalanceQuery}
    (ofBalance : BalanceCall ground service request call site) :
    Route.accountBalance.site? call = some site := by
  cases ofBalance with
  | progress => rfl
  | place tagged ofPlace => exact ofPlace.isSite
  | actor tagged placed parsed => rfl
  | @part tag point made address part => cases part <;> rfl

/-- So are those for pending messages, whatever is told of them. -/
theorem PendingCall.isSite (ofPending : PendingCall ground call site) :
    Route.site?.pending call = some site := by
  cases ofPending <;> rfl

/-- So are those for a new message: the nonce, the gas and the
state of the sender. -/
theorem MetadataCall.isSite (ofMetadata : MetadataCall call site) :
    Route.constructionMetadata.site? call = some site := by
  cases ofMetadata <;> rfl

/-- So are those for the status of the network, which include the head, the first
block and the peers. -/
theorem StatusCall.isSite {service : Service} {network : Option NetworkIdentifier}
    (ofStatus : StatusCall service network call site) :
    Route.networkStatus.site? call = some site := by
  cases ofStatus with
  | progress => rfl
  | genesis => rfl
  | head accepted tagged => exact Route.site_headCall _ rfl fun _ => rfl
  | peers => rfl

/-! ## Refusals are no timeouts -/

/-- An error that does not say that a call took too long. -/
def ServiceError.InTime (cause : ServiceError) : Prop :=
  cause.kind ≠ .nodeTimedOut

namespace ServiceError.InTime

variable {service : Service} {cause : ServiceError}

/-- A check that does not take a flaw for a timeout refuses in time. -/
theorem judged {α : Type} {flaw : ErrorKind → Prop} {check : Except ServiceError α}
    (judges : Judges flaw check) (inTime : ¬ flaw .nodeTimedOut) (refused : check = .error cause) :
    cause.InTime := by
  rintro isTimeout
  subst refused
  rw [Judges, isTimeout] at judges
  exact inTime judges

/-- A request for another network is refused in time, as this takes no call. -/
theorem unaccepted {network : Option NetworkIdentifier}
    (refused : service.accept network = .error cause) :
    cause.InTime := by
  rcases misdirected_or_addressed service (some network) with ⟨other, misdirected⟩ |
    ⟨identifier, addressed⟩
  · obtain rfl := Except.error.inj ((Service.accept_misdirected misdirected).symm.trans refused)
    cases misdirected with
    | unnamed => exact fun impossible => nomatch impossible
    | blockchain _ => exact fun impossible => nomatch impossible
    | network _ _ => exact fun impossible => nomatch impossible
    | subNetwork _ _ _ _ => exact fun impossible => nomatch impossible
  · exact nomatch (Service.accept_addressed addressed).symm.trans refused

/-- A tag that is none is refused in time, as this takes no call. -/
theorem untagged {identifier : NetworkIdentifier}
    (refused : service.finalityTag identifier = .error cause) :
    cause.InTime :=
  judged (service.finalityTag_judges identifier) (nomatch ·) refused

/-- A node that is not known to make progress is refused in time. -/
theorem stalled (stalled : ground.Stalled cause) : cause.InTime := by
  cases stalled with
  | untargeted told unknown => exact fun impossible => nomatch impossible
  | errored told evaluated isErrored => exact fun impossible => nomatch impossible

/-- A node that is on its way is refused in time, if endpoints do not say
so by a timeout. -/
theorem late {kind : ErrorKind} (inTime : kind ≠ .nodeTimedOut) (late : ground.Late kind cause) :
    cause.InTime := by
  cases late with
  | stalled isStalled => exact stalled isStalled
  | underway progress notSynced => exact inTime

end ServiceError.InTime

/-- Heights and hashes are refused in time, whatever the node told until then. -/
theorem TipsetRefusal.inTime {index : Int64} {hash : Option String} {cause : ServiceError}
    (refusal : TipsetRefusal ground index hash cause) : cause.InTime := by
  cases refusal <;> exact fun impossible => nomatch impossible

/-- So are selectors of blocks to read balances at, by the refusals of the
tipset that they name. -/
theorem PlaceRefusal.inTime {tag : Node.TipsetTag} {block : Option BlockSelector}
    {cause : ServiceError} (refusal : PlaceRefusal ground tag block cause) : cause.InTime := by
  obtain ⟨isHead, refusal⟩ := refusal
  cases refusal <;> exact fun impossible => nomatch impossible

/-- Blocks are refused in time. No refusal of an endpoint is taken for a timeout. -/
theorem BlockRefusal.inTime {service : Service} {request : Request BlockSelector}
    {cause : ServiceError} (refusal : BlockRefusal ground service request cause) :
    cause.InTime := by
  cases refusal with
  | unaccepted refused => exact .unaccepted refused
  | late isLate => exact .late (by decide) isLate
  | tipset isIndex refusal => exact refusal.inTime
  | _ => exact fun impossible => nomatch impossible

/-- So are their transactions, also where the block has none with the hash. -/
theorem TransactionRefusal.inTime {service : Service} {request : Request TransactionQuery}
    {cause : ServiceError} (refusal : TransactionRefusal ground service request cause) :
    cause.InTime := by
  cases refusal with
  | unaccepted refused => exact .unaccepted refused
  | late isLate => exact .late (by decide) isLate
  | tipset refusal => exact refusal.inTime
  | _ => exact fun impossible => nomatch impossible

/-- Balances are refused in time, be it for the request, for the block or for the
part of the account. -/
theorem BalanceRefusal.inTime {service : Service} {request : Request BalanceQuery}
    {cause : ServiceError} (refusal : BalanceRefusal ground service request cause) :
    cause.InTime := by
  cases refusal with
  | unaccepted refused => exact .unaccepted refused
  | untagged accepted refused => exact .untagged refused
  | late isLate => exact .late (by decide) isLate
  | place tagged refusal => exact refusal.inTime
  | _ => exact fun impossible => nomatch impossible

/-- The list of pending messages is refused in time, also where one of
them has no identity. -/
theorem MempoolRefusal.inTime {service : Service} {request : Request Unit} {cause : ServiceError}
    (refusal : MempoolRefusal ground service request cause) : cause.InTime := by
  cases refusal with
  | unaccepted refused => exact .unaccepted refused
  | late isLate => exact .late (by decide) isLate
  | unidentified => exact fun impossible => nomatch impossible

/-- So is the transaction of one of them, also where none has the hash. -/
theorem PendingRefusal.inTime {service : Service} {request : Request String} {cause : ServiceError}
    (refusal : PendingRefusal ground service request cause) : cause.InTime := by
  cases refusal with
  | unaccepted refused => exact .unaccepted refused
  | late isLate => exact .late (by decide) isLate
  | _ => exact fun impossible => nomatch impossible

/-- A new message is refused in time, by the flaws of its options in particular. -/
theorem MetadataRefusal.inTime {service : Service} {request : Request Metadata}
    {cause : ServiceError} (refusal : MetadataRefusal ground service request cause) :
    cause.InTime := by
  cases refusal with
  | unaccepted refused => exact .unaccepted refused
  | undescribed refused => exact .judged (Service.draft_judges _) (nomatch ·) refused
  | late isLate => exact .late (by decide) isLate
  | insolvent => exact fun impossible => nomatch impossible

/-- So is a signed one, unless it was handed in. After that the only error is
that of the node. -/
theorem SubmitRefusal.inTime {service : Service} {request : Request String} {cause : ServiceError}
    (refusal : SubmitRefusal service request cause) : cause.InTime := by
  cases refusal with
  | unaccepted refused => exact .unaccepted refused
  | unread refused => exact .judged (Service.signedMessage_judges _) (nomatch ·) refused

/-- The status of the network is refused in time, also where the
node tells no workers. -/
theorem StatusRefusal.inTime {service : Service} {network : Option NetworkIdentifier}
    {cause : ServiceError} (refusal : StatusRefusal ground service network cause) :
    cause.InTime := by
  cases refusal with
  | unaccepted refused => exact .unaccepted refused
  | untagged accepted refused => exact .untagged refused
  | stalled isStalled => exact .stalled isStalled
  | nameless accepted tagged isCurrent hashless => exact fun impossible => nomatch impossible

/-! ## The course of every endpoint -/

namespace Course

/-- A body is read, or it is refused in time. No call is made for
it in either case. -/
theorem read (reader : Json.Reader α) (body : Bytes) {may : Node.Call → CallSite → Prop} :
    Course ground may ServiceError.InTime (fun _ made => True ∧ made = [])
      (liftM (readBody reader body) : Endpoint α).run := by
  unfold readBody
  split
  · exact result ⟨trivial, rfl⟩
  · exact refusal fun impossible => nomatch impossible

/-- An endpoint is asked for what was read, and its answer is made into JSON. Its
calls are those of the table, and it refuses in time. -/
theorem answered {route : Route} {reader : Json.Reader α} {body : Bytes}
    {endpoint : α → Endpoint β} {json : β → Json} {may : α → Node.Call → CallSite → Prop}
    {refuses : α → ServiceError → Prop} {good : α → β → List Node.Call → Prop}
    (course : ∀ request, Course ground (may request) (refuses request) (good request)
      (endpoint request).run)
    (isSite : ∀ request call site, may request call site → route.site? call = some site)
    (inTime : ∀ request cause, refuses request cause → cause.InTime) :
    Course ground (fun call site => route.site? call = some site) ServiceError.InTime
      (fun _ _ => True)
      (ExceptT.run do
        let request ← (liftM (readBody reader body) : Endpoint α)
        let found ← endpoint request
        return json found) := by
  apply (read reader body).before
  intro request _
  apply ((course request).weaken (isSite request) (inTime request) fun _ _ => id).attempt
  intro found made _
  exact result trivial

/-- Every endpoint makes the calls of its table. It refuses in time, so that an
error of a timeout is one of a call that took too long. Besides, addresses are
looked up by those endpoints that the table names. -/
theorem answer (service : Service) (route : Route) (body : Bytes)
    (mayLook : route.looksUp = true → ∀ {γ : Type} {program : Program γ},
      service.directory.LooksUp program → ground.looks program) :
    Course ground (fun call site => route.site? call = some site) ServiceError.InTime
      (fun _ _ => True)
      (service.answer route body).run := by
  have blocks (looks : route.looksUp = true) (invocations : List Invocation) :
      ground.looks (service.directory.transactions invocations) :=
    mayLook looks fun _ inherited => inherited.transactions invocations
  have messages (looks : route.looksUp = true) (message : Message) :
      ground.looks (service.pendingTransfer message) :=
    mayLook looks (pendingTransfer_looksUp service message)
  have offline : Course ground (fun call site => route.site? call = some site) ServiceError.InTime
      (fun _ _ => True) (Service.answer.offline service route body).run := by
    apply answered (constructionOffline service route.path) fun _ _ _ => False.elim
    rintro request cause (refused | -)
    · exact .unaccepted refused
    · exact fun impossible => nomatch impossible
  cases route with
  | networkList =>
    apply (read readListRequest body).before
    intro _ _
    exact result trivial
  | networkStatus =>
    exact answered (networkStatus service) (fun _ _ _ => (·.isSite)) fun _ _ => (·.inTime)
  | networkOptions =>
    apply answered (networkOptions service) ?_ fun _ _ => .unaccepted
    rintro _ _ _ ⟨⟩
    rfl
  | accountBalance =>
    exact answered (accountBalance service) (fun _ _ _ => (·.isSite)) fun _ _ => (·.inTime)
  | block =>
    exact answered (block service · (blocks rfl)) (fun _ _ _ => (·.isSite)) fun _ _ => (·.inTime)
  | blockTransaction =>
    exact answered (blockTransaction service · (blocks rfl)) (fun _ _ _ => (·.isSite)) fun _ _ =>
      (·.inTime)
  | mempool => exact answered (mempool service) (fun _ _ _ => (·.isSite)) fun _ _ => (·.inTime)
  | mempoolTransaction =>
    exact answered (mempoolTransaction service · (messages rfl)) (fun _ _ _ => (·.isSite))
      fun _ _ => (·.inTime)
  | constructionMetadata =>
    exact answered (constructionMetadata service) (fun _ _ _ => (·.isSite)) fun _ _ => (·.inTime)
  | constructionSubmit =>
    apply answered (constructionSubmit service) ?_ fun _ _ => (·.inTime)
    rintro _ _ _ ⟨isMessage⟩
    rfl
  | _ => exact offline

/-! ## Failures are heeded -/

/-- If anything may be told and found, an endpoint ends with the first failure of a
call of the table. Its calls are of the table, it refuses in time, and what it looks
up are addresses that may be sought. -/
theorem heeds {directory : Directory} {may : Node.Call → CallSite → Prop}
    {refuses : ServiceError → Prop} {good : α → List Node.Call → Prop}
    {program : Program (Except ServiceError α)} (course : Course ground may refuses good program)
    (told : ∀ call answer, ground.told call answer)
    (looks : ∀ {γ : Type} {first : Program γ}, ground.looks first → directory.LooksUp first ∧
      (∀ call, Lookup.IsQuestion call → seeks call) ∧
        ∀ value, ∃ made, ground.finds first value made)
    (isSite : ∀ call site, may call site → table call = some site)
    (inTime : ∀ cause, refuses cause → cause.InTime) : Heeds table seeks program := by
  induction course with
  | found isGood => exact .done fun _ impossible => nomatch impossible
  | refused isRefusal => exact .done fun _ same => Except.error.inj same ▸ inTime _ isRefusal
  | ask mayAsk fails _ ih =>
    exact .ask (isSite _ _ mayAsk) fails fun answer => ih answer (told _ answer)
  | @look good γ first next looksUp _ ih =>
    obtain ⟨ofLookUps, isSought, finds⟩ := looks looksUp
    apply Heeds.behind (ofLookUps _ directory.asks_inherited) isSought
    intro value
    obtain ⟨made, isFound⟩ := finds value
    exact ih value made isFound

end Course

/-- All endpoints end with the first of their own calls that fails. The calls of
look-ups are made by those endpoints only that the table names. -/
theorem Heeds.answer (service : Service) (route : Route) (body : Bytes) :
    Heeds (route.site? ·) route.Seeks (service.answer route body).run := by
  let ground : Ground := .anything fun program => route.looksUp = true ∧
      service.directory.LooksUp program
  have course : Course ground _ _ _ (service.answer route body).run :=
    Course.answer service route body fun looks _ _ ofLookUps => ⟨looks, ofLookUps⟩
  have looks {γ : Type} {first : Program γ} (isLook : ground.looks first) :
      service.directory.LooksUp first ∧ (∀ call, Lookup.IsQuestion call → route.Seeks call) ∧
        ∀ value : γ, ∃ made, ground.finds first value made :=
    ⟨isLook.2, fun call isQuestion => ⟨isLook.1, isQuestion⟩, fun _ => ⟨[], trivial⟩⟩
  exact course.heeds (fun _ _ => trivial) looks (fun _ _ isSite => isSite) fun _ inTime => inTime

end Rosetta

end FilecoinRosetta
