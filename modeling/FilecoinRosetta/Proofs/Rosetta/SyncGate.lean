import FilecoinRosetta.Proofs.Program.Calls
import FilecoinRosetta.Proofs.Sync.Evaluation
import FilecoinRosetta.Rosetta.Router

/-!
# Nothing is served by an unsynced node

Endpoints about balances, blocks, pending messages and new messages look at the
request first, which takes no call. Then they ask for the progress of the node, and
go on only if it follows the chain. So a node that does not is asked nothing else,
and the answer says what is wrong with it. The status of the network is told by a
node on its way too, but the block that it names is the first one then, and the
head is left alone.
-/

namespace FilecoinRosetta.Rosetta

open Program

/-- The kind of error by which an endpoint refuses to answer while the node is on
its way, if it needs one that is synced. -/
def Route.lateKind? : Route → Option ErrorKind
  | .accountBalance => some .nodeNotSynced
  | .constructionMetadata => some .nodeNotSynced
  | .block => some .blockNotSynced
  | .blockTransaction => some .blockNotSynced
  | .mempool => some .blockNotSynced
  | .mempoolTransaction => some .blockNotSynced
  | _ => none

/-- Why the gate is closed, from the answer to the question for the workers. -/
inductive Closed (late : ErrorKind) : Except Node.Failure SyncState → ServiceError → Prop where
  /-- No answer came in time. -/
  | timedOut (method : String) (limit : Duration) :
      Closed late (.error (.timedOut method limit))
        (.because .nodeTimedOut (Node.Failure.timedOut method limit).message)
  /-- There was no answer. -/
  | failed {failure : Node.Failure} (inTime : failure.isTimeout = false) :
      Closed late (.error failure) (.because .syncStatusUnavailable failure.message)
  /-- No worker has a target. -/
  | untargeted {state : SyncState} (none : ∀ worker ∈ state.workers, worker.target = none) :
      Closed late (.ok state) (.because .syncStatusUnavailable SyncStatus.unknownMessage)
  /-- A worker that counts failed. -/
  | errored {state : SyncState} {worker : SyncWorker} (counts : worker ∈ state.targeted)
      (isError : worker.stage = .error) : Closed late (.ok state) (.bare .syncErrored)
  /-- The node is on its way. -/
  | underway {state : SyncState} {status : SyncStatus}
      (evaluated : SyncStatus.evaluate? state = some status)
      (isUnderway : status.stage.Underway) :
      Closed late (.ok state) (.because late status.stage.text)

/-! ## Steps of endpoints -/

namespace Endpoint

variable {α : Type}

/-- A call of an endpoint comes to the answer of the node, with a failure told by
the kind of the call. It is noted as asked in either case. -/
theorem call_run (node : Node) (kind : ErrorKind) (call : Node.Call) (session : Session) :
    (Endpoint.call kind call).run.run node session =
      ((node.answer session.past call).mapError (ServiceError.ofFailure kind),
        session.asked call) :=
  rfl

/-- A call of an endpoint is one call on the node. -/
theorem call_calls (node : Node) (kind : ErrorKind) (call : Node.Call) (session : Session) :
    (Endpoint.call kind call).run.calls node session = [call] :=
  rfl

/-- A value that is given takes no step, so it may be left out of
what an endpoint does. -/
theorem given_ok {β : Type} (value : β) (next : β → Endpoint α) :
    ((liftM (Except.ok value : Except ServiceError β) : Endpoint β) >>= next) = next value :=
  rfl

/-- What is demanded is there or refused, without a call and without a change. -/
theorem demand_run (node : Node) (kind : ErrorKind) (cause : String) (value : Option α)
    (session : Session) :
    (demand kind cause value).run.run node session =
        (match value with
        | some found => .ok found
        | none => .error (.because kind cause), session) ∧
      (demand kind cause value).run.calls node session = [] := by
  cases value with
  | some found => exact ⟨rfl, rfl⟩
  | none => exact ⟨rfl, rfl⟩

end Endpoint

namespace Service

/-- A status that is no error is what the question for the progress of
the node comes to. -/
theorem syncStatus_sound (node : Node) (session : Session) {state : SyncState} {status : SyncStatus}
    (answer : node.answer session.past .syncState = .ok state)
    (evaluated : SyncStatus.evaluate? state = some status) (sound : status.stage ≠ .error) :
    syncStatus.run.run node session = (.ok status, session.asked .syncState) := by
  have notErrored : ¬ status.isErrored = true := fun isErrored => sound (beq_iff_eq.mp isErrored)
  unfold syncStatus
  rw [run_attempt, Endpoint.call_run, answer]
  dsimp only [Except.mapError]
  rw [run_attempt, (Endpoint.demand_run _ _ _ _ _).1, evaluated]
  dsimp only
  rw [if_neg notErrored]
  rfl

/-- The one question for the progress of the node is answered by a status that
is no error, or tells why there is none, whatever the endpoint would say of a
node on its way. -/
theorem syncStatus_run (node : Node) (session : Session) :
    ((∃ cause, (∀ late, Closed late (node.answer session.past .syncState) cause) ∧
        syncStatus.run.run node session = (.error cause, session.asked .syncState)) ∨
      ∃ state status, node.answer session.past .syncState = .ok state ∧
        SyncStatus.evaluate? state = some status ∧ status.stage ≠ .error ∧
        syncStatus.run.run node session = (.ok status, session.asked .syncState)) ∧
      syncStatus.run.calls node session = [.syncState] := by
  unfold syncStatus
  rw [run_attempt, calls_attempt, Endpoint.call_run, Endpoint.call_calls]
  cases answer : node.answer session.past .syncState with
  | error failure =>
    refine ⟨.inl ⟨_, ?_, rfl⟩, rfl⟩
    intro late
    cases failure with
    | timedOut method limit => exact .timedOut method limit
    | refused code message => exact .failed rfl
    | unreadable => exact .failed rfl
    | unreachable => exact .failed rfl
    | other causes => exact .failed rfl
  | ok state =>
    dsimp only [Except.mapError]
    rw [run_attempt, calls_attempt, (Endpoint.demand_run _ _ _ _ _).1,
      (Endpoint.demand_run _ _ _ _ _).2]
    cases evaluated : SyncStatus.evaluate? state with
    | none =>
      have untargeted := (SyncStatus.evaluate_none_iff state).mp evaluated
      exact ⟨.inl ⟨_, fun _ => .untargeted untargeted, rfl⟩, rfl⟩
    | some status =>
      dsimp only
      by_cases errored : status.stage = .error
      · have isErrored : status.isErrored = true := beq_iff_eq.mpr errored
        obtain ⟨worker, counts, isError⟩ := (SyncStatus.errored_iff evaluated).mp errored
        rw [if_pos isErrored]
        exact ⟨.inl ⟨_, fun _ => .errored counts isError, rfl⟩, rfl⟩
      · have notErrored : ¬ status.isErrored = true :=
          fun isErrored => errored (beq_iff_eq.mp isErrored)
        rw [if_neg notErrored]
        exact ⟨.inr ⟨state, status, rfl, evaluated, errored, rfl⟩, rfl⟩

/-- The gate takes one call. It opens exactly if the common stage of
the workers is complete. -/
theorem requireSynced_run (node : Node) (late : ErrorKind) (session : Session) :
    ((∃ cause, Closed late (node.answer session.past .syncState) cause ∧
        (requireSynced late).run.run node session = (.error cause, session.asked .syncState)) ∨
      ∃ state status, node.answer session.past .syncState = .ok state ∧
        SyncStatus.evaluate? state = some status ∧ status.stage = .complete ∧
        (requireSynced late).run.run node session = (.ok (), session.asked .syncState)) ∧
      (requireSynced late).run.calls node session = [.syncState] := by
  obtain ⟨found, asked⟩ := syncStatus_run node session
  unfold requireSynced
  rw [run_attempt, calls_attempt, asked]
  rcases found with ⟨cause, closed, comesTo⟩ | ⟨state, status, answer, evaluated, sound, comesTo⟩
  · rw [comesTo]
    exact ⟨.inl ⟨cause, closed late, rfl⟩, rfl⟩
  · rw [comesTo]
    dsimp only
    by_cases complete : status.stage = .complete
    · have isSynced : status.isSynced = true := beq_iff_eq.mpr complete
      rw [if_pos isSynced]
      exact ⟨.inr ⟨state, status, answer, evaluated, complete, rfl⟩, rfl⟩
    · have notSynced : ¬ status.isSynced = true := fun isSynced => complete (beq_iff_eq.mp isSynced)
      rw [if_neg notSynced, answer]
      exact ⟨.inl ⟨_, .underway evaluated ⟨complete, sound⟩, rfl⟩, rfl⟩

end Service

/-! ## Endpoints behind the gate -/

/-- An endpoint that refuses at once or has everything it does behind the gate. -/
inductive Gated (late : ErrorKind) {α : Type} : Endpoint α → Prop where
  /-- It refuses. -/
  | refusal (cause : ServiceError) : Gated late (throw cause)
  /-- It goes through the gate. -/
  | gate (next : Unit → Endpoint α) : Gated late (Service.requireSynced late >>= next)

namespace Gated

variable {late : ErrorKind} {α β : Type}

/-- What a request gives is looked at in front of the gate. -/
theorem given {value : Except ServiceError β} {next : β → Endpoint α}
    (follows : ∀ found, Gated late (next found)) :
    Gated late ((liftM value : Endpoint β) >>= next) := by
  cases value with
  | ok found => exact follows found
  | error cause => exact .refusal cause

/-- So is what it must give: if it does not, the endpoint is
refused before the gate. -/
theorem demanded (kind : ErrorKind) (cause : String) {value : Option β} {next : β → Endpoint α}
    (follows : ∀ found, Gated late (next found)) :
    Gated late (Endpoint.demand kind cause value >>= next) := by
  cases value with
  | some found => exact follows found
  | none => exact .refusal _

/-- Whatever follows is behind the gate, as it is not come to while
the gate is closed. -/
theorem followed {first : Endpoint β} (gated : Gated late first) (next : β → Endpoint α) :
    Gated late (first >>= next) := by
  cases gated with
  | refusal cause => exact .refusal cause
  | gate rest =>
    rw [LawfulMonad.bind_assoc]
    exact .gate _

/-- A result makes no difference, since it takes no call. -/
theorem held {value : β} {next : β → Endpoint α} (gated : Gated late (next value)) :
    Gated late ((pure value : Endpoint β) >>= next) := by
  rw [pure_bind]
  exact gated

/-- An answer that is made into JSON is behind the same gate as the answer itself.
-/
theorem answered {γ : Type} {body : Except ServiceError α} {endpoint : α → Endpoint β}
    {json : β → γ} (gated : ∀ request, Gated late (endpoint request)) :
    Gated late (do
      let request ← (liftM body : Endpoint α)
      let found ← endpoint request
      return json found) :=
  given fun request => (gated request).followed _

variable (service : Service)

/-- Balances are told by a synced node only. The request is looked at first,
which takes no call. -/
theorem accountBalance (request : Request BalanceQuery) :
    Gated .nodeNotSynced (service.accountBalance request) := by
  apply given
  intro identifier
  apply given
  intro tag
  dsimp only
  unfold Service.accountAddress Service.accountPart
  cases Address.parse request.wanted.account.address with
  | error cause => exact .refusal _
  | ok address =>
    apply held
    cases request.wanted.account.subAccount with
    | none =>
      apply held
      exact .gate _
    | some name =>
      rw [LawfulMonad.bind_assoc]
      apply demanded
      intro part
      apply held
      exact .gate _

/-- Blocks are told by a synced node only. A request without an index
is refused before that. -/
theorem block (request : Request BlockSelector) :
    Gated .blockNotSynced (service.block request) := by
  apply given
  intro _
  split
  · exact .refusal _
  · exact .gate _

/-- So are the transactions of blocks, whose requests are looked at
in the same way. -/
theorem blockTransaction (request : Request TransactionQuery) :
    Gated .blockNotSynced (service.blockTransaction request) := by
  apply given
  intro _
  exact .gate _

/-- Pending messages are listed by a synced node only. The two endpoints
for them share this gate.
-/
theorem pendingMessages : Gated .blockNotSynced Service.pendingMessages :=
  .gate _

/-- The list of pending messages is told by a synced node only. -/
theorem mempool (request : Request Unit) : Gated .blockNotSynced (service.mempool request) := by
  apply given
  intro _
  exact pendingMessages.followed _

/-- So is a single pending message, for which the hash is read first. -/
theorem mempoolTransaction (request : Request String) :
    Gated .blockNotSynced (service.mempoolTransaction request) := by
  apply given
  intro _
  unfold Service.wantedCid
  cases Cid.parse request.wanted with
  | ok cid => exact pendingMessages.followed _
  | error cause => exact .refusal _

/-- What a new message needs is told by a synced node only. -/
theorem constructionMetadata (request : Request Metadata) :
    Gated .nodeNotSynced (service.constructionMetadata request) := by
  apply given
  intro _
  apply given
  intro draft
  exact .gate _

/-- All endpoints that need a synced node are behind the gate, each with the kind of
error that belongs to it. -/
theorem answer {route : Route} {late : ErrorKind} (needs : route.lateKind? = some late)
    (body : Bytes) :
    Gated late (service.answer route body) := by
  cases route with
  | accountBalance =>
    obtain rfl := Option.some.inj needs
    exact answered (accountBalance service)
  | constructionMetadata =>
    obtain rfl := Option.some.inj needs
    exact answered (constructionMetadata service)
  | block =>
    obtain rfl := Option.some.inj needs
    exact answered (block service)
  | blockTransaction =>
    obtain rfl := Option.some.inj needs
    exact answered (blockTransaction service)
  | mempool =>
    obtain rfl := Option.some.inj needs
    exact answered (mempool service)
  | mempoolTransaction =>
    obtain rfl := Option.some.inj needs
    exact answered (mempoolTransaction service)
  | _ => exact nomatch needs

end Gated

/-! ## Requests -/

/-- A request that is handed to an endpoint. -/
def HttpRequest.Posted (request : HttpRequest) : Prop :=
  request.method = "POST" ∧ request.body.length ≤ maxBody

/-- Nothing is told: the request is refused, or only asks which
origins are admitted. -/
def HttpResponse.Untold (response : HttpResponse) : Prop :=
  response.status ≠ 200 ∨ response.body = .empty

/-- How a request to an endpoint behind the gate ends, with the session after it and
the calls made for it. -/
inductive GateOutcome (late : ErrorKind) (node : Node) (before : Session) :
    HttpResponse × Session → List Node.Call → Prop where
  /-- The request is no good, and the node is not even asked for its progress. -/
  | unasked {response : HttpResponse} (untold : response.Untold) :
      GateOutcome late node before (response, before) []
  /-- The node is asked for its progress and nothing else, and nothing is learned.
  The answer says what is wrong. -/
  | closed {cause : ServiceError} {allowOrigin : Option String}
      (closed : Closed late (node.answer before.past .syncState) cause) :
      GateOutcome late node before (⟨500, .json cause.json, allowOrigin⟩, before.asked .syncState)
        [.syncState]
  /-- The node follows the chain. What else is asked is asked later. -/
  | opened {response : HttpResponse} {after : Session} {more : List Node.Call} {state : SyncState}
      {status : SyncStatus} (answer : node.answer before.past .syncState = .ok state)
      (evaluated : SyncStatus.evaluate? state = some status) (complete : status.stage = .complete) :
      GateOutcome late node before (response, after) (.syncState :: more)

namespace Gated

variable {late : ErrorKind} {α : Type}

/-- How an endpoint behind the gate ends: refused without a call, stopped at the
gate after one call, or let through it. -/
theorem run_cases {endpoint : Endpoint α} (gated : Gated late endpoint) (node : Node)
    (session : Session) :
    (∃ cause, endpoint.run.run node session = (.error cause, session) ∧
        endpoint.run.calls node session = []) ∨
      (∃ cause, Closed late (node.answer session.past .syncState) cause ∧
        endpoint.run.run node session = (.error cause, session.asked .syncState) ∧
        endpoint.run.calls node session = [.syncState]) ∨
      ∃ state status more, node.answer session.past .syncState = .ok state ∧
        SyncStatus.evaluate? state = some status ∧ status.stage = .complete ∧
        endpoint.run.calls node session = .syncState :: more := by
  cases gated with
  | refusal cause => exact .inl ⟨cause, rfl, rfl⟩
  | gate next =>
    right
    obtain ⟨found, asked⟩ := Service.requireSynced_run node late session
    rw [run_attempt, calls_attempt, asked]
    rcases found with ⟨cause, closed, comesTo⟩ |
      ⟨state, status, answer, evaluated, complete, comesTo⟩
    · rw [comesTo]
      exact .inl ⟨cause, closed, rfl, rfl⟩
    · rw [comesTo]
      exact .inr ⟨state, status, _, answer, evaluated, complete, rfl⟩

end Gated

namespace Service

variable (service : Service) (anyOrigin : Bool) (node : Node) (session : Session)
  {request : HttpRequest}
  {route : Route}

/-- The origins that answers admit. -/
def allowedOrigin (anyOrigin : Bool) : Option String :=
  if anyOrigin then some "*" else none

/-- A request to a path is turned away without a call, or answered by the
endpoint of the path. -/
theorem serve_cases (isPath : Route.ofPath? request.path = some route) :
    (∃ response, HttpResponse.Untold response ∧ ¬ request.Posted ∧
        (service.serve anyOrigin request).run node session = (response, session) ∧
        (service.serve anyOrigin request).calls node session = []) ∨
      (service.serve anyOrigin request).run node session =
          (match (service.answer route request.body).run.run node session with
          | (.ok json, after) => (⟨200, .json json, allowedOrigin anyOrigin⟩, after)
          | (.error cause, after) => (⟨500, .json cause.json, allowedOrigin anyOrigin⟩, after)) ∧
        (service.serve anyOrigin request).calls node session =
          (service.answer route request.body).run.calls node session := by
  unfold serve
  dsimp only
  by_cases options : (anyOrigin && request.method == "OPTIONS") = true
  · rw [if_pos options]
    refine .inl ⟨_, .inr rfl, ?_, rfl, rfl⟩
    rintro ⟨posted, -⟩
    rw [posted, Bool.and_eq_true] at options
    exact absurd options.2 (by decide)
  · rw [if_neg options, run_seq, calls_seq]
    unfold dispatch
    rw [isPath]
    dsimp only
    by_cases posted : request.method ≠ "POST"
    · rw [if_pos posted]
      have refused : (405 : Nat) ≠ 200 := by decide
      exact .inl ⟨⟨405, .empty, allowedOrigin anyOrigin⟩, .inl refused,
        fun isPosted => posted isPosted.1, rfl, rfl⟩
    · rw [if_neg posted]
      by_cases long : maxBody < request.body.length
      · rw [if_pos long]
        have refused : (413 : Nat) ≠ 200 := by decide
        exact .inl ⟨⟨413, _, allowedOrigin anyOrigin⟩, .inl refused,
          fun isPosted => Nat.not_lt.mpr isPosted.2 long, rfl, rfl⟩
      · rw [if_neg long]
        right
        unfold respond
        rw [run_seq, calls_seq]
        cases (service.answer route request.body).run.run node session with
        | mk found after =>
          cases found with
          | ok json => exact ⟨rfl, (List.append_nil _).trans (List.append_nil _)⟩
          | error cause => exact ⟨rfl, (List.append_nil _).trans (List.append_nil _)⟩

/-- A request to an endpoint that needs a synced node passes the gate or ends
in front of it. -/
theorem serve_gated {late : ErrorKind} (isPath : Route.ofPath? request.path = some route)
    (needs : route.lateKind? = some late) :
    GateOutcome late node session ((service.serve anyOrigin request).run node session)
      ((service.serve anyOrigin request).calls node session) := by
  rcases service.serve_cases anyOrigin node session
    isPath with ⟨response, untold, -, comesTo, asked⟩ |
    ⟨comesTo, asked⟩
  · rw [comesTo, asked]
    exact .unasked untold
  · rw [comesTo, asked]
    rcases (Gated.answer service needs request.body).run_cases node session with
      ⟨cause, found, none⟩ | ⟨cause, closed, found, one⟩ |
        ⟨state, status, more, answer, evaluated, complete, some⟩
    · have refused : (500 : Nat) ≠ 200 := by decide
      rw [found, none]
      exact .unasked (.inl refused)
    · rw [found, one]
      exact .closed closed
    · rw [some]
      exact .opened answer evaluated complete

/-! ## The status of the network -/

/-- A status that names a tipset as the first block and as the current one. -/
structure NamesFirst (first : Tipset) (told : NetworkStatus) : Prop where
  /-- It is told at the height of the tipset. -/
  index : told.current.index = first.height
  /-- It is told with the hash of the tipset. -/
  hash : first.key.hashText? = some told.current.hash
  /-- It is told with the time of the tipset. -/
  timestamp : told.timestamp = timestamp first
  /-- The first block is the current one. -/
  genesis : told.genesis = told.current

/-- What the status of the network comes to while the node is on its way: the first
tipset is asked for, then the peers are. -/
theorem networkStatus_underway (request : Request Unit) {identifier : NetworkIdentifier}
    {tag : Node.TipsetTag} (accepted : service.accept request.network = .ok identifier)
    (tagged : service.finalityTag identifier = .ok tag) {state : SyncState} {status : SyncStatus}
    (answer : node.answer session.past .syncState = .ok state)
    (evaluated : SyncStatus.evaluate? state = some status) (underway : status.stage.Underway) :
    let program := (service.networkStatus request).run
    let asked := session.asked .syncState
    program.calls node session <+: [.syncState, .chainGenesis, .peers] ∧
      match (program.run node session).1 with
      | .ok told => ∃ first, node.answer asked.past .chainGenesis = .ok first ∧
        NamesFirst first told
      | .error _ => ∀ first, node.answer asked.past .chainGenesis = .ok first →
          first.key.isEmpty = false →
          ∃ failure, node.answer (asked.asked .chainGenesis).past .peers = .error failure := by
  have comesTo := syncStatus_sound node session answer evaluated underway.2
  have asks := (syncStatus_run node session).2
  have notSynced : ¬ status.isSynced = true := fun isSynced => underway.1 (beq_iff_eq.mp isSynced)
  intro program asked
  unfold program networkStatus
  rw [accepted, Endpoint.given_ok, tagged, Endpoint.given_ok, run_attempt, calls_attempt,
    comesTo, asks]
  dsimp only
  rw [run_attempt, calls_attempt, Endpoint.call_run, Endpoint.call_calls]
  unfold currentTipset
  cases genesis : node.answer asked.past .chainGenesis with
  | error failure =>
    refine ⟨⟨[.peers], rfl⟩, ?_⟩
    intro first impossible
    exact nomatch impossible
  | ok first =>
    dsimp only [Except.mapError]
    rw [if_neg notSynced, pure_bind, run_attempt, calls_attempt, Endpoint.call_run,
      Endpoint.call_calls]
    cases peers : node.answer (asked.asked .chainGenesis).past .peers with
    | error failure =>
      refine ⟨⟨[], rfl⟩, ?_⟩
      intro _ _ _
      exact ⟨failure, rfl⟩
    | ok found =>
      dsimp only [Except.mapError]
      unfold blockIdentifier
      cases isHash : first.key.hashText? with
      | none =>
        refine ⟨⟨[], rfl⟩, ?_⟩
        intro other same named
        obtain rfl := Except.ok.inj same
        rw [TipsetKey.hashText?, named] at isHash
        exact nomatch isHash
      | some hash =>
        refine ⟨⟨[], rfl⟩, first, rfl, ?_⟩
        exact { index := rfl, hash := isHash, timestamp := rfl, genesis := rfl }

/-- How a request for the status of the network ends while the node
is on its way. -/
structure StatusUnderway (service : Service) (node : Node) (before : Session)
    (request : HttpRequest) (response : HttpResponse) (made : List Node.Call) : Prop where
  /-- The first tipset and the peers are asked for. No head is. -/
  asks : made <+: [.syncState, .chainGenesis, .peers]
  /-- The current block of a status is the first one. -/
  names : ∀ body, response.status = 200 → response.body = .json body →
    ∃ first told, node.answer (before.asked .syncState).past .chainGenesis = .ok first ∧
      NamesFirst first told ∧ body = told.json
  /-- There is a status, if the request is a good one and the node answers. -/
  told : request.Posted → ∀ asked identifier tag first peers,
    readBody readNetworkRequest request.body = .ok asked →
    service.accept asked.network = .ok identifier → service.finalityTag identifier = .ok tag →
    node.answer (before.asked .syncState).past .chainGenesis = .ok first →
      first.key.isEmpty = false →
    node.answer ((before.asked .syncState).asked .chainGenesis).past .peers = .ok peers →
    response.status = 200 ∧ ∃ body, response.body = .json body

/-- Requests for the status of the network that are no good are refused without a
look at the node. -/
theorem networkStatus_refused (request : Request Unit)
    (bad : ∀ identifier tag, service.accept request.network = .ok identifier →
      service.finalityTag identifier ≠ .ok tag) :
    ∃ cause, (service.networkStatus request).run.run node session = (.error cause, session) ∧
      (service.networkStatus request).run.calls node session = [] := by
  unfold networkStatus
  cases accepted : service.accept request.network with
  | error cause => exact ⟨cause, rfl, rfl⟩
  | ok identifier =>
    rw [Endpoint.given_ok]
    cases tagged : service.finalityTag identifier with
    | error cause => exact ⟨cause, rfl, rfl⟩
    | ok tag => exact absurd tagged (bad identifier tag accepted)

/-- The text of a request for the status of the network decides what it comes to. -/
theorem answer_networkStatus (body : Bytes) :
    service.answer .networkStatus body = (do
      let asked ← (liftM (readBody readNetworkRequest body) : Endpoint (Request Unit))
      let told ← service.networkStatus asked
      return told.json) :=
  rfl

/-- A good request for the status of the network, with all the answers that it needs
from a node on its way. -/
inductive StatusDue (service : Service) (node : Node) (before : Session) (request : HttpRequest) :
    Prop
  | intro {asked : Request Unit} {identifier : NetworkIdentifier} {tag : Node.TipsetTag}
      {first : Tipset} {peers : Node.Call.peers.Answer} (posted : request.Posted)
      (isRead : readBody readNetworkRequest request.body = .ok asked)
      (accepted : service.accept asked.network = .ok identifier)
      (tagged : service.finalityTag identifier = .ok tag)
      (genesis : node.answer (before.asked .syncState).past .chainGenesis = .ok first)
      (named : first.key.isEmpty = false)
      (told : node.answer ((before.asked .syncState).asked .chainGenesis).past .peers = .ok peers)

/-- Where no status is due, an answer that tells none is as it should be. The calls
made for it are still those for a status. -/
theorem StatusUnderway.undue {service : Service} {node : Node} {before : Session}
    {request : HttpRequest} {response : HttpResponse} {made : List Node.Call}
    (asks : made <+: [.syncState, .chainGenesis, .peers]) (untold : response.Untold)
    (undue : ¬ StatusDue service node before request) :
    StatusUnderway service node before request response made where
  asks := asks
  names body isOk isJson := by
    rcases untold with failed | empty
    · exact absurd isOk failed
    · rw [empty] at isJson
      exact nomatch isJson
  told posted _ _ _ _ _ isRead accepted tagged genesis named told :=
    absurd (.intro posted isRead accepted tagged genesis named told) undue

/-- While the node is on its way, the current block is the first one. Wherever the
request ends early, no status was due. -/
theorem serve_underway (isPath : Route.ofPath? request.path = some .networkStatus)
    {state : SyncState} {status : SyncStatus}
    (answer : node.answer session.past .syncState = .ok state)
    (evaluated : SyncStatus.evaluate? state = some status) (underway : status.stage.Underway) :
    StatusUnderway service node session request
      ((service.serve anyOrigin request).run node session).1
      ((service.serve anyOrigin request).calls node session) := by
  have refused : (500 : Nat) ≠ 200 := by decide
  rcases service.serve_cases anyOrigin node session isPath with
    ⟨response, untold, notPosted, comesTo, asks⟩ | ⟨comesTo, asks⟩
  · rw [comesTo, asks]
    exact .undue List.nil_prefix untold fun ⟨posted, _, _, _, _, _, _⟩ => notPosted posted
  rw [comesTo, asks, answer_networkStatus]
  cases isRead : readBody readNetworkRequest request.body with
  | error cause =>
    refine .undue List.nil_prefix (.inl refused) fun ⟨_, isAsked, _, _, _, _, _⟩ => ?_
    exact nomatch isRead.symm.trans isAsked
  | ok asked =>
    rw [Endpoint.given_ok, run_attempt, calls_attempt]
    by_cases good : ∃ identifier tag, service.accept asked.network = .ok identifier ∧
        service.finalityTag identifier = .ok tag
    case neg =>
      have bad : ∀ identifier tag, service.accept asked.network = .ok identifier →
          service.finalityTag identifier ≠ .ok tag :=
        fun identifier tag accepted tagged => good ⟨identifier, tag, accepted, tagged⟩
      obtain ⟨cause, result, none⟩ := service.networkStatus_refused node session asked bad
      rw [result, none]
      refine .undue List.nil_prefix (.inl refused) fun ⟨_, isAsked, accepted, tagged, _, _, _⟩ => ?_
      obtain rfl := Except.ok.inj (isRead.symm.trans isAsked)
      exact bad _ _ accepted tagged
    case pos =>
      obtain ⟨identifier, tag, accepted, tagged⟩ := good
      obtain ⟨asks, found⟩ :=
        service.networkStatus_underway node session asked accepted tagged answer evaluated underway
      cases result : (service.networkStatus asked).run.run node session with
      | mk told after =>
        rw [result] at found
        cases told with
        | error cause =>
          refine .undue ((List.append_nil _).symm ▸ asks) (.inl refused)
            fun ⟨_, _, _, _, genesis, named, isPeers⟩ => ?_
          obtain ⟨failure, fails⟩ := found _ genesis named
          exact nomatch isPeers.symm.trans fails
        | ok told =>
          obtain ⟨first, genesis, names⟩ := found
          constructor
          case asks => exact (List.append_nil _).symm ▸ asks
          case names =>
            rintro body - ⟨⟩
            exact ⟨first, told, genesis, names, rfl⟩
          case told => exact fun _ _ _ _ _ _ _ _ _ _ _ _ => ⟨rfl, told.json, rfl⟩

/-- Nothing is served from an unsynced node. Whatever is learned or asked for
balances, blocks, pending messages and new messages, the progress of the node is
asked for before, and only a node that follows the chain is asked more. The status
of the network names the first block as the current one meanwhile. -/
theorem unsynced_unserved (service : Service) (anyOrigin : Bool) (node : Node) (session : Session)
    (request : HttpRequest) :
    let program := service.serve anyOrigin request
    (∀ route late, Route.ofPath? request.path = some route → route.lateKind? = some late →
      GateOutcome late node session (program.run node session) (program.calls node session)) ∧
    (Route.ofPath? request.path = some .networkStatus → ∀ state status,
      node.answer session.past .syncState = .ok state → SyncStatus.evaluate? state = some status →
      status.stage.Underway →
      StatusUnderway service node session request (program.run node session).1
        (program.calls node session)) := by
  intro program
  constructor
  · intro route late isPath needs
    exact service.serve_gated anyOrigin node session isPath needs
  · intro isPath state status answer evaluated underway
    exact service.serve_underway anyOrigin node session isPath answer evaluated underway

end Service

/-! ## A node on its way -/

namespace Underway

/-- The one worker executes messages up to height three. -/
def workers : SyncState :=
  ⟨[⟨1, none, some ⟨.empty, [], 3⟩, .messages, 1, ""⟩], 0⟩

/-- The node tells nothing but its progress. -/
def answers : Node.Answers
  | .syncState => .ok workers
  | _ => .error .unreachable

/-- A service without tags. -/
def service : Service := ⟨.builtin, "calibrationnet", ⟨false, false⟩⟩

/-- A good request for the block at height two. -/
def request : HttpRequest where
  method := "POST"
  target := "/block"
  body := utf8 <|
    "\x7b\"network_identifier\":\x7b\"blockchain\":\"Filecoin\",\"network\":\"calibrationnet\"\x7d," ++
      "\"block_identifier\":\x7b\"index\":2\x7d\x7d"

end Underway

/-- The node is asked for its progress only, and the answer says how far it is. -/
theorem underway_unserved :
    let program := Underway.service.serve false Underway.request
    (∃ allowOrigin after, program.run (.constant Underway.answers) .fresh =
      (⟨500, .json (ServiceError.because .blockNotSynced "message sync").json, allowOrigin⟩,
        after) ∧
        after.cache = .empty) ∧
      program.calls (.constant Underway.answers) .fresh = [.syncState] := by
  intro program
  have isPath : Route.ofPath? Underway.request.path = some .block := by decide +kernel
  have asked : program.calls (.constant Underway.answers) .fresh = [.syncState] := by decide +kernel
  have outcome :=
    (Service.unsynced_unserved Underway.service false (.constant Underway.answers) .fresh
    Underway.request).1 .block .blockNotSynced isPath rfl
  refine ⟨?_, asked⟩
  change GateOutcome _ _ _ (program.run _ _) (program.calls _ _) at outcome
  rw [asked] at outcome
  generalize program.run (.constant Underway.answers) .fresh = ended at outcome ⊢
  have evaluates : SyncStatus.evaluate? Underway.workers = some ⟨[1], [3], .messages⟩ := by decide
  cases outcome with
  | @closed cause allowOrigin closed =>
    refine ⟨allowOrigin, Session.fresh.asked .syncState, ?_, rfl⟩
    change Closed _ (.ok Underway.workers) cause at closed
    cases closed with
    | untargeted none => exact nomatch (SyncStatus.evaluate_none_iff _).mpr none
    | errored counts isError =>
      exact nomatch (SyncStatus.errored_iff evaluates).mpr ⟨_, counts, isError⟩
    | underway evaluated isUnderway =>
      obtain rfl := Option.some.inj (evaluates.symm.trans evaluated)
      rfl
  | opened answer evaluated complete =>
    obtain rfl : Underway.workers = _ := Except.ok.inj answer
    obtain rfl := Option.some.inj (evaluates.symm.trans evaluated)
    exact nomatch complete

end FilecoinRosetta.Rosetta
