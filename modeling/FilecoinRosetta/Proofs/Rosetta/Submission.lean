import FilecoinRosetta.Lotus.Rpc
import FilecoinRosetta.Proofs.LotusJson.Wire
import FilecoinRosetta.Proofs.Rosetta.Failures
import FilecoinRosetta.Proofs.Rosetta.LookUps

/-!
# A message is handed in once, as it was given

A message moves value, so it may not be handed in twice, by mistake or in other
words. A request for a submission that is good makes one call, which hands the
message in. Every other request makes no such call. So the messages that a node
gets are those of the good requests for submissions, in order, whatever it answers
and whatever else is requested.
-/

namespace FilecoinRosetta

/-- The message that a call hands in. -/
def Node.Call.pushed? : Node.Call → Option SignedMessage
  | .pushMessage message => some message
  | _ => none

/-- A call hands a message over exactly if it is the call for it. No other call of
the node carries one. -/
theorem Node.Call.pushed_iff {call : Node.Call} {message : SignedMessage} :
    call.pushed? = some message ↔ call = .pushMessage message := by
  cases call with
  | pushMessage given => rw [pushed?, Option.some.injEq, pushMessage.injEq]
  | _ => exact ⟨(nomatch ·), (nomatch ·)⟩

namespace Rosetta

open Program

/-- A request hands a message in: it is posted to the endpoint of submissions, it is
for the network served, and its transaction is the text of the message. -/
structure HttpRequest.Submits (service : Service) (request : HttpRequest)
    (message : SignedMessage) : Prop where
  posted : request.Posted
  isPath : Route.ofPath? request.path = some .constructionSubmit
  given : ∃ submitted identifier, Json.readBytes? readSubmitRequest request.body = some submitted ∧
    Addressed service (some submitted.network) identifier ∧
    LotusJson.read? SignedMessage submitted.wanted = some message

/-- A request hands one message in: its body is read in one way only. -/
theorem HttpRequest.Submits.unique {service : Service} {request : HttpRequest}
    {message other : SignedMessage} (submits : request.Submits service message)
    (otherSubmits : request.Submits service other) : message = other := by
  obtain ⟨-, -, submitted, -, isRead, -, given⟩ := submits
  obtain ⟨-, -, otherSubmitted, -, otherRead, -, otherGiven⟩ := otherSubmits
  obtain rfl := Option.some.inj (isRead.symm.trans otherRead)
  exact Option.some.inj (given.symm.trans otherGiven)

/-- The messages that requests hand in, in order. -/
inductive HandIn (service : Service) : List HttpRequest → List SignedMessage → Prop where
  /-- There are no requests. -/
  | none : HandIn service [] []
  /-- The first request hands a message in. -/
  | submission {request : HttpRequest} {message : SignedMessage} {requests : List HttpRequest}
      {messages : List SignedMessage} (submits : request.Submits service message)
      (later : HandIn service requests messages) :
      HandIn service (request :: requests) (message :: messages)
  /-- It does not. -/
  | other {request : HttpRequest} {requests : List HttpRequest} {messages : List SignedMessage}
      (submitsNone : ∀ message, ¬ request.Submits service message)
      (later : HandIn service requests messages) :
      HandIn service (request :: requests) messages

/-! ## Requests that hand nothing in -/

/-- Every call that an endpoint may make is one of the table or one of a look-up. -/
theorem Heeds.asks {table : Node.Call → Option CallSite} {seeks : Node.Call → Prop} {α : Type}
    {program : Program (Except ServiceError α)} (heeds : Heeds table seeks program) :
    Asks (fun call => table call ≠ none ∨ seeks call) program := by
  induction heeds with
  | done inTime => exact .done _
  | ask isSite fails follows ih =>
    refine .ask (.inl fun missing => nomatch isSite.symm.trans missing) fun answer => ?_
    cases answer with
    | ok found => exact ih found
    | error failure =>
      rw [fails]
      exact .done _
  | look isSought follows ih => exact .ask (.inr isSought) ih
  | consult name follows ih => exact .consult name ih
  | learn name fact follows ih => exact .learn name fact ih
  | wait span follows ih => exact .wait span ih

/-- No look-up hands a message in, as it asks about addresses and nothing else. -/
theorem Route.Seeks.not_push {route : Route} {message : SignedMessage} :
    ¬ route.Seeks (.pushMessage message) := by
  rintro ⟨-, address, member⟩
  simp only [Node.Call.about, List.mem_cons, List.not_mem_nil, or_false, reduceCtorEq] at member

/-- No endpoint but that for submissions hands messages over. -/
theorem Route.site_pushMessage {route : Route} (other : route ≠ .constructionSubmit)
    (message : SignedMessage) :
    route.site? (.pushMessage message) = none := by
  cases route with
  | constructionSubmit => exact absurd rfl other
  | _ => rfl

namespace Service

variable (service : Service) (anyOrigin : Bool) (node : Node) (session : Session)
  {request : HttpRequest}

/-- Only the endpoint of submissions hands messages in. All others make calls of
their own tables and those of look-ups. -/
theorem answer_no_push {route : Route} (other : route ≠ .constructionSubmit) (body : Bytes)
    (message : SignedMessage) :
    .pushMessage message ∉ (service.answer route body).run.calls node session := by
  intro made
  rcases (Heeds.answer service route body).asks.calls_allowed node session _ made with isSite |
    isSought
  · exact isSite (Route.site_pushMessage other message)
  · exact Route.Seeks.not_push isSought

/-- A request to a path without endpoint takes no step, so it hands nothing in. -/
theorem serve_unrouted (noPath : Route.ofPath? request.path = none) :
    ∃ response, service.serve anyOrigin request = .done response := by
  unfold serve
  dsimp only
  split
  · exact ⟨_, rfl⟩
  · unfold dispatch
    rw [noPath]
    exact ⟨_, rfl⟩

/-! ## Submissions -/

/-- A text is the one of a message exactly if it passes for it. The empty text is
the one of none. -/
theorem signedMessage_ok_iff {text : String} {message : SignedMessage} :
    signedMessage text = .ok message ↔ LotusJson.read? SignedMessage text = some message := by
  have empty : LotusJson.read? SignedMessage "" = none := by rfl
  unfold signedMessage
  by_cases isEmpty : text.isEmpty = true
  · obtain rfl : text = "" := String.isEmpty_iff.mp isEmpty
    rw [if_pos isEmpty, empty]
    exact ⟨(nomatch ·), (nomatch ·)⟩
  · rw [if_neg isEmpty]
    cases LotusJson.read? SignedMessage text with
    | none => exact ⟨(nomatch ·), (nomatch ·)⟩
    | some found => rw [Except.ok.injEq, Option.some.injEq]

/-- The text of a request decides what its submission comes to: it is read as a
signed message, which is handed in as it was read. -/
theorem answer_constructionSubmit (body : Bytes) :
    service.answer .constructionSubmit body = (do
      let submitted ← (liftM (readBody readSubmitRequest body) : Endpoint (Request String))
      let cid ← service.constructionSubmit submitted
      return submittedJson cid) :=
  rfl

/-- The endpoint of submissions hands in the message that was given, or it does
nothing but refuse the request. -/
theorem answer_submission (posted : request.Posted)
    (isPath : Route.ofPath? request.path = some .constructionSubmit) :
    (∃ message, request.Submits service message ∧
      service.answer .constructionSubmit request.body = (do
        let cid ← Endpoint.call .submissionFailed (.pushMessage message)
        return submittedJson cid)) ∨
      (∀ message, ¬ request.Submits service message) ∧
        ∃ cause, service.answer .constructionSubmit request.body = throw cause := by
  rw [answer_constructionSubmit, readBody]
  cases isRead : Json.readBytes? readSubmitRequest request.body with
  | none =>
    refine .inr ⟨?_, .because .malformedValue unreadableText, rfl⟩
    rintro message ⟨-, -, submitted, identifier, other, -, -⟩
    exact nomatch isRead.symm.trans other
  | some submitted =>
    dsimp only
    rw [Endpoint.given_ok]
    unfold constructionSubmit
    rcases misdirected_or_addressed service (some submitted.network) with ⟨cause, misdirected⟩ |
      ⟨identifier, addressed⟩
    · have refused := accept_misdirected misdirected
      refine .inr ⟨?_, cause, ?_⟩
      · rintro message ⟨-, -, other, identifier, isOther, addressed, -⟩
        obtain rfl := Option.some.inj (isRead.symm.trans isOther)
        exact nomatch refused.symm.trans (accept_addressed addressed)
      · rw [refused]
        rfl
    · rw [accept_addressed addressed, Endpoint.given_ok]
      cases isMessage : signedMessage submitted.wanted with
      | ok message =>
        have given := signedMessage_ok_iff.mp isMessage
        exact .inl ⟨message, ⟨posted, isPath, submitted, identifier, isRead, addressed, given⟩, rfl⟩
      | error cause =>
        refine .inr ⟨?_, cause, rfl⟩
        rintro message ⟨-, -, other, identifier, isOther, -, given⟩
        obtain rfl := Option.some.inj (isRead.symm.trans isOther)
        exact nomatch isMessage.symm.trans (signedMessage_ok_iff.mpr given)

/-! ## One request -/

/-- What a client is told of the answer to the call that handed a message in. -/
def submissionResponse (anyOrigin : Bool) : Except Node.Failure Cid → HttpResponse
  | .ok cid => ⟨200, .json (submittedJson cid), allowedOrigin anyOrigin⟩
  | .error failure =>
      ⟨500, .json (ServiceError.ofFailure .submissionFailed failure).json, allowedOrigin anyOrigin⟩

/-- A request that hands a message in makes one call. The answer to it is what
the client is told. -/
theorem serve_submission {message : SignedMessage} (submits : request.Submits service message) :
    (service.serve anyOrigin request).run node session =
        (submissionResponse anyOrigin (node.answer session.past (.pushMessage message)),
          session.asked (.pushMessage message)) ∧
      (service.serve anyOrigin request).calls node session = [.pushMessage message] := by
  rcases service.serve_cases anyOrigin node session submits.isPath with ⟨_, -, unposted, -⟩ |
    ⟨comesTo, asks⟩
  · exact absurd submits.posted unposted
  · rcases service.answer_submission submits.posted submits.isPath with
      ⟨given, givenSubmits, answers⟩ | ⟨submitsNone, -⟩
    · obtain rfl := givenSubmits.unique submits
      rw [comesTo, asks, answers, run_attempt, calls_attempt, Endpoint.call_run,
        Endpoint.call_calls]
      cases node.answer session.past (.pushMessage given) with
      | ok cid => exact ⟨rfl, rfl⟩
      | error failure => exact ⟨rfl, rfl⟩
    · exact absurd submits (submitsNone message)

/-- Every other request makes no such call, be it another endpoint, a body that
cannot be read, or a request for another network. -/
theorem serve_no_push (submitsNone : ∀ message, ¬ request.Submits service message)
    (message : SignedMessage) :
    .pushMessage message ∉ (service.serve anyOrigin request).calls node session := by
  cases isPath : Route.ofPath? request.path with
  | none =>
    obtain ⟨response, isDone⟩ := service.serve_unrouted anyOrigin isPath
    rw [isDone]
    exact List.not_mem_nil
  | some route =>
    by_cases posted : request.Posted
    case neg =>
      obtain ⟨response, isDone, -⟩ := service.serve_unposted anyOrigin isPath posted
      rw [isDone]
      exact List.not_mem_nil
    rcases service.serve_cases anyOrigin node session isPath with ⟨_, -, unposted, -⟩ | ⟨-, asks⟩
    · exact absurd posted unposted
    rw [asks]
    by_cases isSubmission : route = .constructionSubmit
    · subst isSubmission
      rcases service.answer_submission posted isPath with ⟨given, submits, -⟩ | ⟨-, cause, refuses⟩
      · exact absurd submits (submitsNone given)
      · rw [refuses]
        exact List.not_mem_nil
    · exact service.answer_no_push node session isSubmission request.body message

/-! ## Requests one after another -/

/-- Requests are answered one after another, each in the session that the
one before has left. -/
theorem serveAll_cons (request : HttpRequest) (rest : List HttpRequest) :
    let first := (service.serve anyOrigin request).run node session
    let more := (service.serveAll anyOrigin rest).run node first.2
    (service.serveAll anyOrigin (request :: rest)).run node session = (first.1 :: more.1, more.2) ∧
      (service.serveAll anyOrigin (request :: rest)).calls node session =
        (service.serve anyOrigin request).calls node session ++
          (service.serveAll anyOrigin rest).calls node first.2 := by
  intro first more
  constructor
  · rw [serveAll, run_seq, run_seq]
    rfl
  · rw [serveAll, calls_seq, calls_seq]
    exact congrArg (_ ++ ·) (List.append_nil _)

/-- The messages that are handed in are those that requests hand in, each
once and in order. -/
theorem serveAll_pushes (requests : List HttpRequest) :
    HandIn service requests
      (((service.serveAll anyOrigin requests).calls node session).filterMap Node.Call.pushed?) := by
  induction requests generalizing session with
  | nil => exact .none
  | cons request rest ih =>
    have later := ih ((service.serve anyOrigin request).run node session).2
    rw [(service.serveAll_cons anyOrigin node session request rest).2, List.filterMap_append]
    -- What is handed in does not depend on the session, so the later requests may
    -- find any other one.
    by_cases submits : ∃ message, request.Submits service message
    · obtain ⟨message, submits⟩ := submits
      rw [(service.serve_submission anyOrigin node session submits).2]
      exact .submission submits later
    · have submitsNone := not_exists.mp submits
      have noPush :
          ((service.serve anyOrigin request).calls node session).filterMap Node.Call.pushed? =
            [] := by
        rw [List.filterMap_eq_nil_iff]
        intro call made
        rw [Option.eq_none_iff_forall_ne_some]
        intro message isPush
        rw [Node.Call.pushed_iff.mp isPush] at made
        exact service.serve_no_push anyOrigin node session submitsNone message made
      rw [noPush, List.nil_append]
      exact .other submitsNone later

/-- Requests that follow others find the session that those lead to, so a list of
requests can be cut anywhere. -/
theorem serveAll_append (earlier rest : List HttpRequest) :
    let first := (service.serveAll anyOrigin earlier).run node session
    let more := (service.serveAll anyOrigin rest).run node first.2
    (service.serveAll anyOrigin (earlier ++ rest)).run node session =
      (first.1 ++ more.1, more.2) := by
  induction earlier generalizing session with
  | nil => rfl
  | cons request earlier ih =>
    intro first more
    have begins := (service.serveAll_cons anyOrigin node session request earlier).1
    have follows := ih ((service.serve anyOrigin request).run node session).2
    unfold more first
    rw [List.cons_append, (service.serveAll_cons anyOrigin node session request _).1,
      begins, follows]
    rfl

/-- Each request gets one response, whatever came of those before it. -/
theorem serveAll_length (requests : List HttpRequest) :
    ((service.serveAll anyOrigin requests).run node session).1.length = requests.length := by
  induction requests generalizing session with
  | nil => rfl
  | cons request rest ih =>
    rw [(service.serveAll_cons anyOrigin node session request rest).1]
    exact congrArg (· + 1) (ih _)

end Service

/-- What comes of a request that hands a message in, when it is served between
others. -/
structure Submitted (node : Node) (before after : Session) (message : SignedMessage)
    (response : HttpResponse) :
    Prop where
  /-- The message is handed in right after what happened before the request. -/
  pushed : ∃ events, after.past = events ++ .asked (.pushMessage message) :: before.past
  /-- If the node takes it, the client is told the identifier that
  the node gave it. -/
  taken : ∀ cid, node.answer before.past (.pushMessage message) = .ok cid → response.status = 200 ∧
    response.body = .json (.obj [("transaction_identifier", .obj [("hash", .str cid.text)])])
  /-- Otherwise the client is told the failure. -/
  failed : ∀ failure, node.answer before.past (.pushMessage message) = .error failure →
    response.status = 500 ∧
    response.body = .json (ServiceError.ofFailure .submissionFailed failure).json
  /-- What is sent to the node is the message as it was given. -/
  sent : ∀ network, ∃ json, Lotus.requestOf network (.pushMessage message) =
    Lotus.request "MpoolPush" [json] ∧
    LotusJson.read? SignedMessage json.text = some message

namespace Service

variable (service : Service) (anyOrigin : Bool) (node : Node) (session : Session)

/-- What is sent of a message that was read is the same message. -/
theorem sent_as_given {text : String} {message : SignedMessage}
    (given : LotusJson.read? SignedMessage text = some message) (network : Network) :
    LotusJson.read? SignedMessage (LotusJson.write network message).text = some message :=
  LotusJson.Wire.signedMessage.read_text network message
    (LotusJson.Wire.signedMessage.read_fits network (by decide) given)

/-- Each message is handed in once, as it was given, and nothing else is. Whatever
is requested of a service, whatever the node answers and whatever happened before,
the messages handed in are those of the good requests for submissions, each once
and in order. The client is told the identifier that the node gave the message, or
why it did not. -/
theorem submissions_pushed (requests : List HttpRequest) :
    let program := service.serveAll anyOrigin requests
    HandIn service requests ((program.calls node session).filterMap Node.Call.pushed?) ∧
    ∀ earlier request later message, requests = earlier ++ request :: later →
      request.Submits service message →
      ∃ response, (program.run node session).1[earlier.length]? = some response ∧
        Submitted node ((service.serveAll anyOrigin earlier).run node session).2
          (program.run node session).2 message
          response := by
  intro program
  refine ⟨service.serveAll_pushes anyOrigin node session requests, ?_⟩
  rintro earlier request later message rfl submits
  have isAll := service.serveAll_append anyOrigin node session earlier (request :: later)
  have length := service.serveAll_length anyOrigin node session earlier
  generalize (service.serveAll anyOrigin earlier).run node session = first at isAll length ⊢
  obtain ⟨responses, before⟩ := first
  have comesTo := (service.serveAll_cons anyOrigin node before request later).1
  rw [(service.serve_submission anyOrigin node before submits).1] at comesTo
  dsimp only at isAll comesTo length
  rw [comesTo] at isAll
  unfold program
  rw [isAll]
  refine ⟨submissionResponse anyOrigin (node.answer before.past (.pushMessage message)), ?_, ?_⟩
  · rw [List.getElem?_append_right (Nat.le_of_eq length), length, Nat.sub_self]
    rfl
  · constructor
    case pushed =>
      exact run_past node (service.serveAll anyOrigin later) (before.asked (.pushMessage message))
    case taken =>
      intro cid isTaken
      rw [isTaken]
      exact ⟨rfl, rfl⟩
    case failed =>
      intro failure isFailure
      rw [isFailure]
      exact ⟨rfl, rfl⟩
    case sent =>
      intro network
      obtain ⟨submitted, -, -, -, given⟩ := submits.given
      exact ⟨_, rfl, sent_as_given given network⟩

end Service

/-! ## A message between two that are for another network -/

namespace Deposit

/-- A signed message that moves a little value. -/
def message : SignedMessage where
  message := ⟨0, .id 1002, .id 1001, 7, ⟨5⟩, 1000000, ⟨200000⟩, ⟨100000⟩, 0, [], none⟩
  signature := ⟨Signature.secp256k1, [1, 2, 3]⟩
  cid := none

/-- The message is handed in, in the words that messages are written in. -/
def submission : Json :=
  .obj
    [("network_identifier",
      .obj [("blockchain", .str "Filecoin"), ("network", .str "calibrationnet")]),
     ("signed_transaction", .str (LotusJson.write Network.testnet message).text)]

/-- The request that hands the message in. -/
def request : HttpRequest where
  method := "POST"
  target := "/construction/submit"
  body := utf8 submission.text

/-- The network that the request is for is the one served. -/
theorem addressed : Addressed Underway.service (some (some ⟨"Filecoin", "calibrationnet", none⟩))
    ⟨"Filecoin", "calibrationnet", none⟩ where
  names := rfl
  blockchain := rfl
  network := rfl
  subNetwork _ isPart := nomatch isPart

/-- The request hands the message in. What was written of the message is read
back as the message. -/
theorem submits : request.Submits Underway.service message where
  posted := ⟨rfl, by decide +kernel⟩
  isPath := by decide +kernel
  given := by
    have isRead : Json.readBytes? readSubmitRequest request.body =
        some ⟨some ⟨"Filecoin", "calibrationnet", none⟩,
          (LotusJson.write Network.testnet message).text⟩ := by
      have plain : submission.Plain := ⟨⟨trivial, trivial, trivial⟩, trivial, trivial⟩
      rw [request, Json.readBytes_utf8, Json.read?, Json.parse_text submission plain]
      rfl
    have fits :
        (LotusJson.write Network.testnet message).nesting ≤ Json.maxDepth := by decide +kernel
    exact ⟨_, _, isRead, addressed, LotusJson.Wire.signedMessage.read_text .testnet message fits⟩

/-- The request for another network hands nothing in, although its body
holds a message. -/
theorem elsewhere_submits_none (given : SignedMessage) :
    ¬ Elsewhere.request.Submits Underway.service given := by
  rintro ⟨-, -, submitted, identifier, isRead, addressed, -⟩
  have names : (Json.readBytes? readSubmitRequest Elsewhere.request.body).map Request.network =
      some (some ⟨"Filecoin", "mainnet", none⟩) := by rfl
  rw [isRead, Option.map_some, addressed.names] at names
  obtain rfl := Option.some.inj (Option.some.inj names)
  have other : "mainnet" ≠ Underway.service.networkName := by decide
  exact other addressed.network

end Deposit

/-- Between two requests for another network, the message is handed in once, and the
client is told the identifier that the node gave it. -/
theorem deposit_pushed :
    let program := Underway.service.serveAll false
      [Elsewhere.request, Deposit.request, Elsewhere.request]
    (program.calls (.constant Elsewhere.answers) .fresh).filterMap Node.Call.pushed? =
      [Deposit.message] ∧
      ∃ response, (program.run (.constant Elsewhere.answers) .fresh).1[1]? = some response ∧
        response.body = .json
          (.obj [("transaction_identifier", .obj [("hash", .str Cid.default.text)])]) := by
  intro program
  have pushed := Service.submissions_pushed Underway.service false
      (.constant Elsewhere.answers) .fresh
    [Elsewhere.request, Deposit.request, Elsewhere.request]
  constructor
  · have handIn := pushed.1
    generalize ((Underway.service.serveAll false _).calls _ _).filterMap Node.Call.pushed? =
      messages at handIn
    cases handIn with
    | submission submits _ => exact absurd submits (Deposit.elsewhere_submits_none _)
    | other _ later =>
      cases later with
      | other submitsNone _ => exact absurd Deposit.submits (submitsNone _)
      | submission submits later =>
        obtain rfl := submits.unique Deposit.submits
        cases later with
        | submission submits _ => exact absurd submits (Deposit.elsewhere_submits_none _)
        | other _ later =>
          cases later
          rfl
  · obtain ⟨response, isResponse, submitted⟩ :=
      pushed.2 [Elsewhere.request] Deposit.request [Elsewhere.request] Deposit.message rfl
        Deposit.submits
    exact ⟨response, isResponse, (submitted.taken Cid.default rfl).2⟩

end Rosetta

end FilecoinRosetta
