import FilecoinRosetta.Proofs.Program.Moments
import FilecoinRosetta.Proofs.Rosetta.CallSites

/-!
# The first failure ends a request

A call that an endpoint makes itself and that fails is the last call of the
request, and the answer tells its failure. Whether that was a timeout is told by
the kind of error. So a limit on the time of calls is told of where it was exceeded
and nowhere else, and makes no difference where it was not. Failures of look-ups
are not told at all.
-/

namespace FilecoinRosetta.Rosetta

open Program

section

variable {table : Node.Call → Option CallSite} {seeks : Node.Call → Prop} {α : Type} {node : Node}
  {session : Session}
  {program : Program (Except ServiceError α)} {earlier later : List Node.Event} {call : Node.Call}

namespace Heeds

/-- Every call is one of the table or one of a look-up. -/
theorem made (heeds : Heeds table seeks program)
    (makes : Makes node program session earlier call later) :
    (∃ site, table call = some site) ∨ seeks call := by
  induction heeds generalizing session earlier with
  | done inTime => exact absurd makes (not_makes_done _)
  | @ask first next site isSite fails follows ih =>
    rcases makes_ask_iff.mp makes with ⟨-, rfl, -⟩ | ⟨rest, -, behind⟩
    · exact .inl ⟨site, isSite⟩
    · cases answer : node.answer session.past first with
      | ok found =>
        rw [answer] at behind
        exact ih found behind
      | error failure =>
        rw [answer, fails] at behind
        exact absurd behind (not_makes_done _)
  | look isSought follows ih =>
    rcases makes_ask_iff.mp makes with ⟨-, rfl, -⟩ | ⟨rest, -, behind⟩
    · exact .inr isSought
    · exact ih _ behind
  | consult name follows ih => exact ih (session.cache.entry name) makes
  | learn name fact follows ih => exact @ih (session.learned name fact) _ makes
  | wait span follows ih =>
    obtain ⟨rest, -, behind⟩ := makes_wait_iff.mp makes
    exact ih behind

/-- A call of the table that fails is the last one, and the
result tells its failure. -/
theorem last (heeds : Heeds table seeks program)
    (unsought : ∀ call, seeks call → table call = none)
    (makes : Makes node program session earlier call later) {site : CallSite}
    (isSite : table call = some site) {failure : Node.Failure}
    (failed : node.answer (earlier ++ session.past) call = .error failure) :
    later = [] ∧ (program.run node session).1 = .error (site.error failure) := by
  induction heeds generalizing session earlier with
  | done inTime => exact absurd makes (not_makes_done _)
  | @ask first next own isOwn fails follows ih =>
    change _ ∧ ((next (node.answer session.past first)).run node (session.asked first)).1 = _
    rcases makes_ask_iff.mp makes with ⟨rfl, rfl, past⟩ | ⟨rest, rfl, behind⟩
    · obtain rfl := Option.some.inj (isOwn.symm.trans isSite)
      change node.answer session.past first = .error failure at failed
      rw [failed, fails] at past ⊢
      exact ⟨List.self_eq_append_left.mp past, rfl⟩
    · rw [behind_first] at failed
      cases answer : node.answer session.past first with
      | ok found =>
        rw [answer] at behind
        exact ih found behind failed
      | error other =>
        rw [answer, fails] at behind
        exact absurd behind (not_makes_done _)
  | @look first next isSought follows ih =>
    rcases makes_ask_iff.mp makes with ⟨rfl, rfl, -⟩ | ⟨rest, rfl, behind⟩
    · exact nomatch (unsought first isSought).symm.trans isSite
    · rw [behind_first] at failed
      exact ih _ behind failed
  | consult name follows ih => exact ih (session.cache.entry name) makes failed
  | learn name fact follows ih => exact @ih (session.learned name fact) _ makes failed
  | wait span follows ih =>
    obtain ⟨rest, rfl, behind⟩ := makes_wait_iff.mp makes
    rw [behind_first] at failed
    exact ih behind failed

/-- A result that is a timeout tells the failure of the last call, which is
one of the table. -/
theorem timed_out (heeds : Heeds table seeks program) {cause : ServiceError}
    (ends : (program.run node session).1 = .error cause) (timedOut : cause.kind = .nodeTimedOut) :
    ∃ earlier call site failure, Makes node program session earlier call [] ∧
      table call = some site ∧
      node.answer (earlier ++ session.past) call = .error failure ∧ cause = site.error failure := by
  induction heeds generalizing session with
  | done inTime => exact absurd timedOut (inTime cause ends)
  | @ask first next site isSite fails follows ih =>
    change ((next (node.answer session.past first)).run node (session.asked first)).1 = _ at ends
    cases answer : node.answer session.past first with
    | ok found =>
      rw [answer] at ends
      obtain ⟨rest, call, other, failure, behind, isOther, failed, isCause⟩ := ih found ends
      rw [← answer] at behind
      exact ⟨rest ++ [.asked first], call, other, failure,
        makes_ask_iff.mpr (.inr ⟨rest, rfl, behind⟩), isOther,
        (behind_first ..).symm ▸ failed, isCause⟩
    | error failure =>
      rw [answer, fails] at ends
      refine ⟨[], first, site, failure, makes_ask_iff.mpr (.inl ⟨rfl, rfl, ?_⟩), isSite, answer,
        (Except.error.inj ends).symm⟩
      rw [answer, fails]
      rfl
  | @look first next isSought follows ih =>
    obtain ⟨rest, call, site, failure, behind, isSite, failed, isCause⟩ :=
      ih (node.answer session.past first) ends
    exact ⟨rest ++ [.asked first], call, site, failure,
      makes_ask_iff.mpr (.inr ⟨rest, rfl, behind⟩), isSite,
      (behind_first ..).symm ▸ failed, isCause⟩
  | consult name follows ih => exact ih (session.cache.entry name) ends
  | learn name fact follows ih => exact @ih (session.learned name fact) ends
  | @wait span next follows ih =>
    obtain ⟨rest, call, site, failure, behind, isSite, failed, isCause⟩ :=
      @ih ⟨session.cache, .waited span :: session.past⟩ ends
    exact ⟨rest ++ [.waited span], call, site, failure,
      makes_wait_iff.mpr ⟨rest, rfl, behind⟩, isSite, (behind_first ..).symm ▸ failed, isCause⟩

end Heeds

/-! ## Answers that tell an error -/

/-- The place of a kind in the list of all kinds follows from its code. -/
theorem ErrorKind.all_code (kind : ErrorKind) : all[kind.entry.code - 1]? = some kind := by
  cases kind <;> rfl

/-- No two kinds have the same code, so a client can tell the kind of an error from
its code. All pairs are gone through. -/
theorem ErrorKind.code_injective {kind other : ErrorKind}
    (same : kind.entry.code = other.entry.code) :
    kind = other := by
  have found := kind.all_code
  rw [same, other.all_code] at found
  exact (Option.some.inj found).symm

/-- An answer is one error and nothing else: it has the code, the wording and the
flag of its kind, and details only where the cause is told. -/
structure HttpResponse.Tells (response : HttpResponse) (cause : ServiceError) : Prop where
  /-- All errors have the same status. -/
  status : response.status = 500
  /-- Nothing but the error is told. -/
  body : response.body = .json (.obj
    ([("code", .nat cause.kind.entry.code), ("message", .str cause.kind.entry.message),
      ("retriable", .bool cause.kind.entry.retriable)] ++
      (cause.details.map fun text => ("details", Json.obj [("error", .str text)])).toList))

namespace HttpResponse

/-- A failure is told by a response with status 500, whose body is the error and
nothing else. The header on origins has no part in it. -/
theorem tells (cause : ServiceError) (allowOrigin : Option String) :
    Tells ⟨500, .json cause.json, allowOrigin⟩ cause := by
  obtain ⟨kind, details⟩ := cause
  refine ⟨rfl, ?_⟩
  cases details with
  | none => rfl
  | some text => rfl

/-- An answer tells of one kind of error at most, since kinds have different codes.
-/
theorem Tells.kind_eq {response : HttpResponse} {cause other : ServiceError}
    (tells : response.Tells cause) (also : response.Tells other) : cause.kind = other.kind := by
  have same := tells.body.symm.trans also.body
  injection same with same
  injection same with same
  have heads := List.head_eq_of_cons_eq same
  have codes : Json.nat cause.kind.entry.code = Json.nat other.kind.entry.code :=
    congrArg Prod.snd heads
  exact ErrorKind.code_injective (Int.ofNat.inj (Json.int.inj codes))

end HttpResponse

/-! ## Requests -/

namespace Service

variable (service : Service) (anyOrigin : Bool) {request : HttpRequest} {route : Route}

/-- A request that is not handed to an endpoint takes no step, and its answer is no
error of the service. -/
theorem serve_unposted (isPath : Route.ofPath? request.path = some route)
    (unposted : ¬ request.Posted) :
    ∃ response, service.serve anyOrigin request = .done response ∧
      ∀ cause, ¬ response.Tells cause := by
  unfold serve
  dsimp only
  by_cases options : (anyOrigin && request.method == "OPTIONS") = true
  · rw [if_pos options]
    exact ⟨_, rfl, fun cause tells => nomatch tells.body⟩
  · rw [if_neg options]
    unfold dispatch
    rw [isPath]
    dsimp only
    by_cases posted : request.method ≠ "POST"
    · rw [if_pos posted]
      exact ⟨⟨405, .empty, allowedOrigin anyOrigin⟩, rfl, fun cause tells => nomatch tells.body⟩
    · have long : maxBody < request.body.length :=
        Nat.lt_of_not_le fun short => unposted ⟨Decidable.of_not_not posted, short⟩
      rw [if_neg posted, if_pos long]
      exact ⟨⟨413, .text _, allowedOrigin anyOrigin⟩, rfl, fun cause tells => nomatch tells.body⟩

/-- A request ends as its endpoint does: with the same session, and with an error if
that ends with one. -/
theorem serve_posted (isPath : Route.ofPath? request.path = some route) (posted : request.Posted)
    (node : Node) (before : Session) :
    let ended := (service.serve anyOrigin request).run node before
    let answered := (service.answer route request.body).run.run node before
    ended.2 = answered.2 ∧ (∀ cause, answered.1 = .error cause → ended.1.Tells cause) ∧
      ∀ cause, ended.1.Tells cause → ∃ own, answered.1 = .error own ∧ own.kind = cause.kind := by
  intro ended answered
  rcases service.serve_cases anyOrigin node before isPath with ⟨_, -, unposted, -⟩ | ⟨comesTo, -⟩
  · exact absurd posted unposted
  · rcases isAnswered : answered with ⟨found, after⟩
    change (service.answer route request.body).run.run node before = _ at isAnswered
    cases found with
    | ok json =>
      rw [isAnswered] at comesTo
      change ended = _ at comesTo
      rw [comesTo]
      refine ⟨rfl, ?_, fun cause tells => ?_⟩
      · rintro _ ⟨⟩
      have refused : (200 : Nat) ≠ 500 := by decide
      exact absurd tells.status refused
    | error own =>
      rw [isAnswered] at comesTo
      change ended = _ at comesTo
      rw [comesTo]
      refine ⟨rfl, fun cause same => ?_, fun cause tells => ⟨own, rfl, ?_⟩⟩
      · obtain rfl := Except.error.inj same
        exact HttpResponse.tells own _
      · exact (HttpResponse.tells own _).kind_eq tells

/-- What is known of a request and of the calls made for it, if any
of them may fail. -/
structure EndsWithFailure (node : Node) (before : Session) (route : Route)
    (program : Program HttpResponse) :
    Prop where
  /-- Every call is one that the endpoint makes itself, or it is
  asked by a look-up. -/
  made : ∀ earlier call later, Makes node program before earlier call later →
    (∃ site, route.site? call = some site) ∨ route.Seeks call
  /-- The first of its own that fails is the last one of all, and the answer is the
  error of that call. -/
  last : ∀ earlier call later site failure, Makes node program before earlier call later →
    route.site? call = some site → node.answer (earlier ++ before.past) call = .error failure →
    later = [] ∧ (program.run node before).1.Tells (site.error failure)
  /-- A timeout is told exactly if such a call timed out. -/
  timedOut : (∃ cause, (program.run node before).1.Tells cause ∧ cause.kind = .nodeTimedOut) ↔
    ∃ earlier call site failure, Makes node program before earlier call [] ∧
      route.site? call = some site ∧
      node.answer (earlier ++ before.past) call = .error failure ∧ failure.isTimeout = true

/-- A request for a path that is served ends with the first failure of a call that
its endpoint makes itself, and the response tells that failure and no other. A
look-up may fail on the way without an end. -/
theorem ends_with_failure (isPath : Route.ofPath? request.path = some route) (node : Node)
    (before : Session) :
    EndsWithFailure node before route (service.serve anyOrigin request) := by
  by_cases posted : request.Posted
  case neg =>
    obtain ⟨response, isDone, untold⟩ := service.serve_unposted anyOrigin isPath posted
    rw [isDone]
    constructor
    case made => exact fun _ _ _ makes => absurd makes (not_makes_done _)
    case last => exact fun _ _ _ _ _ makes => absurd makes (not_makes_done _)
    case timedOut =>
      constructor
      · rintro ⟨cause, tells, -⟩
        exact absurd tells (untold cause)
      · rintro ⟨_, _, _, _, makes, -⟩
        exact absurd makes (not_makes_done _)
  case pos =>
    have heeds := Heeds.answer service route request.body
    obtain ⟨same, tells, told⟩ := service.serve_posted anyOrigin isPath posted node before
    have makes_iff (earlier : List Node.Event) (call : Node.Call) (later : List Node.Event) :
        Makes node (service.serve anyOrigin request) before earlier call later ↔
          Makes node (service.answer route request.body).run before earlier call later := by
      unfold Makes
      rw [same]
    have last (earlier : List Node.Event) (call : Node.Call) (later : List Node.Event)
        (site : CallSite)
        (failure : Node.Failure)
        (makes : Makes node (service.serve anyOrigin request) before earlier call later)
        (isSite : route.site? call = some site)
        (failed : node.answer (earlier ++ before.past) call = .error failure) :
        later = [] ∧
          ((service.serve anyOrigin request).run node before).1.Tells (site.error failure) := by
      obtain ⟨isLast, ends⟩ :=
        heeds.last (fun _ seeks => seeks.no_site) ((makes_iff ..).mp makes) isSite failed
      exact ⟨isLast, tells _ ends⟩
    constructor
    case made => exact fun earlier call later makes => heeds.made ((makes_iff ..).mp makes)
    case last => exact last
    case timedOut =>
      constructor
      · rintro ⟨cause, isTold, timedOut⟩
        obtain ⟨own, ends, sameKind⟩ := told cause isTold
        have ownTimedOut := sameKind.trans timedOut
        obtain ⟨earlier, call, site, failure, makes, isSite, failed, rfl⟩ :=
          heeds.timed_out ends ownTimedOut
        exact ⟨earlier, call, site, failure, (makes_iff ..).mpr makes, isSite, failed,
          (site.error_timedOut_iff failure).mp ownTimedOut⟩
      · rintro ⟨earlier, call, site, failure, makes, isSite, failed, isTimeout⟩
        exact ⟨_, (last earlier call [] site failure makes isSite failed).2,
          (site.error_timedOut_iff failure).mpr isTimeout⟩

/-- What is known of a request to a node whose calls have a limit of time. -/
structure Limited (timed : TimedNode) (limit : Duration) (before : Session) (route : Route)
    (program : Program HttpResponse) : Prop where
  /-- A timeout is told exactly if the last call is one that the endpoint makes
  itself, and took longer than the limit or is a timeout without it. -/
  told : (∃ cause, (program.run (timed.bounded limit) before).1.Tells cause ∧
    cause.kind = .nodeTimedOut) ↔
    ∃ earlier call site, Makes (timed.bounded limit) program before earlier call [] ∧
      route.site? call = some site ∧
      (limit.millis < (timed.delay (earlier ++ before.past) call).millis ∨
        ∃ failure, timed.answer (earlier ++ before.past) call = .error failure ∧
          failure.isTimeout = true)
  /-- If no call takes longer, the limit makes no difference. -/
  kept : (∀ earlier call later, Makes timed.toNode program before earlier call later →
      (timed.delay (earlier ++ before.past) call).millis ≤ limit.millis) →
    program.run (timed.bounded limit) before = program.run timed.toNode before

/-- What a node with a limit answers is a timeout if the answer takes too long,
or is one anyway. -/
theorem bounded_timeout_iff (timed : TimedNode) (limit : Duration) (past : List Node.Event)
    (call : Node.Call) :
    (∃ failure, (timed.bounded limit).answer past call = .error failure ∧
      failure.isTimeout = true) ↔
      limit.millis < (timed.delay past call).millis ∨
        ∃ failure, timed.answer past call = .error failure ∧ failure.isTimeout = true := by
  unfold TimedNode.bounded
  dsimp only
  by_cases late : limit.millis < (timed.delay past call).millis
  · rw [if_pos late]
    exact ⟨fun _ => .inl late, fun _ => ⟨_, rfl, rfl⟩⟩
  · rw [if_neg late]
    exact ⟨.inr, fun either => either.resolve_left late⟩

/-- The same with a limit on the time of each call: a call that takes longer fails
as timed out, and one that does not is answered as it would be without the limit. -/
theorem limited (isPath : Route.ofPath? request.path = some route) (timed : TimedNode)
    (limit : Duration) (before : Session) :
    Limited timed limit before route (service.serve anyOrigin request) := by
  have ends := service.ends_with_failure anyOrigin isPath (timed.bounded limit) before
  constructor
  case told =>
    rw [ends.timedOut]
    constructor
    · rintro ⟨earlier, call, site, failure, makes, isSite, failed, isTimeout⟩
      exact ⟨earlier, call, site, makes, isSite,
        (bounded_timeout_iff ..).mp ⟨failure, failed, isTimeout⟩⟩
    · rintro ⟨earlier, call, site, makes, isSite, either⟩
      obtain ⟨failure, failed, isTimeout⟩ := (bounded_timeout_iff timed limit _ call).mpr either
      exact ⟨earlier, call, site, failure, makes, isSite, failed, isTimeout⟩
  case kept =>
    intro inTime
    symm
    apply run_alike
    intro earlier call later makes
    exact (if_neg (Nat.not_lt.mpr (inTime earlier call later makes))).symm

/-- The first call of an endpoint's own that fails ends the request, and the answer
tells its failure. A timeout is told of such a call only, and a limit of time makes
no difference unless it is exceeded. Calls of look-ups are the others: they may fail
on the way, and what they were made for degrades. -/
theorem first_failure_ends (isPath : Route.ofPath? request.path = some route) (before : Session) :
    let program := service.serve anyOrigin request
    (∀ node, EndsWithFailure node before route program) ∧
      ∀ timed limit, Limited timed limit before route program :=
  ⟨fun node => service.ends_with_failure anyOrigin isPath node before,
    fun timed limit => service.limited anyOrigin isPath timed limit before⟩

end Service

end

/-! ## A slow node -/

namespace Slow

/-- The node answers at once, but takes a minute to tell its head. -/
def node : TimedNode where
  answer _
    | .syncState => .ok ⟨[⟨1, none, some ⟨.empty, [], 3⟩, .complete, 3, ""⟩], 0⟩
    | .chainHead => .ok ⟨.empty, [], 3⟩
    | _ => .error .unreachable
  delay _
    | .chainHead => .seconds 60
    | _ => .seconds 0

end Slow

/-- Half a minute is not enough for the head, and the answer says so. -/
theorem slow_head_ends :
    let program := Underway.service.serve false Underway.request
    Makes (Slow.node.bounded (.seconds 30)) program .fresh [.asked .syncState] .chainHead [] ∧
      (program.run (Slow.node.bounded (.seconds 30)) .fresh).1.Tells
        (.because .nodeTimedOut "chain_head timed out after 30s") := by
  intro program
  have isPath : Route.ofPath? Underway.request.path = some .block := by decide +kernel
  have makes :
      Makes (Slow.node.bounded (.seconds 30)) program .fresh [.asked .syncState] .chainHead [] := by
    unfold Makes
    decide +kernel
  have ends := (Service.first_failure_ends Underway.service false isPath .fresh).1
      (Slow.node.bounded (.seconds 30))
  have tells :=
    (ends.last _ _ _ ⟨.headUnavailable, true, by decide⟩
      (.timedOut "chain_head" (.seconds 30)) makes rfl
    rfl).2
  exact ⟨makes, tells⟩

end FilecoinRosetta.Rosetta
