import FilecoinRosetta.Proofs.Directory.Uses
import FilecoinRosetta.Proofs.Program.Confinement
import FilecoinRosetta.Rosetta.Service

/-!
# The course of an endpoint

Each endpoint is walked through once. What the walk finds is the course of the
endpoint: which calls it may make and what it makes of their failures, why it may
refuse, and what it comes to after which calls. All of this is said in terms of what
the endpoint may be told, so the walk itself needs no node.

Everything else that is known of an endpoint follows from its course by a choice of
what may be told. If that is anything at all, the course says that failures are
heeded and that addresses are looked up and nothing else. If it is what a node
answers, the course says how the endpoint ends on that node. If it is what a node
answers from some time on, and nothing is looked up, the course says that the
endpoint is confined to its calls. So where an endpoint changes, its course has to
be walked again, and nothing else. Only the checks in front of the first call are
looked at apart, as there the order of the causes matters.
-/

namespace FilecoinRosetta

open Program

/-- A program that is put together from look-ups and nothing else: it has every
property that look-ups have and sequences hand on. -/
def Directory.LooksUp (directory : Directory) {α : Type} (program : Program α) : Prop :=
  ∀ property : (∀ {α : Type}, Program α → Prop), directory.Inherited property → property program

namespace Rosetta

/-! ## Calls and their failures -/

/-- What an endpoint makes of a failure of one of its calls. -/
structure CallSite where
  /-- The kind of error, unless the call timed out. -/
  kind : ErrorKind
  /-- Whether the client is told the cause. -/
  telling : Bool
  /-- Timeouts have a kind of their own. -/
  inTime : kind ≠ .nodeTimedOut

namespace CallSite

/-- The error of a failure. -/
def error (site : CallSite) (failure : Node.Failure) : ServiceError where
  kind := if failure.isTimeout then .nodeTimedOut else site.kind
  details := if site.telling then some failure.message else none

/-- The place of a call whose failure is told with its cause. -/
def told (kind : ErrorKind) (inTime : kind ≠ .nodeTimedOut := by decide) : CallSite :=
  ⟨kind, true, inTime⟩

/-- An error of a timeout is of the kind of timeouts, and no other error is. -/
theorem error_timedOut_iff (site : CallSite) (failure : Node.Failure) :
    (site.error failure).kind = .nodeTimedOut ↔ failure.isTimeout = true := by
  unfold error
  cases failure.isTimeout with
  | true => exact ⟨fun _ => rfl, fun _ => rfl⟩
  | false => exact ⟨fun same => absurd same site.inTime, fun impossible => nomatch impossible⟩

/-- The error of a failure is of the kind that the place names, or it is of the kind
of timeouts. There is no third kind, whatever the node said. -/
theorem error_kind (site : CallSite) (failure : Node.Failure) :
    (site.error failure).kind = site.kind ∨ (site.error failure).kind = .nodeTimedOut := by
  unfold error
  cases failure.isTimeout with
  | true => exact .inr rfl
  | false => exact .inl rfl

end CallSite

/-! ## Courses -/

/-- What an endpoint may rely on while it goes its course. -/
structure Ground where
  /-- The answers that a call may get, if it does not fail. -/
  told : (call : Node.Call) → call.Answer → Prop
  /-- The programs that may be run to look something up. -/
  looks : {α : Type} → Program α → Prop
  /-- What they may come to, and after which calls. -/
  finds : {α : Type} → Program α → α → List Node.Call → Prop

/-- An endpoint makes calls, each of them at a place, and ends with the failure of
the first one that fails. It may run other programs to look something up. It ends
with a value that is good for the calls made, or it refuses.

A goal speaks of all calls made. Behind a call, what is left to do has that call in
front of its own. -/
inductive Course (ground : Ground) (may : Node.Call → CallSite → Prop)
    (refuses : ServiceError → Prop) {α : Type} :
    (α → List Node.Call → Prop) → Program (Except ServiceError α) → Prop where
  /-- The end, with a value. -/
  | found {good : α → List Node.Call → Prop} {value : α} (isGood : good value []) :
      Course ground may refuses good (.done (.ok value))
  /-- The end, with a refusal. -/
  | refused {good : α → List Node.Call → Prop} {cause : ServiceError} (isRefusal : refuses cause) :
      Course ground may refuses good (.done (.error cause))
  /-- A call. Whatever it is told, the endpoint goes on; if it fails,
  that is the end. -/
  | ask {good : α → List Node.Call → Prop} {call : Node.Call}
      {next : Except Node.Failure call.Answer → Program (Except ServiceError α)} {site : CallSite}
      (mayAsk : may call site)
      (fails : ∀ failure, next (.error failure) = .done (.error (site.error failure)))
      (follows : ∀ answer, ground.told call answer →
        Course ground may refuses (fun value made => good value (call :: made))
          (next (.ok answer))) :
      Course ground may refuses good (.ask call next)
  /-- A program that looks something up. -/
  | look {good : α → List Node.Call → Prop} {γ : Type} {first : Program γ}
      {next : γ → Program (Except ServiceError α)} (looksUp : ground.looks first)
      (follows : ∀ value made, ground.finds first value made →
        Course ground may refuses (fun later more => good later (made ++ more)) (next value)) :
      Course ground may refuses good (first.bind next)

namespace Course

variable {ground : Ground} {may : Node.Call → CallSite → Prop} {refuses : ServiceError → Prop}
  {α β : Type} {good : α → List Node.Call → Prop} {program : Program (Except ServiceError α)}

/-! ### Steps -/

/-- Whoever allows more calls and more refusals and asks for less has the
course all the same. -/
theorem weaken {allows : Node.Call → CallSite → Prop} {declines : ServiceError → Prop}
    {weaker : α → List Node.Call → Prop} (course : Course ground may refuses good program)
    (calls : ∀ call site, may call site → allows call site)
    (refusals : ∀ cause, refuses cause → declines cause)
    (implies : ∀ value made, good value made → weaker value made) :
    Course ground allows declines weaker program := by
  induction course generalizing weaker with
  | found isGood => exact .found (implies _ _ isGood)
  | refused isRefusal => exact .refused (refusals _ isRefusal)
  | ask mayAsk fails _ ih =>
    exact .ask (calls _ _ mayAsk) fails fun answer told => ih answer told fun _ _ => implies _ _
  | look looksUp _ ih =>
    exact .look looksUp fun value made finds => ih value made finds fun _ _ => implies _ _

/-- Whoever asks for less of the value has the course all the same. -/
theorem loosen {weaker : α → List Node.Call → Prop}
    (course : Course ground may refuses good program)
    (implies : ∀ value made, good value made → weaker value made) :
    Course ground may refuses weaker program :=
  course.weaken (fun _ _ allowed => allowed) (fun _ allowed => allowed) implies

/-- A value is the end, without any call, if it is good with none. -/
theorem result {value : α} (isGood : good value []) :
    Course ground may refuses good (pure value : Endpoint α).run :=
  .found isGood

/-- A refusal is the end as well, if it is one of those that are allowed. -/
theorem refusal {cause : ServiceError} (isRefusal : refuses cause) :
    Course ground may refuses good (throw cause : Endpoint α).run :=
  .refused isRefusal

/-- An attempt is followed by another one, which may rely on the value of the
first one. Its calls are behind those made before. Nothing follows an attempt
that refuses or fails. -/
theorem attempt {first : Endpoint α} {next : α → Endpoint β} {middle : α → List Node.Call → Prop}
    {good : β → List Node.Call → Prop} (course : Course ground may refuses middle first.run)
    (follows : ∀ value made, middle value made →
      Course ground may refuses (fun later more => good later (made ++ more)) (next value).run) :
    Course ground may refuses good (first >>= next).run := by
  rw [ExceptT.run_bind]
  generalize first.run = program at course ⊢
  change Course ground may refuses good (program.bind _)
  induction course generalizing good with
  | found isGood => exact follows _ [] isGood
  | refused isRefusal => exact .refused isRefusal
  | ask mayAsk fails _ ih =>
    refine .ask mayAsk (fun failure => ?_) fun answer told => ih answer told fun value made =>
      follows value _
    rw [fails]
    rfl
  | look looksUp _ ih =>
    rw [bind_assoc]
    refine .look looksUp fun value made finds => ih value made finds fun later more isGood => ?_
    simp only [← List.append_assoc]
    exact follows later _ isGood

/-- An attempt without calls leaves the goal of what follows as it is. -/
theorem before {first : Endpoint α} {next : α → Endpoint β} {middle : α → Prop}
    {good : β → List Node.Call → Prop}
    (course : Course ground may refuses (fun value made => middle value ∧ made = []) first.run)
    (follows : ∀ value, middle value → Course ground may refuses good (next value).run) :
    Course ground may refuses good (first >>= next).run := by
  apply course.attempt
  rintro value made ⟨holds, rfl⟩
  exact follows value holds

/-- A call at its place. What it is told is the value. -/
theorem call {kind : ErrorKind} {call : Node.Call} {inTime : kind ≠ .nodeTimedOut}
    (mayAsk : may call (.told kind inTime)) :
    Course ground may refuses (fun answer made => ground.told call answer ∧ made = [call])
      (Endpoint.call kind call).run :=
  .ask mayAsk (fun _ => rfl) fun _ told => .found ⟨told, rfl⟩

/-- A call whose failure is told without the cause: the error has the kind alone. -/
theorem quietCall {kind : ErrorKind} {call : Node.Call} {inTime : kind ≠ .nodeTimedOut}
    (mayAsk : may call ⟨kind, false, inTime⟩) :
    Course ground may refuses (fun answer made => ground.told call answer ∧ made = [call])
      (Endpoint.quietCall kind call).run :=
  .ask mayAsk (fun _ => rfl) fun _ told => .found ⟨told, rfl⟩

/-- A value that must be there, or it is refused. No call is made in either case. -/
theorem demand {kind : ErrorKind} {cause : String} {value : Option α}
    (isRefusal : value = none → refuses (.because kind cause)) :
    Course ground may refuses (fun found made => value = some found ∧ made = [])
      (Endpoint.demand kind cause value).run := by
  cases value with
  | some found => exact .found ⟨rfl, rfl⟩
  | none => exact .refused (isRefusal rfl)

/-- A value that is given, or the cause why it is not. -/
theorem given {value : Except ServiceError α}
    (isRefusal : ∀ cause, value = .error cause → refuses cause) :
    Course ground may refuses (fun found made => value = .ok found ∧ made = [])
      (liftM value : Endpoint α).run := by
  cases value with
  | ok found => exact .found ⟨rfl, rfl⟩
  | error cause => exact .refused (isRefusal cause rfl)

/-- A refusal under a condition, in front of everything else. What follows may
rely on the contrary. -/
theorem guarded {condition : Prop} {decided : Decidable condition} {kind : ErrorKind}
    {cause : String} {next : PUnit → Endpoint α}
    (isRefusal : condition → refuses (.because kind cause))
    (follows : ¬ condition → Course ground may refuses good (next ()).run) :
    Course ground may refuses good
      (ExceptT.run (if condition then do
        let value ← Endpoint.refuseBecause kind cause
        next value
      else next ())) := by
  by_cases holds : condition
  · rw [if_pos holds]
    exact .refused (isRefusal holds)
  · rw [if_neg holds]
    exact follows holds

/-- A program that looks something up and does not refuse. Its calls are those of
the look-ups in it. -/
theorem lift {first : Program α} (looksUp : ground.looks first) :
    Course ground may refuses (fun value made => ground.finds first value made)
      (Endpoint.lift first).run :=
  .look looksUp fun value made finds => .found (by rwa [List.append_nil])

/-! ### How a course ends on a node -/

/-- How an endpoint may end on a node: with a value that is good for the calls made,
with a refusal, or with the error of a call that it made and that failed. -/
inductive Ended (node : Node) (may : Node.Call → CallSite → Prop) (refuses : ServiceError → Prop)
    (good : α → List Node.Call → Prop) : Except ServiceError α → List Node.Call → Prop where
  /-- A value. -/
  | found {value : α} {made : List Node.Call} (isGood : good value made) :
      Ended node may refuses good (.ok value) made
  /-- A refusal. -/
  | refused {cause : ServiceError} {made : List Node.Call} (isRefusal : refuses cause) :
      Ended node may refuses good (.error cause) made
  /-- A failure. -/
  | failed {made : List Node.Call} {call : Node.Call} {site : CallSite} {past : List Node.Event}
      {failure : Node.Failure} (isMade : call ∈ made) (mayAsk : may call site)
      (answer : node.answer past call = .error failure) :
      Ended node may refuses good (.error (site.error failure)) made

variable {node : Node} {kept : AddressCache → Prop} {seeks : Node.Call → Prop}

/-- Calls made earlier change nothing about an ending, if it is told
with them in front. -/
theorem Ended.behind {earlier made : List Node.Call} {outcome : Except ServiceError α}
    (ended : Ended node may refuses (fun value more => good value (earlier ++ more)) outcome made) :
    Ended node may refuses good outcome (earlier ++ made) := by
  cases ended with
  | found isGood => exact .found isGood
  | refused isRefusal => exact .refused isRefusal
  | failed isMade mayAsk answer => exact .failed (List.mem_append_right _ isMade) mayAsk answer

/-- Where nothing can be refused and every call is answered, an endpoint
comes to a value. -/
theorem Ended.succeeds {outcome : Except ServiceError α} {made : List Node.Call}
    (ended : Ended node may refuses good outcome made) (accepts : ∀ cause, ¬ refuses cause)
    (tells : ∀ call site, may call site → node.Tells call) :
    ∃ value, outcome = .ok value ∧ good value made := by
  cases ended with
  | found isGood => exact ⟨_, rfl, isGood⟩
  | refused isRefusal => exact absurd isRefusal (accepts _)
  | failed isMade mayAsk answer => exact ((tells _ _ mayAsk).not_failed answer).elim

/-- On a node whose answers are among those that may be told, an endpoint ends as
its course says, and makes the calls that it may make besides those of look-ups.
What look-ups keep up is kept up. -/
theorem meets (course : Course ground may refuses good program)
    (told : ∀ past call answer, node.answer past call = .ok answer → ground.told call answer)
    (looks : ∀ {γ : Type} {first : Program γ}, ground.looks first →
      Meets node kept first fun value made => ground.finds first value made ∧
        ∀ call ∈ made, seeks call) :
    Meets node kept program fun outcome made => Ended node may refuses good outcome made ∧
      ∀ call ∈ made, (∃ site, may call site) ∨ seeks call := by
  induction course with
  | found isGood => exact .result ⟨.found isGood, List.forall_mem_nil _⟩
  | refused isRefusal => exact .result ⟨.refused isRefusal, List.forall_mem_nil _⟩
  | @ask good call next site mayAsk fails _ ih =>
    intro session known
    change (Ended _ _ _ _ ((next (node.answer session.past call)).run node (session.asked call)).1
      (call :: (next (node.answer session.past call)).calls node (session.asked call)) ∧ _) ∧
      kept ((next (node.answer session.past call)).run node (session.asked call)).2.cache
    rw [calls, List.forall_mem_cons]
    cases answer : node.answer session.past call with
    | error failure =>
      rw [fails]
      exact ⟨⟨.failed List.mem_cons_self mayAsk answer, .inl ⟨site, mayAsk⟩, List.forall_mem_nil _⟩,
        known⟩
    | ok found =>
      obtain ⟨⟨ended, made⟩, known⟩ := ih found (told _ _ _ answer) (session.asked call) known
      have behind : Ended node may refuses good _ ([call] ++ _) := ended.behind
      exact ⟨⟨behind, .inl ⟨site, mayAsk⟩, made⟩, known⟩
  | look looksUp _ ih =>
    apply (looks looksUp).seq
    rintro value made ⟨finds, sought⟩
    apply (ih value made finds).weaken
    rintro outcome more ⟨ended, others⟩
    refine ⟨ended.behind, ?_⟩
    rw [List.forall_mem_append]
    exact ⟨fun call member => .inr (sought call member), others⟩

/-- If nothing may be looked up, an endpoint is confined to the calls that
it may make, from any time on at which the node's answers are among those
that may be told. -/
theorem confined (course : Course ground may refuses good program) {since : List Node.Event}
    {allowed : Node.Call → Prop}
    (told : ∀ made call answer, node.answer (made ++ since) call = .ok answer →
      ground.told call answer)
    (unsought : ∀ {γ : Type} (first : Program γ), ¬ ground.looks first)
    (isAllowed : ∀ call site, may call site → allowed call) :
    Confined node since allowed (fun outcome => ∀ value, outcome = .ok value →
      ∃ made, good value made)
      program := by
  induction course with
  | found isGood => exact .done fun value isOk => ⟨[], Except.ok.inj isOk ▸ isGood⟩
  | refused isRefusal => exact .done fun _ impossible => nomatch impossible
  | @ask good call next site mayAsk fails _ ih =>
    refine .ask (isAllowed _ _ mayAsk) fun made => ?_
    cases answer : node.answer (made ++ since) call with
    | error failure =>
      rw [fails]
      exact .done fun _ impossible => nomatch impossible
    | ok found =>
      apply (ih found (told _ _ _ answer)).weaken
      intro outcome holds value isOk
      obtain ⟨more, isGood⟩ := holds value isOk
      exact ⟨call :: more, isGood⟩
  | look looksUp _ _ => exact absurd looksUp (unsought _)

/-- If all look-ups are of addresses, and anything may be told and found, an
endpoint looks addresses up and changes nothing else that is known of them. -/
theorem uses {directory : Directory} (course : Course ground may refuses good program)
    (told : ∀ call answer, ground.told call answer)
    (looks : ∀ {γ : Type} {first : Program γ}, ground.looks first →
      directory.LooksUp first ∧ ∀ value, ∃ made, ground.finds first value made) :
    directory.Uses program := by
  induction course with
  | found isGood => exact .done _
  | refused isRefusal => exact .done _
  | ask mayAsk fails _ ih =>
    refine .ask _ fun answer => ?_
    cases answer with
    | error failure =>
      rw [fails]
      exact .done _
    | ok found => exact ih found (told _ _)
  | @look good γ first next looksUp _ ih =>
    obtain ⟨ofLookUps, finds⟩ := looks looksUp
    refine Directory.Uses.seq (ofLookUps _ (Directory.Uses.inherited directory)) fun value => ?_
    obtain ⟨made, isFound⟩ := finds value
    exact ih value made isFound

end Course

/-! ## Grounds -/

namespace Ground

/-- Anything may be told, and some programs may be run to look something
up, with any outcome. -/
def anything (looks : {α : Type} → Program α → Prop) : Ground where
  told _ _ := True
  looks := looks
  finds _ _ _ := True

/-- Whatever may be told is what a node answers at some time. -/
def OfNode (ground : Ground) (node : Node) : Prop :=
  ∀ ⦃call : Node.Call⦄ ⦃answer : call.Answer⦄, ground.told call answer →
    ∃ past, node.answer past call = .ok answer

/-- A node is relied on to tell what it answers from some time on, and
nothing is looked up. -/
def since (node : Node) (since : List Node.Event) : Ground where
  told call answer := ∃ made, node.answer (made ++ since) call = .ok answer
  looks _ := False
  finds _ _ _ := False

/-- A node is relied on to tell what it answers at any time. Addresses are looked up
on it, over caches of which something is known. -/
def on (node : Node) (kept : AddressCache → Prop) (directory : Directory) : Ground where
  told call answer := ∃ past, node.answer past call = .ok answer
  looks program := directory.LooksUp program
  finds program value made :=
    (∃ session, kept session.cache ∧ value = (program.run node session).1) ∧
    ∀ call ∈ made, Lookup.IsQuestion call

/-- What a node answers from some time on it answers at some time. -/
theorem ofNode_since (node : Node) (since : List Node.Event) :
    (Ground.since node since).OfNode node :=
  fun _ _ ⟨made, answer⟩ => ⟨made ++ since, answer⟩

/-- What a node is relied on to answer at any time it answers at some time. -/
theorem ofNode_on (node : Node) (kept : AddressCache → Prop) (directory : Directory) :
    (Ground.on node kept directory).OfNode node :=
  fun _ _ told => told

end Ground

namespace Course

variable {may : Node.Call → CallSite → Prop} {refuses : ServiceError → Prop} {α : Type}
  {good : α → List Node.Call → Prop} {program : Program (Except ServiceError α)} {node : Node}
  {directory : Directory}

/-- Whatever is told, an endpoint looks addresses up and changes nothing else that
is known of them. -/
theorem uses_directory (course : Course (.anything directory.LooksUp) may refuses good program) :
    directory.Uses program :=
  course.uses (fun _ _ => trivial) fun looksUp => ⟨looksUp, fun _ => ⟨[], trivial⟩⟩

/-- On any node and from any session on, an endpoint ends as its course says, if
nothing is relied on. -/
theorem ends (course : Course (.anything directory.LooksUp) may refuses good program) (node : Node)
    (session : Session) :
    Ended node may refuses good (program.run node session).1 (program.calls node session) := by
  have meets : Meets node (fun _ => True) program fun outcome made =>
      Ended node may refuses good outcome made ∧
      ∀ call ∈ made, (∃ site, may call site) ∨ Lookup.IsQuestion call := by
    apply course.meets
    · exact fun _ _ _ _ => trivial
    · intro γ first looksUp session _
      have asks : Asks Lookup.IsQuestion first := looksUp _ directory.asks_inherited
      exact ⟨⟨trivial, asks.calls_allowed node session⟩, trivial⟩
  exact (meets session trivial).1.1

/-- On a node, an endpoint ends as its course says, over caches of which something
is known that look-ups do not change. -/
theorem meets_on {kept : AddressCache → Prop}
    (course : Course (.on node kept directory) may refuses good program)
    (keeps : ∀ {γ : Type} {program : Program γ}, directory.Uses program →
      ∀ session, kept session.cache → kept (program.run node session).2.cache) :
    Meets node kept program fun outcome made => Ended node may refuses good outcome made ∧
      ∀ call ∈ made, (∃ site, may call site) ∨ Lookup.IsQuestion call := by
  apply course.meets
  · exact fun past call answer told => ⟨past, told⟩
  · intro γ first looksUp session known
    have asks : Asks Lookup.IsQuestion first := looksUp _ directory.asks_inherited
    have questions := asks.calls_allowed node session
    exact ⟨⟨⟨⟨session, known, rfl⟩, questions⟩, questions⟩,
      keeps (looksUp _ (Directory.Uses.inherited directory)) session known⟩

/-- What an endpoint succeeds with on a node is good, whatever
is known of addresses. -/
theorem grants {attempt : Endpoint α}
    (course : Course (.on node (fun _ => True) directory) may refuses good attempt.run) :
    Grants node attempt fun value => ∃ made, good value made := by
  intro session value isOk
  have ended := (course.meets_on (fun _ _ _ => trivial) session trivial).1.1
  rw [isOk] at ended
  cases ended with
  | found isGood => exact ⟨_, isGood⟩

/-- On a node, an endpoint that looks nothing up ends as its course says, and makes
no other calls than those that it may make. -/
theorem ended (course : Course (.since node []) may refuses good program) (session : Session) :
    Ended node may refuses good (program.run node session).1 (program.calls node session) ∧
      ∀ call ∈ program.calls node session, ∃ site, may call site := by
  have meets : Meets node (fun _ => True) program fun outcome made =>
      Ended node may refuses good outcome made ∧
        ∀ call ∈ made, (∃ site, may call site) ∨ False := by
    apply course.meets
    · intro past call answer told
      exact ⟨past, by rwa [List.append_nil]⟩
    · exact fun looksUp => looksUp.elim
  obtain ⟨⟨ended, made⟩, -⟩ := meets session trivial
  exact ⟨ended, fun call member => (made call member).resolve_right not_false⟩

end Course

end Rosetta

end FilecoinRosetta
