import FilecoinRosetta.Proofs.Rosetta.LookUps

/-!
# Blocks and their transactions

A block tells all its transactions, and another endpoint tells one of them. Both
find the block and build its transactions on their own, at different times and over
what was learned of addresses until then. On a node with constant answers they agree
all the same: what the one refuses the other one refuses, and what the one lists is
just what the other one finds. Only the parent, which a block names besides, is none
of the business of the other one.
-/

namespace FilecoinRosetta.Rosetta

open Program

/-- The kinds of errors that asking for the parent of a tipset may end with. -/
def parentErrors : List ErrorKind :=
  [.parentUnavailable, .nodeTimedOut, .tipsetHashUnavailable]

/-- No index and no hash is refused because of a parent. -/
example :
    ∀ kind ∈ [ErrorKind.malformedValue, .blockNotSynced, .hashMismatch], kind ∉ parentErrors := by
  decide

/-- One transaction is told as a block has it: the first one of the hash, and none
where the block has none or there is no block. Where the block is refused it is
refused alike, unless the parent was to blame. -/
def TellsOneOf (wanted : String) (whole : Except ServiceError (Option Block))
    (one : Except ServiceError Transaction) : Prop :=
  match whole with
  | .ok (some block) =>
      match block.transactions.find? fun transaction => transaction.hash == wanted with
      | some transaction => one = .ok transaction
      | none => one = .error (.because .transactionNotFound wanted)
  | .ok none => one = .error (.because .transactionNotFound wanted)
  | .error cause => cause.kind ∉ parentErrors → one = .error cause

namespace Service

/-! ## Two endpoints over coherent caches -/

/-- On a node with constant answers and over coherent caches, both endpoints come to
values of which the one tells a transaction as the other one has it. -/
def Agree (service : Service) (answers : Node.Answers) (wanted : String)
    (whole : Endpoint (Option Block)) (one : Endpoint Transaction) : Prop :=
  let node := Node.constant answers
  ∃ found told, Yields node (service.directory.Coherent node answers) whole.run found ∧
    Yields node (service.directory.Coherent node answers) one.run told ∧
      TellsOneOf wanted found told

/-- A course of which nothing is asked but which calls fail how,
and how it refuses. -/
abbrev Goes (service : Service) (fails : CallSite → Prop) (refuses : ServiceError → Prop) {α : Type}
    (endpoint : Endpoint α) : Prop :=
  ∃ good, Course (.anything service.directory.LooksUp) (fun _ site => fails site) refuses good
    endpoint.run

/-- What goes any course may be followed by what goes any course. -/
theorem Goes.seq {service : Service} {fails : CallSite → Prop} {refuses : ServiceError → Prop}
    {α β : Type} {first : Endpoint α} {next : α → Endpoint β}
    (goes : service.Goes fails refuses first)
    (follows : ∀ value, service.Goes fails refuses (next value)) :
    service.Goes fails refuses (first >>= next) := by
  obtain ⟨good, course⟩ := goes
  refine ⟨fun _ _ => True, course.attempt fun value made _ => ?_⟩
  obtain ⟨_, rest⟩ := follows value
  exact rest.loosen fun _ _ _ => trivial

/-- What goes any course comes to one value over coherent caches, if the node always
gives the same answers. If that value is an error, it is one of the refusals or the
error of a call that failed. -/
theorem Goes.fixed {service : Service} {fails : CallSite → Prop} {refuses : ServiceError → Prop}
    {α : Type} {endpoint : Endpoint α} (goes : service.Goes fails refuses endpoint)
    (answers : Node.Answers) :
    ∃ outcome, Yields (.constant answers) (service.directory.Coherent (.constant answers) answers)
        endpoint.run outcome ∧
      ∀ cause, outcome = .error cause → refuses cause ∨ ∃ site failure, fails site ∧
        cause = site.error failure := by
  obtain ⟨good, course⟩ := goes
  obtain ⟨outcome, yields⟩ := course.uses_directory.fixed answers
  refine ⟨outcome, yields, ?_⟩
  rintro cause rfl
  have ended := course.ends (.constant answers) .fresh
  rw [(yields .fresh Directory.coherent_empty).1] at ended
  generalize Program.calls _ _ _ = made at ended
  cases ended with
  | refused isRefusal => exact .inl isRefusal
  | failed isMade mayAsk answer => exact .inr ⟨_, _, mayAsk, rfl⟩

namespace Agree

variable {service : Service} {answers : Node.Answers} {wanted : String} {α : Type}
  {one : Endpoint Transaction} {nextWhole : α → Endpoint (Option Block)}

/-- Endpoints that agree may both do the same before, as it fails or succeeds
for both of them. -/
theorem after {first : Endpoint α} {nextOne : α → Endpoint Transaction}
    (goes : service.Goes (fun _ => True) (fun _ => True) first)
    (follows : ∀ value, service.Agree answers wanted (nextWhole value) (nextOne value)) :
    service.Agree answers wanted (first >>= nextWhole) (first >>= nextOne) := by
  obtain ⟨outcome, yields, -⟩ := goes.fixed answers
  cases outcome with
  | ok value =>
    obtain ⟨found, told, yieldsFound, yieldsTold, tells⟩ := follows value
    exact ⟨found, told, yields.attempt yieldsFound, yields.attempt yieldsTold, tells⟩
  | error cause =>
    have refusedAlike : TellsOneOf wanted (.error cause) (.error cause) := fun _ => rfl
    exact ⟨.error cause, .error cause, yields.failed nextWhole, yields.failed nextOne, refusedAlike⟩

/-- The endpoint about blocks may do something else before, if it is refused and
fails as asking for a parent is. -/
theorem besides {first : Endpoint α}
    (goes : service.Goes (·.kind = .parentUnavailable) (·.kind ∈ parentErrors) first)
    (oneGoes : service.Goes (fun _ => True) (fun _ => True) one)
    (follows : ∀ value, service.Agree answers wanted (nextWhole value) one) :
    service.Agree answers wanted (first >>= nextWhole) one := by
  obtain ⟨outcome, yields, blamed⟩ := goes.fixed answers
  cases outcome with
  | ok value =>
    obtain ⟨found, told, yieldsFound, yieldsTold, tells⟩ := follows value
    exact ⟨found, told, yields.attempt yieldsFound, yieldsTold, tells⟩
  | error cause =>
    obtain ⟨told, yieldsTold, -⟩ := oneGoes.fixed answers
    refine ⟨.error cause, told, yields.failed nextWhole, yieldsTold, fun other => absurd ?_ other⟩
    rcases blamed cause rfl with refused | ⟨site, failure, ofParent, rfl⟩
    · exact refused
    · rcases site.error_kind failure with isKind | isKind
      · simp [isKind, ofParent, parentErrors]
      · simp [isKind, parentErrors]

/-- Where there is no block there is no transaction, and the error
for it says so. -/
theorem nothing :
    service.Agree answers wanted (pure none) (Endpoint.refuseBecause .transactionNotFound wanted) :=
  ⟨.ok none, .error (.because .transactionNotFound wanted), .result _, .result _, rfl⟩

/-- Of a block the transaction of the hash is told, the first one if there are
several, and none if the block has none. -/
theorem found (block : Block) :
    service.Agree answers wanted (pure (some block)) (Endpoint.demand .transactionNotFound wanted
      (block.transactions.find? fun transaction => transaction.hash == wanted)) := by
  cases first : block.transactions.find? fun transaction => transaction.hash == wanted with
  | none =>
    refine ⟨.ok (some block), .error (.because .transactionNotFound wanted), .result _,
      .result _, ?_⟩
    simp only [TellsOneOf, first]
  | some transaction =>
    refine ⟨.ok (some block), .ok transaction, .result _, .result _, ?_⟩
    simp only [TellsOneOf, first]

end Agree

/-! ## The endpoints -/

variable (service : Service) (answers : Node.Answers)

/-- Both endpoints take the same steps, but that a block names
its parent besides. -/
theorem block_agrees (network : Option NetworkIdentifier) (index : Int64) (hash wanted : String) :
    service.Agree answers wanted (service.block ⟨network, ⟨some index, some hash⟩⟩)
      (service.blockTransaction ⟨network, ⟨⟨index, hash⟩, wanted⟩⟩) := by
  apply Agree.after ⟨_, .given fun _ _ => trivial⟩
  intro identifier
  apply Agree.after ⟨_, .requireSynced _ trivial fun _ _ => trivial⟩
  intro synced
  apply Agree.after ⟨_, .tipsetAt index (some hash) (fun _ _ _ => trivial) fun _ _ => trivial⟩
  intro found
  cases found with
  | none => exact .nothing
  | some tipset =>
    have picks (transactions : List Transaction) :
        service.Goes (fun _ => True) (fun _ => True) (Endpoint.demand .transactionNotFound wanted
          (transactions.find? fun transaction => transaction.hash == wanted)) :=
      ⟨_, .demand fun _ => trivial⟩
    change service.Agree answers wanted
      (service.blockOf tipset >>= fun block => pure (some block)) _
    unfold blockOf
    simp only [LawfulMonad.bind_assoc]
    have reads : service.Goes (fun _ => True) (fun _ => True) (service.transactionsOf tipset) :=
      ⟨_, .transactionsOf service tipset (fun _ _ => trivial)
        (fun _ _ inherited => inherited.transactions _)
        fun _ => trivial⟩
    have nameless : namelessError.kind ∈ parentErrors := by decide
    have orphaned (tipset : Tipset) : (orphanError tipset).kind ∈ parentErrors := .head _
    apply Agree.besides ⟨_, .parentOf tipset (fun _ _ => rfl) fun _ => orphaned tipset⟩
      (reads.seq picks)
    intro parent
    apply Agree.after reads
    intro transactions
    apply Agree.besides ⟨_, .blockIdentifier tipset fun _ => nameless⟩ (picks transactions)
    intro identifier
    apply Agree.besides ⟨_, .blockIdentifier parent fun _ => nameless⟩ (picks transactions)
    intro parentIdentifier
    simp only [LawfulMonad.pure_bind]
    exact .found _

/-- On a node with constant answers, the transaction of a hash that is asked for
with the block of an index and a hash is the first one of that hash in the block,
whatever was requested before either of both. It is not found exactly where the
block has none, and where there is no block. Where the block is refused, and its
parent is not to blame, the transaction is refused with the same error. -/
theorem blockTransaction_agrees (anyOrigin : Bool) (earlier earlierToo : List HttpRequest)
    (network : Option NetworkIdentifier) (index : Int64) (hash wanted : String) :
    let node := Node.constant answers
    let whole := ((service.block ⟨network, ⟨some index, some hash⟩⟩).run.run node
      (service.sessionAfter anyOrigin node earlier)).1
    let one := ((service.blockTransaction ⟨network, ⟨⟨index, hash⟩, wanted⟩⟩).run.run node
      (service.sessionAfter anyOrigin node earlierToo)).1
    TellsOneOf wanted whole one := by
  intro node whole one
  obtain ⟨found, told, yieldsFound, yieldsTold, tells⟩ :=
    service.block_agrees answers network index hash wanted
  have isFound : whole = found :=
    (yieldsFound _ (service.sessionAfter_coherent anyOrigin node answers earlier)).1
  have isTold : one = told :=
    (yieldsTold _ (service.sessionAfter_coherent anyOrigin node answers earlierToo)).1
  rw [isFound, isTold]
  exact tells

end Service

end FilecoinRosetta.Rosetta
