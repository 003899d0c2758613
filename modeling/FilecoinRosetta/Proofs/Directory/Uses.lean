import FilecoinRosetta.Proofs.Directory.Coherence
import FilecoinRosetta.Proofs.Program.Calls
import FilecoinRosetta.TransactionHistory

/-!
# Programs that look addresses up

Whatever the service does, it reads and changes what is known about addresses by
look-ups only. So what holds of calls, of waiting and of the two look-ups, and is
handed on from one program to the next, holds of everything.
-/

namespace FilecoinRosetta

open Program

/-! ## What holds of look-ups -/

/-- A property of programs that both look-ups have and that sequences hand on. -/
structure Directory.Inherited (directory : Directory)
    (property : ∀ {α : Type}, Program α → Prop) : Prop where
  /-- A result has it. -/
  result : ∀ {α : Type} (value : α), property (pure value : Program α)
  /-- A sequence of programs that have it has it. -/
  seq : ∀ {α β : Type} {first : Program α} {next : α → Program β}, property first →
    (∀ value, property (next value)) → property (first >>= next)
  /-- The look-up of a code has it. -/
  code : ∀ address, property (directory.actorCode address).run
  /-- The look-up of a canonical form has it. -/
  canonical : ∀ address, property (directory.canonicalText address).run

namespace Directory.Inherited

variable {directory : Directory} {property : ∀ {α : Type}, Program α → Prop}
  (inherited : directory.Inherited property)

include inherited

/-- The name of a method inherits the property: it needs the code of
the receiver at most. -/
theorem methodName (address : Address) (number : UInt64) :
    property (directory.methodName address number) := by
  unfold Directory.methodName
  split
  · exact inherited.result _
  · split
    · exact inherited.result _
    · apply inherited.seq (inherited.code address)
      intro found
      cases found with
      | ok code => exact inherited.result _
      | error cause => exact inherited.result _

/-- The text that an account goes by inherits the property, as it is looked up or is
that of the address. -/
theorem canonicalOrOwnText (address : Address) :
    property (directory.canonicalOrOwnText address) := by
  apply inherited.seq (inherited.canonical address)
  intro found
  cases found with
  | ok text => exact inherited.result _
  | error cause => exact inherited.result _

/-- The accounts of a movement inherit the property. Both are looked up, also if
the first look-up fails. -/
theorem accounts (movement : Movement) : property (directory.accounts? movement) := by
  apply inherited.seq (inherited.canonical movement.sender)
  intro sender
  apply inherited.seq (inherited.canonical movement.receiver)
  intro receiver
  cases sender with
  | ok sender =>
    cases receiver with
    | ok receiver => exact inherited.result _
    | error cause => exact inherited.result _
  | error cause =>
    cases receiver with
    | ok receiver => exact inherited.result _
    | error cause => exact inherited.result _

/-- The operations of movements inherit the property, by induction
on the movements. -/
theorem transfers (type : String) (status : OperationStatus) (movements : List Movement) :
    property (directory.transfers type status movements) := by
  induction movements with
  | nil => exact inherited.result []
  | cons movement rest ih =>
    apply inherited.seq (inherited.accounts movement)
    intro names
    apply inherited.seq ih
    intro later
    cases names with
    | none => exact inherited.result _
    | some names => exact inherited.result _

/-- The visit of the calls that are still pending has it, by induction on the visit.
Each step looks up what one call needs. -/
theorem visit (pending : List ExecutionTrace) (found : List Transfer) :
    property (directory.visit pending found) := by
  induction pending, found using Directory.visit.induct with
  | case1 found =>
    rw [Directory.visit]
    exact inherited.result _
  | case2 call receipt subcalls rest found ih =>
    rw [Directory.visit]
    refine inherited.seq ?_ ih
    apply inherited.seq (inherited.methodName call.receiver call.method)
    intro name
    exact inherited.transfers name _ _

/-- The fee inherits the property: a message that pays none looks nothing up. -/
theorem fee (invocation : Invocation) : property (directory.fee? invocation) := by
  unfold fee?
  split
  · exact inherited.result _
  · apply inherited.seq (inherited.canonicalOrOwnText invocation.message.sender)
    intro account
    exact inherited.result _

/-- The operations of a message inherit the property, from its method name, its
movements and its fee. -/
theorem operations (invocation : Invocation) : property (directory.operations invocation) := by
  unfold Directory.operations
  cases invocation.trace with
  | none => exact inherited.result _
  | some root =>
    apply inherited.seq (inherited.visit [root] [])
    intro transfers
    cases transfers with
    | nil => exact inherited.result _
    | cons first rest =>
      apply inherited.seq (inherited.fee invocation)
      intro fee
      exact inherited.result _

/-- The transactions of executions have every property that look-ups hand on. This
is how all that is known of look-ups reaches blocks. -/
theorem transactions (invocations : List Invocation) :
    property (directory.transactions invocations) := by
  induction invocations with
  | nil => exact inherited.result []
  | cons invocation rest ih =>
    apply inherited.seq (inherited.operations invocation)
    intro operations
    apply inherited.seq ih
    intro later
    split
    · exact inherited.result _
    · exact inherited.result _

end Directory.Inherited

/-! ## Programs of look-ups -/

/-- A program that reads and changes what is known about addresses
by look-ups only. -/
inductive Directory.Uses (directory : Directory) {α : Type} : Program α → Prop where
  /-- The end. -/
  | done (result : α) : Uses directory (.done result)
  /-- A call. -/
  | ask (call : Node.Call) {next : Except Node.Failure call.Answer → Program α}
      (follows : ∀ answer, Uses directory (next answer)) : Uses directory (.ask call next)
  /-- Time that passes. -/
  | wait (span : Duration) {next : Program α} (follows : Uses directory next) :
      Uses directory (.wait span next)
  /-- The look-up of a code. -/
  | code (address : Address) {next : Except LookupError Cid → Program α}
      (follows : ∀ found, Uses directory (next found)) :
      Uses directory ((directory.actorCode address).run.bind next)
  /-- The look-up of a canonical form. -/
  | canonical (address : Address) {next : Except LookupError String → Program α}
      (follows : ∀ found, Uses directory (next found)) :
      Uses directory ((directory.canonicalText address).run.bind next)

namespace Directory.Uses

variable {directory : Directory} {α β ε : Type}

/-- A result has nothing looked up. -/
theorem result (value : α) : directory.Uses (pure value : Program α) :=
  .done value

/-- A sequence of two such programs is one, whatever the first one comes to. -/
theorem seq {first : Program α} {next : α → Program β} (uses : directory.Uses first)
    (follows : ∀ value, directory.Uses (next value)) : directory.Uses (first >>= next) := by
  change directory.Uses (first.bind next)
  induction uses with
  | done result => exact follows result
  | ask call _ ih => exact .ask call ih
  | wait span _ ih => exact .wait span ih
  | code address _ ih =>
    rw [bind_assoc]
    exact .code address ih
  | canonical address _ ih =>
    rw [bind_assoc]
    exact .canonical address ih

/-- An attempt, and another one if it succeeds. After a failure nothing is
looked up any more. -/
theorem attempt {first : ExceptT ε Program α} {next : α → ExceptT ε Program β}
    (uses : directory.Uses first.run) (follows : ∀ value, directory.Uses (next value).run) :
    directory.Uses (first >>= next).run := by
  rw [ExceptT.run_bind]
  refine uses.seq ?_
  intro found
  cases found with
  | ok value => exact follows value
  | error cause => exact result _

/-- The look-up of a code is one use of it, with nothing before or behind it. -/
theorem actorCode (address : Address) : directory.Uses (directory.actorCode address).run := by
  have uses : directory.Uses ((directory.actorCode address).run.bind .done) := .code address .done
  rwa [bind_done] at uses

/-- The look-up of a canonical form is one use of it, with nothing
before or behind it. -/
theorem canonicalText (address : Address) :
    directory.Uses (directory.canonicalText address).run := by
  have uses : directory.Uses ((directory.canonicalText address).run.bind .done) :=
    .canonical address .done
  rwa [bind_done] at uses

/-! ## Coherence -/

/-- Whatever a node answers, look-ups keep the cache coherent. This is the invariant
of every program here. -/
theorem coherent {program : Program α} (uses : directory.Uses program) {node : Node}
    {answers : Node.Answers} (session : Session)
    (coherent : directory.Coherent node answers session.cache) :
    directory.Coherent node answers (program.run node session).2.cache := by
  induction uses generalizing session with
  | done result => exact coherent
  | ask call _ ih => exact ih _ (session.asked call) coherent
  | wait span _ ih => exact ih ⟨session.cache, .waited span :: session.past⟩ coherent
  | code address _ ih =>
    rw [run_bind]
    exact ih _ _ (actorCode_kept address session coherent).1.coherent
  | canonical address _ ih =>
    rw [run_bind]
    exact ih _ _ (canonicalText_kept address session coherent).1.coherent

/-- On a node with constant answers such a program comes to one value
over all coherent caches. -/
theorem fixed {program : Program α} (uses : directory.Uses program) (answers : Node.Answers) :
    ∃ value, Yields (.constant answers) (directory.Coherent (.constant answers) answers)
      program value := by
  induction uses with
  | done result => exact ⟨result, .result result⟩
  | ask call _ ih =>
    obtain ⟨value, yields⟩ := ih (answers call)
    exact ⟨value, fun session known => yields (session.asked call) known⟩
  | wait span _ ih =>
    obtain ⟨value, yields⟩ := ih
    exact ⟨value, fun session known => yields ⟨session.cache, .waited span :: session.past⟩ known⟩
  | code address _ ih =>
    obtain ⟨value, yields⟩ := ih (directory.codeOf answers address)
    exact ⟨value, (actorCode_yields (Node.constant_steady answers address)).seq yields⟩
  | canonical address _ ih =>
    obtain ⟨value, yields⟩ := ih (directory.keyOf answers address)
    exact ⟨value, (canonicalText_yields (Node.constant_steady answers address)).seq yields⟩

/-- Look-ups only is a property that look-ups have and sequences hand on. -/
theorem inherited (directory : Directory) : directory.Inherited directory.Uses where
  result := result
  seq := seq
  code := actorCode
  canonical := canonicalText

end Directory.Uses

/-! ## What look-ups ask -/

namespace Lookup

/-- A question of the node about some address. -/
def IsQuestion (call : Node.Call) : Prop :=
  ∃ address, call ∈ Node.Call.about address

/-- A look into the cache asks the node nothing. -/
theorem entry_asks (name : String) : Asks IsQuestion (entry name).run :=
  .consult name fun _ => .done _

/-- What is kept in the cache is not asked for. -/
theorem keep_asks (name : String) (fact : AddressCache.Fact) :
    Asks IsQuestion (keep name fact).run :=
  .learn name fact (.done _)

/-- A call asks for what it asks for, and nothing else. -/
theorem call_asks {call : Node.Call} (isQuestion : IsQuestion call) :
    Asks IsQuestion (Lookup.call call).run :=
  .ask isQuestion fun _ => .done _

end Lookup

namespace Directory

open Lookup

variable (directory : Directory) (address : Address)

/-- The look-up of a code asks for the actor at an address, and nothing else. -/
theorem actorCode_asks : Asks IsQuestion (directory.actorCode address).run := by
  apply (entry_asks _).attempt
  intro entry
  split
  · exact .done _
  · apply (call_asks ⟨address, by simp [Node.Call.about]⟩).attempt
    intro found
    cases found with
    | none => exact .done _
    | some state =>
      apply (keep_asks _ _).attempt
      intro _
      exact .done _

/-- The look-up of the address to report asks one of the three questions
for it, or none. -/
theorem reportedAddress_asks (kind : Option ActorKind) :
    Asks IsQuestion (reportedAddress kind address).run := by
  unfold reportedAddress
  split
  · split
    · exact .done _
    · exact call_asks ⟨address, by simp [Node.Call.about]⟩
  · split
    · exact .done _
    · split
      · exact call_asks ⟨address, by simp [Node.Call.about]⟩
      · exact call_asks ⟨address, by simp [Node.Call.about]⟩

/-- The look-up of a canonical form asks for actors and for addresses
to report, and nothing else.
-/
theorem canonicalText_asks : Asks IsQuestion (directory.canonicalText address).run := by
  apply (entry_asks _).attempt
  intro entry
  split
  · exact .done _
  · apply ((directory.actorCode_asks address).attempt fun _ => .done _).attempt
    intro kind
    apply (reportedAddress_asks address kind).attempt
    intro reported
    apply (keep_asks _ _).attempt
    intro _
    exact .done _

/-- Look-ups ask about addresses and nothing else, and so does all that
is made of them. -/
theorem asks_inherited : directory.Inherited (Asks IsQuestion) where
  result := .done
  seq := Asks.seq
  code := directory.actorCode_asks
  canonical := directory.canonicalText_asks

end Directory

end FilecoinRosetta
