import FilecoinRosetta.Proofs.Rosetta.Course
import FilecoinRosetta.Proofs.Rosetta.SyncGate

/-!
# Endings

What an attempt ends with, and after which calls, may be known exactly: from one
session on, or, on a node that always gives the same answers, from every session on.
An endpoint that looks nothing up ends there alike whatever happened before, as it
depends on nothing but the answers.
-/

namespace FilecoinRosetta.Rosetta

open Program

/-- The error of a failed call is of the kind that is foreseen for the call, or says
that it took too long. -/
theorem ServiceError.ofFailure_kind (kind : ErrorKind) (failure : Node.Failure) :
    (ofFailure kind failure).kind = kind ∨ (ofFailure kind failure).kind = .nodeTimedOut := by
  change (if failure.isTimeout then ErrorKind.nodeTimedOut else kind) = kind ∨ _
  cases late : failure.isTimeout with
  | true => exact .inr (if_pos late)
  | false => exact .inl (if_neg Bool.false_ne_true)

/-! ## From a session on -/

/-- From a session on, an attempt ends with an outcome after some calls. -/
def Ends {α : Type} (node : Node) (session : Session) (attempt : Endpoint α)
    (outcome : Except ServiceError α) (made : List Node.Call) : Prop :=
  (attempt.run.run node session).1 = outcome ∧ attempt.run.calls node session = made

namespace Ends

variable {α β : Type} {node : Node} {session later : Session} {outcome : Except ServiceError β}
  {made : List Node.Call}

/-- A result is an end without calls, and the session is as it was. -/
theorem result (value : α) : Ends node session (pure value) (.ok value) [] :=
  ⟨rfl, rfl⟩

/-- A refusal is an end without calls, and nothing changes. -/
theorem refusal (kind : ErrorKind) (cause : String) :
    Ends node session (Endpoint.refuseBecause kind cause : Endpoint α)
      (.error (.because kind cause)) [] :=
  ⟨rfl, rfl⟩

/-- An attempt that succeeds is followed by another one, which starts in the
session that it left. -/
theorem attempt {first : Endpoint α} {value : α} {next : α → Endpoint β}
    (succeeds : first.run.run node session = (.ok value, later))
    (follows : Ends node later (next value) outcome made) :
    Ends node session (first >>= next) outcome (first.run.calls node session ++ made) := by
  constructor
  · rw [run_attempt, succeeds]
    exact follows.1
  · rw [calls_attempt, succeeds, ← follows.2]

/-- Nothing follows an attempt that fails: its error is the outcome, and
its calls are all. -/
theorem failed {first : Endpoint α} {cause : ServiceError}
    (fails : (first.run.run node session).1 = .error cause) (next : α → Endpoint β) :
    Ends node session (first >>= next) (.error cause) (first.run.calls node session) := by
  obtain ⟨rest, isRest⟩ : ∃ rest, first.run.run node session = (.error cause, rest) :=
    ⟨_, Prod.ext fails rfl⟩
  constructor
  · rw [run_attempt, isRest]
  · rw [calls_attempt, isRest, List.append_nil]

/-- A call whose answer is known is followed by what is made of the answer. -/
theorem call {call : Node.Call} {answer : call.Answer} (kind : ErrorKind)
    {next : call.Answer → Endpoint β} (told : node.answer session.past call = .ok answer)
    (follows : Ends node (session.asked call) (next answer) outcome made) :
    Ends node session (Endpoint.call kind call >>= next) outcome (call :: made) := by
  have succeeds :
      (Endpoint.call kind call).run.run node session = (.ok answer, session.asked call) := by
    rw [Endpoint.call_run, told]
    rfl
  exact attempt succeeds follows

/-- A call ends with its answer. A failure is told by the kind of error that
the endpoint gives it. -/
theorem told (kind : ErrorKind) (call : Node.Call) :
    Ends node session (Endpoint.call kind call)
      ((node.answer session.past call).mapError (ServiceError.ofFailure kind)) [call] :=
  ⟨rfl, rfl⟩

/-- What is made of a success takes no call, and a failure stays what it is. -/
theorem viewed {attempt : Endpoint α} {found : Except ServiceError α}
    (ends : Ends node session attempt found made) (view : α → β) :
    Ends node session (attempt >>= fun value => pure (view value)) (found.map view) made := by
  obtain ⟨rfl, rfl⟩ := ends
  cases run : attempt.run.run node session with
  | mk found rest =>
    cases found with
    | ok value =>
      have ends : Ends node session (attempt >>= fun value => pure (view value)) (.ok (view value))
          (attempt.run.calls node session ++ []) :=
        Ends.attempt run (result (view value))
      rwa [List.append_nil] at ends
    | error cause => exact failed (congrArg Prod.fst run) _

end Ends

/-! ## Whatever happened before -/

/-- On a node that always gives the same answers, an attempt ends with an outcome
after some calls, from every session on. -/
def Constantly {α : Type} (answers : Node.Answers) (attempt : Endpoint α)
    (outcome : Except ServiceError α) (made : List Node.Call) : Prop :=
  ∀ session, Ends (.constant answers) session attempt outcome made

/-- An endpoint that looks nothing up always ends alike on a node that always gives
the same answers. Its ending is one that its course foresees. -/
theorem Course.constantly {α : Type} {answers : Node.Answers} {may : Node.Call → CallSite → Prop}
    {refuses : ServiceError → Prop} {good : α → List Node.Call → Prop} {attempt : Endpoint α}
    (course : Course (.since (.constant answers) []) may refuses good attempt.run) :
    ∃ outcome made, Constantly answers attempt outcome made ∧
      Ended (.constant answers) may refuses good outcome made := by
  refine ⟨_, _, ?_, (course.ended .fresh).1⟩
  intro session
  have confined : Confined (.constant answers) session.past (fun _ => True) _ attempt.run :=
    course.confined (fun made _ _ answer => ⟨made, answer⟩) (fun _ => not_false)
      fun _ _ _ => trivial
  -- Only the answers count, and these are the same as at the start.
  have agree : ∀ made call, True →
      (Node.constant answers).answer (made ++ session.past) call =
        (Node.constant answers).answer (made ++ Session.fresh.past) call := fun _ _ _ => rfl
  exact confined.alike agree (List.nil_append session.past).symm rfl

end FilecoinRosetta.Rosetta
