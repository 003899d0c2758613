import FilecoinRosetta.Proofs.Program.Calls

/-!
# Programs confined to some calls

What a program comes to can depend on nothing but what it asks and recalls. A
program that recalls nothing and asks only calls of a kind is confined to
them: on two nodes that answer those calls alike it comes to the same, however
they answer any other call.

Which calls a program makes may depend on answers, so a program is confined on a
node, and from some point of its history on.
-/

namespace FilecoinRosetta

/-- After a call the history goes on from where it went on before. -/
theorem Session.asked_later {session : Session} {made since : List Node.Event}
    (later : session.past = made ++ since) (call : Node.Call) :
    (session.asked call).past = (.asked call :: made) ++ since := by
  rw [asked, later]
  rfl

namespace Program

variable {α β : Type}

/-- On a node, from some past on, a program makes calls of a kind and does nothing
else, and comes to a good result. -/
inductive Confined (node : Node) (since : List Node.Event) (allowed : Node.Call → Prop) {α : Type}
    (good : α → Prop) : Program α → Prop where
  /-- The end. -/
  | done {result : α} (holds : good result) : Confined node since allowed good (.done result)
  /-- A call of the kind, answered at any time later. -/
  | ask {call : Node.Call} {next : Except Node.Failure call.Answer → Program α}
      (isAllowed : allowed call)
      (follows : ∀ made, Confined node since allowed good
        (next (node.answer (made ++ since) call))) :
      Confined node since allowed good (.ask call next)

namespace Confined

variable {node : Node} {since : List Node.Event} {allowed : Node.Call → Prop} {good : α → Prop}
  {program : Program α} {session : Session}

/-- The result of a confined program is good, however far the
session has come since. -/
theorem result_good (confined : Confined node since allowed good program) {made : List Node.Event}
    (later : session.past = made ++ since) : good (program.run node session).1 := by
  induction confined generalizing session made with
  | done holds => exact holds
  | @ask call next isAllowed follows ih =>
    change good ((next (node.answer session.past call)).run node (session.asked call)).1
    rw [later]
    exact ih made (Session.asked_later later call)

/-- The calls of a confined program are of the kind that is allowed to it. -/
theorem calls_allowed (confined : Confined node since allowed good program) {made : List Node.Event}
    (later : session.past = made ++ since) : ∀ call ∈ program.calls node session, allowed call := by
  induction confined generalizing session made with
  | done holds => exact List.forall_mem_nil _
  | @ask call next isAllowed follows ih =>
    rw [calls, later, List.forall_mem_cons]
    exact ⟨isAllowed, ih made (Session.asked_later later call)⟩

/-- A node that answers the calls of the kind alike makes no difference, whatever is
known of addresses and whatever it answers to other calls. -/
theorem alike (confined : Confined node since allowed good program) {twin : Node}
    {other : Session} {before : List Node.Event}
    (agree : ∀ made call, allowed call →
      node.answer (made ++ since) call = twin.answer (made ++ before) call)
    {made : List Node.Event} (later : session.past = made ++ since)
    (twinLater : other.past = made ++ before) :
    (program.run node session).1 = (program.run twin other).1 ∧
      program.calls node session = program.calls twin other := by
  induction confined generalizing session other made with
  | done holds => exact ⟨rfl, rfl⟩
  | @ask call next isAllowed follows ih =>
    have same : node.answer session.past call = twin.answer other.past call := by
      rw [later, twinLater]
      exact agree made call isAllowed
    obtain ⟨results, asks⟩ :=
      ih made (Session.asked_later later call) (Session.asked_later twinLater call)
    rw [← later] at results asks
    change ((next (node.answer session.past call)).run node (session.asked call)).1 =
      ((next (twin.answer other.past call)).run twin (other.asked call)).1 ∧ _
    rw [calls, calls, ← same]
    exact ⟨results, congrArg (List.cons call) asks⟩

/-- Whoever asks for less of the result has it all the same. -/
theorem weaken {weaker : α → Prop} (confined : Confined node since allowed good program)
    (implies : ∀ value, good value → weaker value) :
    Confined node since allowed weaker program := by
  induction confined with
  | done holds => exact .done (implies _ holds)
  | ask isAllowed _ ih => exact .ask isAllowed ih

end Confined

end Program

end FilecoinRosetta
