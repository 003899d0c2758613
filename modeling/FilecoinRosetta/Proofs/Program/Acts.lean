import FilecoinRosetta.Proofs.Program.Calls

/-!
# What a program does, act by act

Calls tell what a program asked. To say what it made of the answers, they have to be
told together with what was learned from them, in the order of both. What is known
after a program is what was known before it, with all that it learned put in.
-/

namespace FilecoinRosetta

/-- One thing that a program does and that others may notice. -/
inductive Act where
  /-- A call with its answer. -/
  | asked (call : Node.Call) (answer : Except Node.Failure call.Answer)
  /-- A fact learned about an address. -/
  | learned (name : String) (fact : AddressCache.Fact)

/-- The call of an act. -/
def Act.call? : Act → Option Node.Call
  | asked call _ => some call
  | learned _ _ => none

/-- What is known after some acts. -/
def AddressCache.absorb : AddressCache → List Act → AddressCache
  | cache, [] => cache
  | cache, .asked _ _ :: rest => cache.absorb rest
  | cache, .learned name fact :: rest => (cache.learn name fact).absorb rest

/-- Acts are absorbed in their order, so a sequence teaches what its parts teach
one after the other. -/
theorem AddressCache.absorb_append (cache : AddressCache) (first more : List Act) :
    cache.absorb (first ++ more) = (cache.absorb first).absorb more := by
  induction first generalizing cache with
  | nil => rfl
  | cons act rest ih =>
    cases act with
    | asked call answer => exact ih cache
    | learned name fact => exact ih (cache.learn name fact)

namespace Program

variable {α β : Type}

/-- What a program does on a node, the first act first. -/
def acts (node : Node) : Program α → Session → List Act
  | done _, _ => []
  | ask call next, session =>
      .asked call (node.answer session.past call) ::
        (next (node.answer session.past call)).acts node (session.asked call)
  | consult name next, session => (next (session.cache.entry name)).acts node session
  | learn name fact next, session =>
    .learned name fact :: next.acts node (session.learned name fact)
  | wait span next, session => next.acts node ⟨session.cache, .waited span :: session.past⟩

/-- What is known after a program is what it learned, put into
what was known before. -/
theorem run_absorb (node : Node) (program : Program α) (session : Session) :
    (program.run node session).2.cache = session.cache.absorb (program.acts node session) := by
  induction program generalizing session with
  | done result => rfl
  | ask call next ih => exact ih (node.answer session.past call) (session.asked call)
  | consult name next ih => exact ih (session.cache.entry name) session
  | learn name fact next ih => exact ih (session.learned name fact)
  | wait span next ih => exact ih ⟨session.cache, .waited span :: session.past⟩

/-- The calls of a program are those of its acts, so acts say more than calls do. -/
theorem calls_of_acts (node : Node) (program : Program α) (session : Session) :
    program.calls node session = (program.acts node session).filterMap Act.call? := by
  induction program generalizing session with
  | done result => rfl
  | ask call next ih =>
    exact congrArg (List.cons call) (ih (node.answer session.past call) (session.asked call))
  | consult name next ih => exact ih (session.cache.entry name) session
  | learn name fact next ih => exact ih (session.learned name fact)
  | wait span next ih => exact ih ⟨session.cache, .waited span :: session.past⟩

/-- The second part of a sequence acts behind the first one, in the session that
the first one left. -/
theorem acts_seq (node : Node) (first : Program α) (next : α → Program β) (session : Session) :
    (first >>= next).acts node session =
      first.acts node session ++
        (next (first.run node session).1).acts node (first.run node session).2 := by
  change (first.bind next).acts node session = _
  induction first generalizing session with
  | done result => rfl
  | ask call rest ih =>
    exact congrArg (List.cons _) (ih (node.answer session.past call) (session.asked call))
  | consult name rest ih => exact ih (session.cache.entry name) session
  | learn name fact rest ih => exact congrArg (List.cons _) (ih (session.learned name fact))
  | wait span rest ih => exact ih ⟨session.cache, .waited span :: session.past⟩

/-- What is made of a result takes no act and makes no difference to the session. -/
theorem run_map (node : Node) (found : α → β) (program : Program α) (session : Session) :
    (found <$> program).run node session =
        (found (program.run node session).1, (program.run node session).2) ∧
      (found <$> program).acts node session = program.acts node session := by
  rw [map_eq_pure_bind, run_seq, acts_seq]
  exact ⟨rfl, List.append_nil _⟩

/-- After an attempt that failed nothing is done, so its acts are all there are. -/
theorem acts_attempt {ε : Type} (node : Node) (first : ExceptT ε Program α)
    (next : α → ExceptT ε Program β) (session : Session) :
    (first >>= next).run.acts node session =
      first.run.acts node session ++
        match first.run.run node session with
        | (.ok value, later) => (next value).run.acts node later
        | (.error _, _) => [] := by
  rw [ExceptT.run_bind, acts_seq]
  cases first.run.run node session with
  | mk result later =>
    cases result with
    | ok value => rfl
    | error cause => rfl

end Program

end FilecoinRosetta
