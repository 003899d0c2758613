import FilecoinRosetta.Program

/-!
# What a program comes to

A result may be known to have a property although nothing is known of the node or
of what was learned before. And it may be fixed altogether, where the node and
what was learned say enough. Both kinds of knowledge are put together in the
order in which programs are.
-/

namespace FilecoinRosetta

/-- Two steps succeed if the first one does and the second one
does with its result. -/
theorem bind_ok_iff {ε α β : Type} {first : Except ε α} {next : α → Except ε β} {result : β} :
    first >>= next = .ok result ↔ ∃ value, first = .ok value ∧ next value = .ok result := by
  cases first with
  | error => simp [bind, Except.bind]
  | ok value => simp [bind, Except.bind]

namespace Node

/-- Answers that depend on nothing but the call. -/
abbrev Answers := (call : Call) → Except Failure call.Answer

/-- The node that always gives the same answers. -/
def constant (answers : Answers) : Node := ⟨fun _ => answers⟩

/-- A node tells the answer to a call whenever it is asked, though not
always the same one. -/
def Tells (node : Node) (call : Call) : Prop :=
  ∀ past, ∃ answer, node.answer past call = .ok answer

/-- What is told never fails, at no moment and after no history. -/
theorem Tells.not_failed {node : Node} {call : Call} (tells : node.Tells call) {past : List Event}
    {failure : Failure} (failed : node.answer past call = .error failure) : False := by
  obtain ⟨answer, told⟩ := tells past
  exact nomatch told.symm.trans failed

end Node

namespace Session

/-- The session after a call. -/
def asked (session : Session) (call : Node.Call) : Session :=
  { session with past := .asked call :: session.past }

/-- The session after a fact was learned. -/
def learned (session : Session) (name : String) (fact : AddressCache.Fact) : Session :=
  { session with cache := session.cache.learn name fact }

end Session

namespace Program

variable {α β : Type}

/-- A sequence hands the session of its first part on to the second one. -/
theorem run_seq (node : Node) (first : Program α) (next : α → Program β) (session : Session) :
    (first >>= next).run node session =
      (next (first.run node session).1).run node (first.run node session).2 :=
  run_bind node first next session

/-- After an attempt that failed nothing else happens: the error is that of the
attempt, and the session is where it left it. -/
theorem run_attempt {ε : Type} (node : Node) (first : ExceptT ε Program α)
    (next : α → ExceptT ε Program β) (session : Session) :
    (first >>= next).run.run node session =
      match first.run.run node session with
      | (.ok value, later) => (next value).run.run node later
      | (.error cause, later) => (.error cause, later) := by
  rw [ExceptT.run_bind, run_seq]
  cases first.run.run node session with
  | mk result later =>
    cases result with
    | ok value => rfl
    | error cause => rfl

/-- What happened before a program stays, behind what the program adds, so the
past is never rewritten. -/
theorem run_past (node : Node) (program : Program α) (session : Session) :
    ∃ made, (program.run node session).2.past = made ++ session.past := by
  induction program generalizing session with
  | done result => exact ⟨[], rfl⟩
  | ask call next ih =>
    obtain ⟨made, past⟩ := ih (node.answer session.past call)
      { session with past := .asked call :: session.past }
    exact ⟨made ++ [.asked call], past.trans (List.append_cons made _ session.past)⟩
  | consult name next ih => exact ih (session.cache.entry name) session
  | learn name fact next ih => exact ih { session with cache := session.cache.learn name fact }
  | wait span next ih =>
    obtain ⟨made, past⟩ := ih { session with past := .waited span :: session.past }
    exact ⟨made ++ [.waited span], past.trans (List.append_cons made _ session.past)⟩

/-- A result has a property, whatever the node answers and whatever
is known already. -/
def Ensures (program : Program α) (property : α → Prop) : Prop :=
  ∀ node session, property (program.run node session).1

namespace Ensures

/-- A result has a property if its value does, on every node
and in every session. -/
theorem result {value : α} {property : α → Prop} (holds : property value) :
    Ensures (pure value) property :=
  fun _ _ => holds

/-- What is ensured to have a property is ensured to have a weaker one. -/
theorem weaken {program : Program α} {property weaker : α → Prop}
    (ensured : Ensures program property) (implies : ∀ value, property value → weaker value) :
    Ensures program weaker :=
  fun node session => implies _ (ensured node session)

/-- In a sequence the second part may rely on the result of the first one. -/
theorem seq {first : Program α} {next : α → Program β} {property : α → Prop}
    {later : β → Prop} (ensured : Ensures first property)
    (follows : ∀ value, property value → Ensures (next value) later) :
    Ensures (first >>= next) later := by
  intro node session
  rw [run_seq]
  exact follows _ (ensured node session) node _

/-- The second part of a sequence need not know anything of the first one. -/
theorem after {next : α → Program β} {later : β → Prop} (first : Program α)
    (follows : ∀ value, Ensures (next value) later) : Ensures (first >>= next) later := by
  intro node session
  rw [run_seq]
  exact follows _ node _

end Ensures

/-- What an attempt succeeds with on a node has a property,
whatever is known already. -/
def Grants {ε : Type} (node : Node) (attempt : ExceptT ε Program α) (property : α → Prop) : Prop :=
  ∀ session value, (attempt.run.run node session).1 = .ok value → property value

/-- On a node, as long as the cache satisfies a condition, the result is a certain
value, and the condition is kept. -/
def Yields (node : Node) (kept : AddressCache → Prop) (program : Program α) (value : α) : Prop :=
  ∀ session, kept session.cache →
    (program.run node session).1 = value ∧ kept (program.run node session).2.cache

namespace Yields

variable {node : Node} {kept : AddressCache → Prop}

/-- A result yields itself, and the cache is as it was. -/
theorem result (value : α) : Yields node kept (pure value) value :=
  fun _ holds => ⟨rfl, holds⟩

/-- In a sequence the second part gets the value of the first one. -/
theorem seq {first : Program α} {next : α → Program β} {value : α} {later : β}
    (yields : Yields node kept first value) (follows : Yields node kept (next value) later) :
    Yields node kept (first >>= next) later := by
  intro session holds
  rw [run_seq]
  obtain ⟨equal, holds⟩ := yields session holds
  rw [equal]
  exact follows _ holds

/-- After an attempt that succeeds another one follows, and starts with the
value of the first. -/
theorem attempt {ε : Type} {first : ExceptT ε Program α} {next : α → ExceptT ε Program β}
    {value : α} {later : Except ε β} (yields : Yields node kept first.run (.ok value))
    (follows : Yields node kept (next value).run later) :
    Yields node kept (first >>= next).run later := by
  rw [ExceptT.run_bind]
  exact yields.seq follows

/-- After an attempt that fails nothing follows, whatever was to come. -/
theorem failed {ε : Type} {first : ExceptT ε Program α} {cause : ε}
    (yields : Yields node kept first.run (.error cause)) (next : α → ExceptT ε Program β) :
    Yields node kept (first >>= next).run (.error cause) := by
  rw [ExceptT.run_bind]
  exact yields.seq (.result _)

end Yields

end Program

end FilecoinRosetta
