import FilecoinRosetta.Proofs.Program.Outcome

/-!
# Results together with calls

What a program asks a node can matter as much as what it comes to: which state was
read, which messages were executed and how often. A goal may therefore speak of the
result and of the calls made for it. The calls of a sequence are those of its first
part with those of the second one behind them, so such a goal is reached step by
step, in the order in which programs are.
-/

namespace FilecoinRosetta.Program

variable {α β : Type}

/-- The calls that a program makes on a node, the first one first. -/
def calls (node : Node) : Program α → Session → List Node.Call
  | done _, _ => []
  | ask call next, session =>
      call :: (next (node.answer session.past call)).calls node (session.asked call)
  | consult name next, session => (next (session.cache.entry name)).calls node session
  | learn name fact next, session => next.calls node (session.learned name fact)
  | wait span next, session => next.calls node ⟨session.cache, .waited span :: session.past⟩

/-- The calls of a program follow those that were made before it. -/
theorem run_calls (node : Node) (program : Program α) (session : Session) :
    (program.run node session).2.calls = session.calls ++ program.calls node session := by
  induction program generalizing session with
  | done result => exact (List.append_nil _).symm
  | ask call next ih =>
    have before : (session.asked call).calls = session.calls ++ [call] := by
      simp [Session.calls, Session.asked, Node.Event.call?]
    have follows := ih (node.answer session.past call) (session.asked call)
    rw [before, List.append_assoc] at follows
    exact follows
  | consult name next ih => exact ih (session.cache.entry name) session
  | learn name fact next ih => exact ih (session.learned name fact)
  | wait span next ih => exact ih ⟨session.cache, .waited span :: session.past⟩

/-- The second part of a sequence makes its calls behind those of the first one. -/
theorem calls_seq (node : Node) (first : Program α) (next : α → Program β) (session : Session) :
    (first >>= next).calls node session =
      first.calls node session ++
        (next (first.run node session).1).calls node (first.run node session).2 := by
  change (first.bind next).calls node session = _
  induction first generalizing session with
  | done result => rfl
  | ask call rest ih =>
    exact congrArg (List.cons call) (ih (node.answer session.past call) (session.asked call))
  | consult name rest ih => exact ih (session.cache.entry name) session
  | learn name fact rest ih => exact ih (session.learned name fact)
  | wait span rest ih => exact ih ⟨session.cache, .waited span :: session.past⟩

/-- After an attempt that failed no calls are made, so its calls
are all there are. -/
theorem calls_attempt {ε : Type} (node : Node) (first : ExceptT ε Program α)
    (next : α → ExceptT ε Program β) (session : Session) :
    (first >>= next).run.calls node session =
      first.run.calls node session ++
        match first.run.run node session with
        | (.ok value, later) => (next value).run.calls node later
        | (.error _, _) => [] := by
  rw [ExceptT.run_bind, calls_seq]
  cases first.run.run node session with
  | mk result later =>
    cases result with
    | ok value => rfl
    | error cause => rfl

/-! ## Goals about results and calls -/

/-- On a node, as long as the cache satisfies a condition, the result of a program
and the calls made for it are as a goal asks for, and the condition is kept. -/
def Meets (node : Node) (kept : AddressCache → Prop) (program : Program α)
    (goal : α → List Node.Call → Prop) : Prop :=
  ∀ session, kept session.cache →
    goal (program.run node session).1 (program.calls node session) ∧
      kept (program.run node session).2.cache

namespace Meets

variable {node : Node} {kept : AddressCache → Prop}

/-- A result meets a goal that it meets without calls. -/
theorem result {value : α} {goal : α → List Node.Call → Prop} (holds : goal value []) :
    Meets node kept (pure value) goal :=
  fun _ known => ⟨holds, known⟩

/-- A program comes to what it comes to. This is said where nothing more needs to
be known of it. -/
theorem itself (node : Node) (program : Program α) :
    Meets node (fun _ => True) program fun found _ =>
      ∃ session, found = (program.run node session).1 :=
  fun session _ => ⟨⟨session, rfl⟩, trivial⟩

/-- What meets a goal meets a weaker one, as the calls and the
value are the same. -/
theorem weaken {program : Program α} {goal weaker : α → List Node.Call → Prop}
    (meets : Meets node kept program goal)
    (implies : ∀ value made, goal value made → weaker value made) :
    Meets node kept program weaker := by
  intro session known
  obtain ⟨holds, known⟩ := meets session known
  exact ⟨implies _ _ holds, known⟩

/-- In a sequence the second part may rely on what the first one
came to and asked. -/
theorem seq {first : Program α} {next : α → Program β} {middle : α → List Node.Call → Prop}
    {goal : β → List Node.Call → Prop} (meets : Meets node kept first middle)
    (follows : ∀ value made, middle value made →
      Meets node kept (next value) fun later more => goal later (made ++ more)) :
    Meets node kept (first >>= next) goal := by
  intro session known
  rw [calls_seq, run_seq]
  obtain ⟨holds, known⟩ := meets session known
  exact follows _ _ holds _ known

end Meets

/-! ## Kinds of calls -/

/-- Every call that a program may come to make is of a kind. -/
inductive Asks (allowed : Node.Call → Prop) {α : Type} : Program α → Prop where
  /-- The end. -/
  | done (result : α) : Asks allowed (.done result)
  /-- A call of the kind. -/
  | ask {call : Node.Call} {next : Except Node.Failure call.Answer → Program α}
      (isAllowed : allowed call) (follows : ∀ answer, Asks allowed (next answer)) :
      Asks allowed (.ask call next)
  /-- A look at what is known. -/
  | consult (name : String) {next : AddressCache.Entry → Program α}
      (follows : ∀ entry, Asks allowed (next entry)) : Asks allowed (.consult name next)
  /-- A fact learned. -/
  | learn (name : String) (fact : AddressCache.Fact) {next : Program α}
      (follows : Asks allowed next) : Asks allowed (.learn name fact next)
  /-- Time that passes. -/
  | wait (span : Duration) {next : Program α} (follows : Asks allowed next) :
      Asks allowed (.wait span next)

namespace Asks

variable {allowed : Node.Call → Prop}

/-- The calls made on a node are among those that may be made. -/
theorem calls_allowed {program : Program α} (asks : Asks allowed program) (node : Node)
    (session : Session) : ∀ call ∈ program.calls node session, allowed call := by
  induction asks generalizing session with
  | done result => simp [calls]
  | ask isAllowed follows ih =>
    rw [calls, List.forall_mem_cons]
    exact ⟨isAllowed, ih _ _⟩
  | consult name follows ih => exact ih _ session
  | learn name fact follows ih => exact ih _
  | wait span follows ih => exact ih _

/-- A sequence asks what its parts ask, in whatever way the second part depends
on the first one. -/
theorem seq {first : Program α} {next : α → Program β} (asks : Asks allowed first)
    (follows : ∀ value, Asks allowed (next value)) : Asks allowed (first >>= next) := by
  change Asks allowed (first.bind next)
  induction asks with
  | done result => exact follows result
  | ask isAllowed _ ih => exact .ask isAllowed ih
  | consult name _ ih => exact .consult name ih
  | learn name fact _ ih => exact .learn name fact ih
  | wait span _ ih => exact .wait span ih

/-- The same for a sequence that ends at the first failure. -/
theorem attempt {ε : Type} {first : ExceptT ε Program α} {next : α → ExceptT ε Program β}
    (asks : Asks allowed first.run) (follows : ∀ value, Asks allowed (next value).run) :
    Asks allowed (first >>= next).run := by
  rw [ExceptT.run_bind]
  apply asks.seq
  intro found
  cases found with
  | ok value => exact follows value
  | error cause => exact .done _

end Asks

end FilecoinRosetta.Program
