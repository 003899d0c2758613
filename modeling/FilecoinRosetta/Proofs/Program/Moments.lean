import FilecoinRosetta.Proofs.Program.Calls

/-!
# The moments of calls

What a node answers depends on what happened before. So a call of a run is told by
its moment: the events of the run that came earlier and those that came later. At
its moment a call has one answer.
-/

namespace FilecoinRosetta.Program

variable {α : Type} {node : Node} {session : Session} {earlier later : List Node.Event}
  {call : Node.Call}

/-- A run makes a call between other events of the run, the latest ones first. -/
def Makes (node : Node) (program : Program α) (session : Session) (earlier : List Node.Event)
    (call : Node.Call) (later : List Node.Event) : Prop :=
  (program.run node session).2.past = later ++ .asked call :: (earlier ++ session.past)

/-- A program that is done makes no call, so there is no moment to speak of. -/
theorem not_makes_done (result : α) : ¬ Makes node (.done result) session earlier call later := by
  intro makes
  have lengths : session.past.length = (later ++ .asked call :: (earlier ++ session.past)).length :=
    congrArg List.length makes
  rw [List.length_append, List.length_cons, List.length_append] at lengths
  omega

/-- Where the first event of a run is followed by others, a call is that event, or
it comes after it. -/
theorem first_or_rest {made : List Node.Event} {event : Node.Event}
    (same : made ++ event :: session.past = later ++ .asked call :: (earlier ++ session.past)) :
    (earlier = [] ∧ event = .asked call ∧ made = later) ∨
      ∃ rest, earlier = rest ++ [event] ∧
        made ++ event :: session.past =
          later ++ .asked call :: (rest ++ event :: session.past) := by
  have cancelled : made ++ [event] = later ++ .asked call :: earlier := by
    apply List.append_cancel_right
    rw [List.append_assoc, List.append_assoc]
    exact same
  rcases List.eq_nil_or_concat earlier with rfl | ⟨rest, last, rfl⟩
  · obtain ⟨rfl, isCall⟩ := List.append_inj' cancelled rfl
    exact .inl ⟨rfl, List.head_eq_of_cons_eq isCall, rfl⟩
  · rw [List.concat_eq_append, ← List.cons_append, ← List.append_assoc] at cancelled
    obtain ⟨rfl, isLast⟩ := List.append_inj' cancelled rfl
    obtain rfl := List.head_eq_of_cons_eq isLast
    refine .inr ⟨rest, List.concat_eq_append, ?_⟩
    rw [List.append_assoc]
    rfl

/-- What happens after a first event happens behind it, in the order that the
past is kept in. -/
theorem behind_first (rest : List Node.Event) (event : Node.Event) (past : List Node.Event) :
    (rest ++ [event]) ++ past = rest ++ event :: past := by
  rw [List.append_assoc]
  rfl

/-- A run that begins with a call makes that one and those that follow. -/
theorem makes_ask_iff {first : Node.Call} {next : Except Node.Failure first.Answer → Program α} :
    Makes node (.ask first next) session earlier call later ↔
      (earlier = [] ∧ first = call ∧
        ((next (node.answer session.past first)).run node (session.asked first)).2.past =
          later ++ .asked first :: session.past) ∨
      ∃ rest, earlier = rest ++ [.asked first] ∧
        Makes node (next (node.answer session.past first)) (session.asked first) rest
          call later := by
  constructor
  · intro makes
    obtain ⟨made, past⟩ :=
      run_past node (next (node.answer session.past first)) (session.asked first)
    rcases first_or_rest (past.symm.trans makes) with ⟨none, isFirst, rfl⟩ | ⟨rest, isRest, follows⟩
    · exact .inl ⟨none, Node.Event.asked.inj isFirst, past⟩
    · exact .inr ⟨rest, isRest, past.trans follows⟩
  · rintro (⟨rfl, rfl, past⟩ | ⟨rest, rfl, makes⟩)
    · exact past
    · unfold Makes
      rw [behind_first]
      exact makes

/-- A run that begins with a pause makes the calls that follow. -/
theorem makes_wait_iff {span : Duration} {next : Program α} :
    Makes node (.wait span next) session earlier call later ↔
      ∃ rest, earlier = rest ++ [.waited span] ∧
        Makes node next ⟨session.cache, .waited span :: session.past⟩ rest call later := by
  constructor
  · intro makes
    obtain ⟨made, past⟩ := run_past node next ⟨session.cache, .waited span :: session.past⟩
    rcases first_or_rest (past.symm.trans makes) with ⟨-, impossible, -⟩ | ⟨rest, isRest, follows⟩
    · exact nomatch impossible
    · exact ⟨rest, isRest, past.trans follows⟩
  · rintro ⟨rest, rfl, makes⟩
    unfold Makes
    rw [behind_first]
    exact makes

/-- Nodes that answer all calls of a run alike at their moments make
no difference to it. -/
theorem run_alike {twin : Node} {program : Program α}
    (agree : ∀ earlier call later, Makes node program session earlier call later →
      node.answer (earlier ++ session.past) call = twin.answer (earlier ++ session.past) call) :
    program.run node session = program.run twin session := by
  induction program generalizing session with
  | done result => rfl
  | ask first next ih =>
    obtain ⟨made, past⟩ :=
      run_past node (next (node.answer session.past first)) (session.asked first)
    have same : node.answer session.past first = twin.answer session.past first :=
      agree [] first made (makes_ask_iff.mpr (.inl ⟨rfl, rfl, past⟩))
    change (next _).run node (session.asked first) = (next _).run twin (session.asked first)
    rw [← same]
    apply ih
    intro rest call later makes
    have agreed := agree _ call later (makes_ask_iff.mpr (.inr ⟨rest, rfl, makes⟩))
    rwa [behind_first] at agreed
  | consult name next ih => exact ih (session.cache.entry name) agree
  | learn name fact next ih => exact @ih (session.learned name fact) agree
  | wait span next ih =>
    apply @ih ⟨session.cache, .waited span :: session.past⟩
    intro rest call later makes
    have agreed := agree _ call later (makes_wait_iff.mpr ⟨rest, rfl, makes⟩)
    rwa [behind_first] at agreed

end FilecoinRosetta.Program
