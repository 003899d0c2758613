import FilecoinRosetta.Proofs.Directory.Careful
import FilecoinRosetta.Proofs.Program.Interleaving

/-!
# Programs that keep what is known valid

Which facts are valid under a name may follow from what a node tells at any time,
though the node does not tell the same at all times. A program minds the facts if,
as long as all it reads is valid, all it learns is valid too. That is said of each
of its steps, whatever happens between them. So programs that mind the facts may
take turns in any way.
-/

namespace FilecoinRosetta

open AddressCache

/-- All that a cache holds is valid. -/
def AddressCache.Obeys (cache : AddressCache) (valid : String → Fact → Prop) : Prop :=
  ∀ name fact, (cache.entry name).Holds fact → valid name fact

namespace AddressCache

variable {valid : String → Fact → Prop}

/-- An empty cache obeys any law, as it holds nothing, so a service
may start with one. -/
theorem obeys_empty : empty.Obeys valid := by
  intro name fact holds
  cases fact with
  | code code => exact nomatch holds
  | canonical text => exact nomatch holds

/-- What is valid may be learned, and the cache obeys the law as before. -/
theorem Obeys.learn {cache : AddressCache} (obeys : cache.Obeys valid) {name : String} {fact : Fact}
    (isValid : valid name fact) : (cache.learn name fact).Obeys valid := by
  intro other held holds
  rw [entry_learn] at holds
  by_cases same : other = name
  · subst same
    rw [if_pos rfl] at holds
    rcases Entry.holds_of_learn holds with rfl | before
    · exact isValid
    · exact obeys other held before
  · rw [if_neg same] at holds
    exact obeys other held holds

end AddressCache

namespace Program

variable {α β : Type} {node : Node} {valid : String → Fact → Prop} {good : α → Prop}

/-- On a node, a program learns what is valid and comes to a good result. An answer
may be given at any time, and an entry may hold anything that is valid. -/
inductive Minds (node : Node) (valid : String → Fact → Prop) {α : Type} (good : α → Prop) :
    Program α → Prop where
  /-- The end. -/
  | done {result : α} (holds : good result) : Minds node valid good (.done result)
  /-- A call. -/
  | ask {call : Node.Call} {next : Except Node.Failure call.Answer → Program α}
      (follows : ∀ past, Minds node valid good (next (node.answer past call))) :
      Minds node valid good (.ask call next)
  /-- A look at what is known. -/
  | consult {name : String} {next : Entry → Program α}
      (follows : ∀ entry : Entry, (∀ fact, entry.Holds fact → valid name fact) →
        Minds node valid good (next entry)) :
      Minds node valid good (.consult name next)
  /-- A fact learned. -/
  | learn {name : String} {fact : Fact} {next : Program α} (isValid : valid name fact)
      (follows : Minds node valid good next) : Minds node valid good (.learn name fact next)
  /-- Time that passes. -/
  | wait {span : Duration} {next : Program α} (follows : Minds node valid good next) :
      Minds node valid good (.wait span next)

namespace Minds

/-- What comes to something good comes to something that is good in a weaker sense.
What it learns is the same. -/
theorem weaken {program : Program α} {weaker : α → Prop} (minds : Minds node valid good program)
    (implies : ∀ value, good value → weaker value) : Minds node valid weaker program := by
  induction minds with
  | done holds => exact .done (implies _ holds)
  | ask _ ih => exact .ask ih
  | consult _ ih => exact .consult ih
  | learn isValid _ ih => exact .learn isValid ih
  | wait _ ih => exact .wait ih

/-- In a sequence the second part may rely on the result of the first one. -/
theorem seq {first : Program α} {next : α → Program β} {later : β → Prop}
    (minds : Minds node valid good first)
    (follows : ∀ value, good value → Minds node valid later (next value)) :
    Minds node valid later (first >>= next) := by
  change Minds node valid later (first.bind next)
  induction minds with
  | done holds => exact follows _ holds
  | ask _ ih => exact .ask ih
  | consult _ ih => exact .consult ih
  | learn isValid _ ih => exact .learn isValid ih
  | wait _ ih => exact .wait ih

/-- One step keeps all that is known valid, and the rest of the
program minds that too. -/
theorem step {program : Program α} (minds : Minds node valid good program) {session : Session}
    (obeys : session.cache.Obeys valid) :
    Minds node valid good (program.step node session).1 ∧
      (program.step node session).2.cache.Obeys valid := by
  cases minds with
  | done holds => exact ⟨.done holds, obeys⟩
  | ask follows => exact ⟨follows session.past, obeys⟩
  | @consult name next follows => exact ⟨follows (session.cache.entry name) (obeys name), obeys⟩
  | learn isValid follows => exact ⟨follows, obeys.learn isValid⟩
  | wait follows => exact ⟨follows, obeys⟩

/-- So does a run, and its result is good. This is where a law for caches
is put to use. -/
theorem run {program : Program α} (minds : Minds node valid good program) {session : Session}
    (obeys : session.cache.Obeys valid) :
    good (program.run node session).1 ∧ (program.run node session).2.cache.Obeys valid := by
  induction minds generalizing session with
  | done holds => exact ⟨holds, obeys⟩
  | ask _ ih => exact ih session.past obeys
  | @consult name next _ ih => exact ih (session.cache.entry name) (obeys name) obeys
  | learn isValid _ ih => exact ih (obeys.learn isValid)
  | wait _ ih => exact ih obeys

end Minds

end Program

/-! ## Programs that take turns -/

namespace Pool

variable {ι : Type} {Result : ι → Type} {node : Node} {valid : String → Fact → Prop}
  {pool : Pool Result}

/-- All programs mind the facts, and all that is known is valid. -/
structure Minding (node : Node) (valid : String → Fact → Prop) (pool : Pool Result) : Prop where
  /-- Each program learns what is valid. -/
  minds : ∀ thread ∈ pool.threads, Program.Minds node valid (fun _ => True) thread.program
  /-- All that is known is valid. -/
  obeys : pool.session.cache.Obeys valid

/-- Whoever takes a turn keeps all that is known valid, and every other
program finds it so. -/
theorem Minding.turn (minding : pool.Minding node valid) (index : Nat) :
    (pool.turn node index).Minding node valid := by
  unfold Pool.turn
  cases found : pool.threads[index]? with
  | none => exact minding
  | some thread =>
    obtain ⟨minds, obeys⟩ := (minding.minds thread (List.mem_of_getElem? found)).step minding.obeys
    refine ⟨?_, obeys⟩
    intro other member
    rcases List.mem_or_eq_of_mem_set member with before | rfl
    · exact minding.minds other before
    · exact minds

end Pool

end FilecoinRosetta
