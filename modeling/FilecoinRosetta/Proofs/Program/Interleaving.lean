import FilecoinRosetta.Proofs.Program.Outcome

/-!
# Programs that take turns

Programs that run at the same time share the node and what is known about addresses.
One step of a program is one access to what they share, and between two steps of one
program any number of steps of others may happen. So a run of several programs is
given by a schedule, which says whose turn it is.
-/

namespace FilecoinRosetta

namespace Program

variable {α : Type}

/-- One step of a program: one access to what programs share. A program that
is done does nothing. -/
def step (node : Node) : Program α → Session → Program α × Session
  | done result, session => (done result, session)
  | ask call next, session => (next (node.answer session.past call), session.asked call)
  | consult name next, session => (next (session.cache.entry name), session)
  | learn name fact next, session => (next, session.learned name fact)
  | wait span next, session => (next, ⟨session.cache, .waited span :: session.past⟩)

/-- A run takes the first step and goes on from there. This is what connects steps
taken in turn with a run alone. -/
theorem run_step (node : Node) (program : Program α) (session : Session) :
    (program.step node session).1.run node (program.step node session).2 =
      program.run node session := by
  cases program with
  | done result => rfl
  | ask call next => rfl
  | consult name next => rfl
  | learn name fact next => rfl
  | wait span next => rfl

end Program

variable {ι : Type} {Result : ι → Type}

/-- A program under way, with what it is for. -/
structure Thread (Result : ι → Type) where
  /-- What it is for. -/
  task : ι
  /-- What is left of it. -/
  program : Program (Result task)

/-- Programs under way and what they share. -/
structure Pool (Result : ι → Type) where
  /-- The programs. -/
  threads : List (Thread Result)
  /-- What they share. -/
  session : Session

/-- A program has come to a result. -/
def Thread.IsDone (thread : Thread Result) : Prop :=
  ∃ result, thread.program = .done result

namespace Pool

/-- One program takes one step. Nothing happens if there is no such program. -/
def turn (node : Node) (pool : Pool Result) (index : Nat) : Pool Result :=
  match pool.threads[index]? with
  | none => pool
  | some thread =>
      let (program, session) := thread.program.step node pool.session
      ⟨pool.threads.set index ⟨thread.task, program⟩, session⟩

/-- Turns one after another. -/
def run (node : Node) (pool : Pool Result) : List Nat → Pool Result
  | [] => pool
  | index :: rest => (pool.turn node index).run node rest

/-- What the programs are for. -/
def tasks (pool : Pool Result) : List ι :=
  pool.threads.map Thread.task

/-- A turn does not change what the programs are for, so each of them can be
told by its place. -/
theorem turn_tasks (node : Node) (pool : Pool Result) (index : Nat) :
    (pool.turn node index).tasks = pool.tasks := by
  unfold turn tasks
  cases found : pool.threads[index]? with
  | none => rfl
  | some thread =>
    obtain ⟨inside, rfl⟩ := List.getElem?_eq_some_iff.mp found
    apply List.ext_getElem?
    intro other
    by_cases same : index = other
    · subst same
      simp [inside]
    · simp [same]

/-- A schedule decides in which order steps are taken. It does not change
which tasks there are. -/
theorem run_tasks (node : Node) (pool : Pool Result) (schedule : List Nat) :
    (pool.run node schedule).tasks = pool.tasks := by
  induction schedule generalizing pool with
  | nil => rfl
  | cons index rest ih => exact (ih (pool.turn node index)).trans (pool.turn_tasks node index)

/-- A program under way takes a step at its turn, and all others
stay where they are. -/
theorem turn_underway (node : Node) {pool : Pool Result} {index : Nat} {task : ι}
    {program : Program (Result task)} (underway : pool.threads[index]? = some ⟨task, program⟩) :
    pool.turn node index =
      ⟨pool.threads.set index ⟨task, (program.step node pool.session).1⟩,
        (program.step node pool.session).2⟩ := by
  unfold turn
  rw [underway]

/-- A program that has all turns to itself goes on after the first one with what
is left of it. -/
private theorem run_turned {node : Node} {pool : Pool Result} {index : Nat} {task : ι}
    {program rest : Program (Result task)} {session : Session}
    (underway : pool.threads[index]? = some ⟨task, program⟩)
    (stepped : program.step node pool.session = (rest, session))
    (ends : ∀ pool : Pool Result, pool.threads[index]? = some ⟨task, rest⟩ →
      ∃ schedule, (pool.run node schedule).session = (rest.run node pool.session).2) :
    ∃ schedule, (pool.run node schedule).session = (program.run node pool.session).2 := by
  have inside : index < pool.threads.length := (List.getElem?_eq_some_iff.mp underway).1
  have turned : pool.turn node index = ⟨pool.threads.set index ⟨task, rest⟩, session⟩ := by
    rw [turn_underway node underway, stepped]
  obtain ⟨schedule, ended⟩ : ∃ schedule,
      ((pool.turn node index).run node schedule).session = (rest.run node session).2 := by
    rw [turned]
    exact ends _ (List.getElem?_set_self inside)
  refine ⟨index :: schedule, ?_⟩
  rw [← Program.run_step, stepped, run, ended]

/-- A program that has all turns to itself goes through its whole run. -/
theorem run_alone (node : Node) (pool : Pool Result) {index : Nat} {task : ι}
    {program : Program (Result task)} (underway : pool.threads[index]? = some ⟨task, program⟩) :
    ∃ schedule, (pool.run node schedule).session = (program.run node pool.session).2 := by
  induction program generalizing pool with
  | done result => exact ⟨[], rfl⟩
  | ask call rest ih => exact run_turned underway rfl (ih (node.answer pool.session.past call))
  | consult name rest ih => exact run_turned underway rfl (ih (pool.session.cache.entry name))
  | learn name fact rest ih => exact run_turned underway rfl ih
  | wait span rest ih => exact run_turned underway rfl ih

end Pool

end FilecoinRosetta
