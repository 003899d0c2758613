import FilecoinRosetta.Proofs.Directory.Queries
import FilecoinRosetta.Proofs.Directory.Reliance

/-!
# Look-ups at the same time

Several look-ups may miss the same address, ask for it and write its entry, in any
order. On a node whose answers do not change each of them comes to its own answer
all the same, and together they leave what they would leave one after another. Every
turn keeps every look-up on its way, so every schedule does.
-/

namespace FilecoinRosetta

open AddressCache Program

/-! ## Questions -/

namespace Query

open Directory

variable {directory : Directory} {answers : Node.Answers} {query : Query}

/-- Whether a part is looked up, for itself or on the way to the other one. -/
def reaches (query : Query) : Part → Bool
  | .code => query.needs?.isSome
  | .canonical => query.needs? == some .canonical

/-- A fact that the answers give and the question looks up. -/
structure Teaches (directory : Directory) (answers : Node.Answers) (query : Query) (name : String)
    (fact : Fact) : Prop where
  /-- It is about the address of the question. -/
  name : name = query.name directory
  /-- It is true. -/
  holds : directory.Holds answers query.address fact
  /-- It is looked up. -/
  reached : query.reaches fact.part = true

/-- What a question comes to alone, where nothing is known. -/
def alone (directory : Directory) (answers : Node.Answers) (query : Query) : query.Answer :=
  ((query.program directory).run (.constant answers) .fresh).1

/-- A question is answered as some value, and what it teaches is known. -/
def AnsweredAs (directory : Directory) (answers : Node.Answers) (query : Query)
    (value found : query.Answer) (cache : AddressCache) : Prop :=
  found = value ∧ ∀ name fact, query.Teaches directory answers name fact →
    (cache.entry name).Holds fact

/-- Every question has one answer, whatever is known and
whatever happens meanwhile. -/
theorem leads_value (directory : Directory) (answers : Node.Answers) (query : Query) :
    ∃ value, ∀ cache, directory.Coherent (.constant answers) answers cache →
      directory.Leads answers (query.Teaches directory answers)
        (query.AnsweredAs directory answers value) 6 cache
        (query.program directory) := by
  rw [program_attempt]
  rcases query.attempt_cases directory with ⟨needs, found, isPure⟩ | ⟨needs, make, isMade⟩ |
    ⟨needs, make, isMade⟩
  · rw [isPure]
    refine ⟨query.tell directory (.ok found), fun cache _ => .done fun later _ => ⟨rfl, ?_⟩⟩
    intro name fact taught
    have reached := taught.reached
    unfold reaches at reached
    rw [needs] at reached
    cases part : fact.part with
    | code | canonical =>
      rw [part] at reached
      exact nomatch reached
  · rw [isMade, ExceptT.run_map]
    refine ⟨query.tell directory ((directory.codeOf answers query.address).map make),
      fun cache coherent => ?_⟩
    have may (fact : Fact) (isCode : fact.part = .code)
        (holds : directory.Holds answers query.address fact) :
        query.Teaches directory answers (query.name directory) fact := by
      refine ⟨rfl, holds, ?_⟩
      rw [isCode, reaches, needs]
      rfl
    have sought := (actorCode_leads query.address cache may).loosen (Nat.le_add_right 3 3)
    rw [← comp_map]
    apply sought.map coherent
    rintro found later ⟨rfl, settled⟩
    refine ⟨rfl, ?_⟩
    rintro name fact ⟨rfl, holds, reached⟩
    cases fact with
    | code code => exact settled _ rfl holds
    | canonical text =>
      rw [Fact.part, reaches, needs] at reached
      exact nomatch reached
  · rw [isMade, ExceptT.run_map]
    refine ⟨query.tell directory ((directory.keyOf answers query.address).map make),
      fun cache coherent => ?_⟩
    have may (fact : Fact) (holds : directory.Holds answers query.address fact) :
        query.Teaches directory answers (query.name directory) fact := by
      refine ⟨rfl, holds, ?_⟩
      cases fact with
      | code | canonical =>
        rw [Fact.part, reaches, needs]
        rfl
    rw [← comp_map]
    apply (canonicalText_leads query.address cache may).map coherent
    rintro found later ⟨rfl, codes, forms⟩
    refine ⟨rfl, ?_⟩
    rintro name fact ⟨rfl, holds, -⟩
    cases fact with
    | code code => exact codes _ rfl holds
    | canonical text => exact forms _ rfl holds

/-- The one answer of a question is the one that it comes to alone. -/
theorem leads (query : Query) {cache : AddressCache}
    (coherent : directory.Coherent (.constant answers) answers cache) :
    directory.Leads answers (query.Teaches directory answers)
      (query.AnsweredAs directory answers (query.alone directory answers)) 6 cache
      (query.program directory) := by
  obtain ⟨value, all⟩ := query.leads_value directory answers
  have fresh : directory.Leads answers _ _ 6 Session.fresh.cache _ := all .empty coherent_empty
  have isAlone : query.alone directory answers = value := (fresh.run coherent_empty).1.1
  rw [isAlone]
  exact all cache coherent

end Query

namespace Directory

variable {directory : Directory} {answers : Node.Answers}

/-- One after another, questions leave what was known and what they teach. -/
theorem answerAll_holds (queries : List Query) {session : Session}
    (coherent : directory.Coherent (.constant answers) answers session.cache) :
    let after := ((directory.answerAll queries).run (.constant answers) session).2
    directory.Later answers session.cache after.cache ∧
      ∀ name fact, (after.cache.entry name).Holds fact ↔
        (session.cache.entry name).Holds fact ∨
          ∃ query ∈ queries, query.Teaches directory answers name fact := by
  induction queries generalizing session with
  | nil =>
    refine ⟨Later.refl coherent, fun name fact => ⟨.inl, ?_⟩⟩
    rintro (before | ⟨query, member, -⟩)
    · exact before
    · exact nomatch member
  | cons query rest ih =>
    obtain ⟨⟨-, teaches⟩, isLater, adds⟩ := (query.leads coherent).run coherent
    obtain ⟨isFurther, holds⟩ := ih isLater.coherent
    intro after
    have same : after = ((directory.answerAll rest).run (.constant answers)
        ((query.program directory).run (.constant answers) session).2).2 :=
      congrArg Prod.snd (run_seq _ _ _ _)
    rw [same]
    refine ⟨isLater.trans isFurther, fun name fact => ?_⟩
    simp only [holds, List.mem_cons, exists_eq_or_imp]
    constructor
    · rintro (held | taught)
      · rcases adds name fact held with before | isTaught
        · exact .inl before
        · exact .inr (.inl isTaught)
      · exact .inr (.inr taught)
    · rintro (before | isTaught | taught)
      · exact .inl (isLater.lasting name fact before)
      · exact .inl (teaches name fact isTaught)
      · exact .inr taught

/-! ## Questions at the same time -/

/-- Questions that are about to be answered, all at the same time. -/
def begin (directory : Directory) (queries : List Query) (session : Session) : Pool Query.Answer :=
  ⟨queries.map fun query => ⟨query, query.program directory⟩, session⟩

/-- What holds of questions under way, from a cache on, where each of them
has some steps left. -/
structure Underway (directory : Directory) (answers : Node.Answers) (before : AddressCache)
    (left : Nat → Nat) (pool : Pool Query.Answer) : Prop where
  /-- What was known is known, and all that is known is true. -/
  later : directory.Later answers before pool.session.cache
  /-- What is known was known before, or a question teaches it. -/
  taught : ∀ name fact, (pool.session.cache.entry name).Holds fact →
    (before.entry name).Holds fact ∨ ∃ query ∈ pool.tasks, query.Teaches directory answers name fact
  /-- Every question comes to the answer that it has alone. -/
  leads : ∀ index thread, pool.threads[index]? = some thread →
    directory.Leads answers (thread.task.Teaches directory answers)
      (thread.task.AnsweredAs directory answers (thread.task.alone directory answers)) (left index)
      pool.session.cache thread.program

namespace Underway

variable {before : AddressCache} {left : Nat → Nat} {pool : Pool Query.Answer}

/-- A turn of one question keeps all questions on their way: the one whose turn it
is has a step less to go, and the others see a cache that has only gained truth. -/
theorem turn (underway : directory.Underway answers before left pool) (index : Nat) :
    directory.Underway answers before (fun other => left other - [index].count other)
      (pool.turn (.constant answers) index) := by
  have tasks := pool.turn_tasks (.constant answers) index
  unfold Pool.turn at tasks ⊢
  cases found : pool.threads[index]? with
  | none =>
    constructor
    case later => exact underway.later
    case taught => exact underway.taught
    case leads =>
      intro other thread isOther
      have differs : index ≠ other := by
        rintro rfl
        exact nomatch found.symm.trans isOther
      have kept := underway.leads other thread isOther
      simpa [differs] using kept
  | some thread =>
    rw [found] at tasks
    dsimp only at tasks ⊢
    obtain ⟨leads, isLater, adds⟩ :=
      (underway.leads index thread found).step underway.later.coherent
    constructor
    case later => exact underway.later.trans isLater
    case taught =>
      intro name fact held
      rw [tasks]
      rcases adds name fact held with before | taught
      · exact underway.taught name fact before
      · exact .inr ⟨thread.task, List.mem_map_of_mem (List.mem_of_getElem? found), taught⟩
    case leads =>
      intro other next isOther
      by_cases same : index = other
      · subst same
        have inside := (List.getElem?_eq_some_iff.mp found).1
        rw [List.getElem?_set_self inside] at isOther
        obtain rfl := Option.some.inj isOther
        simpa using leads
      · rw [List.getElem?_set_ne same] at isOther
        have kept := (underway.leads other next isOther).later isLater
        simpa [same] using kept

/-- So does every schedule, by induction on its steps: each one leaves one step
less to its task. -/
theorem run (underway : directory.Underway answers before left pool) (schedule : List Nat) :
    directory.Underway answers before (fun other => left other - schedule.count other)
      (pool.run (.constant answers) schedule) := by
  induction schedule generalizing left pool with
  | nil => exact underway
  | cons index rest ih =>
    have further := ih (underway.turn index)
    have spent (other : Nat) :
        left other - [index].count other - rest.count other =
          left other - (index :: rest).count other := by
      rw [Nat.sub_sub, ← List.count_append]
      rfl
    simp only [spent] at further
    exact further

/-- At any moment questions under way may be looked at from then on. -/
theorem now (underway : directory.Underway answers before left pool) :
    directory.Underway answers pool.session.cache left pool where
  later := Later.refl underway.later.coherent
  taught _ _ held := .inl held
  leads := underway.leads

/-- A question that is done has the answer that it has alone, and what
it teaches is known. -/
theorem answered (underway : directory.Underway answers before left pool)
    {thread : Thread Query.Answer} (member : thread ∈ pool.threads) {answer : thread.task.Answer}
    (isDone : thread.program = .done answer) :
    thread.task.AnsweredAs directory answers (thread.task.alone directory answers) answer
      pool.session.cache := by
  obtain ⟨index, isThread⟩ := List.mem_iff_getElem?.mp member
  have leads := underway.leads index thread isThread
  rw [isDone] at leads
  generalize left index = bound at leads
  cases leads with
  | done holds => exact holds _ (Later.refl underway.later.coherent)

/-- What is known once all are done is what was known before and what they teach. -/
theorem holds_at_end (underway : directory.Underway answers before left pool)
    (allDone : ∀ thread ∈ pool.threads, thread.IsDone) (name : String) (fact : Fact) :
    (pool.session.cache.entry name).Holds fact ↔
      (before.entry name).Holds fact ∨
        ∃ query ∈ pool.tasks, query.Teaches directory answers name fact := by
  constructor
  · exact underway.taught name fact
  · rintro (known | ⟨query, isTask, taught⟩)
    · exact underway.later.lasting name fact known
    · obtain ⟨thread, member, rfl⟩ := List.mem_map.mp isTask
      obtain ⟨answer, isDone⟩ := allDone thread member
      exact (underway.answered member isDone).2 name fact taught

end Underway

/-- Questions that are about to be answered are on their way, each with
six steps to go. -/
theorem begin_underway (queries : List Query) {session : Session}
    (coherent : directory.Coherent (.constant answers) answers session.cache) :
    directory.Underway answers session.cache (fun _ => 6) (directory.begin queries session) where
  later := Later.refl coherent
  taught _ _ held := .inl held
  leads := by
    intro index thread isThread
    unfold begin at isThread
    rw [List.getElem?_map] at isThread
    obtain ⟨query, -, rfl⟩ := Option.map_eq_some_iff.mp isThread
    exact query.leads coherent

/-- A run of questions at the same time, from a session on, in
which none disturbs another. -/
structure Undisturbed (directory : Directory) (answers : Node.Answers) (queries : List Query)
    (before : Session) (schedule : List Nat) (pool : Pool Query.Answer) : Prop where
  /-- The questions are those that were asked. -/
  tasks : pool.tasks = queries
  /-- A question that is done has the answer that it has alone,
  where nothing is known. -/
  alone : ∀ thread ∈ pool.threads, ∀ answer, thread.program = .done answer →
    answer = ((thread.task.program directory).run (.constant answers) .fresh).1
  /-- A question that had six turns is done. -/
  ends : ∀ index thread, pool.threads[index]? = some thread → 6 ≤ schedule.count index →
    thread.IsDone
  /-- Once all are done, what is known is what is known after all of
  them in any order. -/
  final : (∀ thread ∈ pool.threads, thread.IsDone) →
    ∀ order : List Query, order.Perm queries → ∀ name, pool.session.cache.entry name =
      ((directory.answerAll order).run (.constant answers) before).2.cache.entry name
  /-- What is known stays known, whatever happens next. -/
  lasting : ∀ more, pool.session.cache.Extends (pool.run (.constant answers) more).session.cache

/-- Look-ups at the same time do not disturb each other. Whatever was looked
up before and in whatever way they take turns, each comes to the answer it
has alone, and together they leave what they leave one after another. A turn
keeps every look-up on its way, whatever truth the others add, and a schedule
is a list of turns. -/
theorem lookups_undisturbed (directory : Directory) (answers : Node.Answers)
    (earlier queries : List Query) (schedule : List Nat) :
    let before := ((directory.answerAll earlier).run (.constant answers) .fresh).2
    directory.Undisturbed answers queries before schedule
      ((directory.begin queries before).run (.constant answers) schedule) := by
  intro before
  have fresh : directory.Coherent (.constant answers) answers Session.fresh.cache := coherent_empty
  have coherent : directory.Coherent (.constant answers) answers before.cache :=
    (answerAll_holds earlier fresh).1.coherent
  have underway := (begin_underway queries coherent).run schedule
  have tasks : ((directory.begin queries before).run (.constant answers) schedule).tasks =
      queries := by
    rw [Pool.run_tasks]
    simp [Pool.tasks, begin, Function.comp_def]
  generalize (directory.begin queries before).run (.constant answers) schedule =
    pool at underway tasks ⊢
  constructor
  case tasks => exact tasks
  case alone =>
    intro thread member answer isDone
    exact (underway.answered member isDone).1
  case ends =>
    intro index thread isThread enough
    have leads := underway.leads index thread isThread
    rw [Nat.sub_eq_zero_of_le enough] at leads
    exact leads.isDone
  case final =>
    intro allDone order same name
    apply Entry.same_of_holds
    intro fact
    rw [underway.holds_at_end allDone, (answerAll_holds order coherent).2, tasks]
    simp only [same.mem_iff]
  case lasting =>
    intro more
    exact (underway.now.run more).later.lasting

/-- The code is stored last, by the look-up that asked for it first. The form that
was stored meanwhile is still there. -/
example :
    let answers : Node.Answers := fun
      | .actor _ _ => .ok (some ⟨default, default, 0, 0, none⟩)
      | .robustAddress _ _ => .ok (.id 6)
      | _ => .error .unreachable
    let pool := Directory.begin ⟨⟨[]⟩, .mainnet⟩ [.code (.id 5), .canonical (.id 5)] .fresh
    (pool.run (.constant answers) [0, 0, 1, 1, 1, 1, 1, 1, 0]).session.cache.entry "f05" =
      ⟨some default, some "f06"⟩ := by
  decide +kernel

end Directory

end FilecoinRosetta
