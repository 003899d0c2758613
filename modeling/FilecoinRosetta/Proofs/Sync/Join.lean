import FilecoinRosetta.Proofs.Sync.Evaluation
import Mathlib.Order.MinMax

/-!
# The status is a join

Stages are ordered by how much they weigh in the status of a node: a failure
outweighs all others, and a worker that completed is outweighed by all others. Among
the stages on the way the furthest weighs most. The common stage is the greatest one
in this order, and the heights are greatest ones too. So a status does not depend on
the order of the workers or on how often one of them is told.
-/

namespace FilecoinRosetta

section Greatest

variable {α : Type} [Max α] [LE α] [Std.IsLinearOrder α] [Std.LawfulOrderMax α]
  {values others : List α}

/-- Lists with the same members have the same greatest one, so neither
order nor repetition matters. -/
theorem max_eq_of_mem_iff (same : ∀ value, value ∈ values ↔ value ∈ others) :
    values.max? = others.max? := by
  cases greatest : others.max? with
  | none =>
    rw [List.max?_eq_none_iff] at greatest
    subst greatest
    rw [List.max?_eq_none_iff, List.eq_nil_iff_forall_not_mem]
    exact fun value member => List.not_mem_nil ((same value).mp member)
  | some top =>
    rw [List.max?_eq_some_iff] at greatest
    obtain ⟨member, bound⟩ := greatest
    rw [List.max?_eq_some_iff]
    exact ⟨(same top).mpr member, fun value isValue => bound value ((same value).mp isValue)⟩

/-- The greatest member of two lists is the greater one of theirs. -/
theorem max_append {first second : α} (ofValues : values.max? = some first)
    (ofOthers : others.max? = some second) :
    (values ++ others).max? = some (max first second) := by
  rw [List.max?_eq_some_iff] at ofValues ofOthers ⊢
  obtain ⟨isFirst, upToFirst⟩ := ofValues
  obtain ⟨isSecond, upToSecond⟩ := ofOthers
  constructor
  · rw [List.mem_append]
    rcases Std.MaxEqOr.max_eq_or first second with same | same
    · exact .inl (same.symm ▸ isFirst)
    · exact .inr (same.symm ▸ isSecond)
  · intro value member
    rcases List.mem_append.mp member with member | member
    · exact Std.le_trans (upToFirst value member) Std.left_le_max
    · exact Std.le_trans (upToSecond value member) Std.right_le_max

end Greatest

/-! ## Stages -/

namespace SyncStage

/-- How much a stage weighs in the status of a node. -/
def weight : SyncStage → Nat
  | complete => 0
  | idle => 1
  | headers => 2
  | persistHeaders => 3
  | messages => 4
  | error => 5

/-- Different stages have different weights, so the order by weight is
one of the stages. -/
theorem weight_injective : Function.Injective weight := by
  intro first second same
  cases first <;> cases second <;> first | rfl | cases same

instance : LinearOrder SyncStage :=
  LinearOrder.lift' weight weight_injective

example : [complete, idle, headers, persistHeaders, messages, error].Pairwise (· < ·) := by
  decide

/-- No stage weighs less than that of a worker that is done. -/
theorem complete_le (stage : SyncStage) : complete ≤ stage := by
  cases stage <;> decide

/-- No stage weighs more than an error, so it is told whatever
the other workers do. -/
theorem le_error (stage : SyncStage) : stage ≤ error := by
  cases stage <;> decide

/-- A worker that is not done weighs as much as an idle one at least. -/
theorem idle_le {stage : SyncStage} (begun : stage ≠ complete) : idle ≤ stage := by
  cases stage <;> first | decide | exact absurd rfl begun

/-- On the way, the further stage weighs more, so the fold over such
stages is a maximum. -/
theorem further_eq_max {first second : SyncStage} (isFirst : first.Underway)
    (isSecond : second.Underway) :
    first.further second = max first second := by
  obtain ⟨begun, sound⟩ := isFirst
  obtain ⟨begunToo, soundToo⟩ := isSecond
  cases first <;> cases second <;> first | rfl | contradiction

end SyncStage

namespace SyncStatus

/-- The stage that the fold keeps is the greatest of those it goes through. Both
are the same only on the way, so neither an error nor a worker that is done may
be among the stages. -/
theorem furthest_eq_max (start : SyncStage) (stages : List SyncStage) (isStart : start.Underway)
    (underway : ∀ stage ∈ stages, stage.Underway) :
    stages.foldl SyncStage.further start = stages.foldl max start := by
  induction stages generalizing start with
  | nil => rfl
  | cons stage rest ih =>
    rw [List.forall_mem_cons] at underway
    have step := SyncStage.further_eq_max isStart underway.1
    have isNext : (max start stage).Underway := by
      rcases Std.MaxEqOr.max_eq_or start stage with same | same
      · rwa [same]
      · rw [same]
        exact underway.1
    rw [List.foldl_cons, List.foldl_cons, step]
    exact ih _ isNext underway.2

/-- The common stage is the one that outweighs all others, also where some worker
failed or all of them are done. -/
theorem commonStage_max {stages : List SyncStage} (some : stages ≠ []) :
    stages.max? = .some (commonStage stages) := by
  rw [List.max?_eq_some_iff]
  by_cases failed : .error ∈ stages
  · rw [(commonStage_error_iff stages).mpr failed]
    exact ⟨failed, fun stage _ => stage.le_error⟩
  by_cases finished : ∀ stage ∈ stages, stage = .complete
  · rw [(commonStage_complete_iff stages).mpr finished]
    obtain ⟨stage, member⟩ := List.exists_mem_of_ne_nil stages some
    constructor
    · exact finished stage member ▸ member
    · intro stage member
      rw [finished stage member]
  -- The furthest stage on the way is looked for from idle on, which weighs least
  -- among them.
  · have noError : ¬ stages.contains .error = true := by simpa using failed
    have notAll : ¬ stages.all (· == .complete) = true := by simpa using finished
    have begun (stage : SyncStage) : stage ∈ stages.filter (· != .complete) ↔
        stage ∈ stages ∧ stage ≠ .complete := by
      simp
    have underway : ∀ stage ∈ stages.filter (· != .complete), stage.Underway := by
      intro stage member
      obtain ⟨isStage, differs⟩ := (begun stage).mp member
      exact ⟨differs, fun isError => failed (isError ▸ isStage)⟩
    have isIdle : SyncStage.idle.Underway := ⟨nofun, nofun⟩
    rw [commonStage, if_neg noError, if_neg notAll, furthest_eq_max _ _ isIdle underway,
      List.foldl_max]
    cases greatest : (stages.filter (· != .complete)).max? with
    | none =>
      rw [List.max?_eq_none_iff, List.filter_eq_nil_iff] at greatest
      exact absurd (by simpa using greatest) finished
    | some top =>
      obtain ⟨isTop, bound⟩ := List.max?_eq_some_iff.mp greatest
      obtain ⟨isStage, notComplete⟩ := (begun top).mp isTop
      rw [Option.getD_some, max_eq_right (SyncStage.idle_le notComplete)]
      refine ⟨isStage, ?_⟩
      intro stage member
      by_cases isComplete : stage = .complete
      · rw [isComplete]
        exact top.complete_le
      · exact bound stage ((begun stage).mpr ⟨member, isComplete⟩)

/-! ## Heights -/

instance : Std.LawfulOrderLeftLeaningMax Int64 where
  max_eq_left first second upTo := by
    change (if first ≤ second then second else first) = first
    split
    case isTrue above => exact Int64.le_antisymm upTo above
    case isFalse => rfl
  max_eq_right first second notUpTo := by
    change (if first ≤ second then second else first) = second
    exact if_pos (Int64.le_of_lt (Int64.not_le.mp notUpTo))

/-- The height that is told of some heights is their greatest, by
induction on the heights. -/
theorem highest_max {heights : List Int64} (some : heights ≠ []) :
    heights.max? = .some (highest heights) := by
  cases heights with
  | nil => exact absurd rfl some
  | cons first rest =>
    have step (greatest height : Int64) :
        (if greatest < height then height else greatest) = max greatest height := by
      change _ = if greatest ≤ height then height else greatest
      by_cases below : greatest < height
      · rw [if_pos below, if_pos (Int64.le_of_lt below)]
      · rw [if_neg below]
        split
        case isTrue upTo => exact Int64.le_antisymm upTo (Int64.not_lt.mp below)
        case isFalse => rfl
    simp only [highest, step, List.max?_cons']

/-! ## Statuses -/

/-- What a status tells of the workers that count. -/
structure Joins (workers : List SyncWorker) (status : SyncStatus) : Prop where
  /-- The stage outweighs all others. -/
  stage : (workers.map SyncWorker.stage).max? = some status.stage
  /-- Of each worker, in order, the height that it reached is listed. -/
  reached : status.currentHeights = workers.map SyncWorker.height
  /-- So is, in the same place, the height of its target. -/
  wanted : status.targetHeights.map some = workers.map SyncWorker.targetHeight?
  /-- A failure has no height. -/
  failed : status.stage = .error → status.currentHeight = -1
  /-- Before messages are executed the height is zero. -/
  early : status.stage ∈ [.idle, .headers, .persistHeaders] → status.currentHeight = 0
  /-- From then on it is the greatest one that was reached. -/
  late : status.stage ∈ [.messages, .complete] →
    (workers.map SyncWorker.height).max? = some status.currentHeight
  /-- The height aimed at is the greatest one of all targets. -/
  aim : status.targetHeights.max? = some status.targetHeight

/-- What is seen of a status, the single workers apart. -/
def seen (status : SyncStatus) : SyncStage × Int64 × Int64 :=
  (status.stage, status.currentHeight, status.targetHeight)

/-- The status of a state is the join of the workers that count. The proof has a
case for each way to evaluate a state. -/
theorem evaluate_joins {state : SyncState} {status : SyncStatus}
    (evaluated : evaluate? state = some status) :
    Joins state.targeted status := by
  obtain ⟨some, rfl⟩ := (evaluate_some_iff state status).mp evaluated
  have viewed {α : Type} (view : SyncWorker → α) :
      state.targeted.map view ≠ [] := by simpa using some
  constructor
  case stage => exact commonStage_max (viewed SyncWorker.stage)
  case reached => rfl
  case wanted => exact targeted_height state
  case failed =>
    intro isError
    rw [currentHeight, isError]
  case early =>
    intro isEarly
    simp only [List.mem_cons, List.not_mem_nil, or_false] at isEarly
    rcases isEarly with same | same | same <;> rw [currentHeight, same]
  case late =>
    intro isLate
    simp only [List.mem_cons, List.not_mem_nil, or_false] at isLate
    rcases isLate with same |
      same <;> rw [currentHeight, same, highest_max (viewed SyncWorker.height)]
  case aim =>
    apply highest_max
    rw [ne_eq, ← List.map_eq_nil_iff, targeted_height]
    exact viewed SyncWorker.targetHeight?

/-- What is seen of a status is told by its stage and by the heights of
the workers that count. -/
theorem Joins.seen_eq {workers others : List SyncWorker} {status other : SyncStatus}
    (joins : Joins workers status) (joinsToo : Joins others other)
    (same : ∀ worker, worker ∈ workers ↔ worker ∈ others) :
    status.seen = other.seen := by
  have alike {α : Type} (view : SyncWorker → α) (value : α) :
      value ∈ workers.map view ↔ value ∈ others.map view := by
    simp only [List.mem_map, same]
  have stages : some status.stage = some other.stage := by
    rw [← joins.stage, ← joinsToo.stage]
    exact max_eq_of_mem_iff (alike SyncWorker.stage)
  have stage := Option.some.inj stages
  have targets : some status.targetHeight = some other.targetHeight := by
    rw [← joins.aim, ← joinsToo.aim]
    apply max_eq_of_mem_iff
    intro height
    have ofWorkers := alike SyncWorker.targetHeight? (some height)
    rw [← joins.wanted, ← joinsToo.wanted] at ofWorkers
    simpa using ofWorkers
  have heights : status.currentHeight = other.currentHeight := by
    cases is : status.stage with
    | error => rw [joins.failed is, joinsToo.failed (stage ▸ is)]
    | idle | headers | persistHeaders =>
      rw [joins.early (by simp [is]), joinsToo.early (by simp [← stage, is])]
    | messages | complete =>
      have reached := max_eq_of_mem_iff (alike SyncWorker.height)
      rw [joins.late (by simp [is]), joinsToo.late (by simp [← stage, is])] at reached
      exact Option.some.inj reached
  rw [seen, seen, stage, heights, Option.some.inj targets]

/-- The status of a node is a join of its workers: only those with a target count,
and without one there is no status. The stage and the heights are greatest ones.
Those of two nodes together are the greater ones of both, and neither the order of
workers nor their repetition can be seen. -/
theorem statuses_join :
    (∀ state other : SyncState, state.targeted = other.targeted →
      evaluate? state = evaluate? other) ∧
    (∀ state : SyncState, evaluate? state = none ↔ ∀ worker ∈ state.workers, worker.target = none) ∧
    (∀ state status, evaluate? state = some status → Joins state.targeted status) ∧
    (∀ (workers others : List SyncWorker) (applied : UInt64) (first second : SyncStatus),
      evaluate? ⟨workers, applied⟩ = some first → evaluate? ⟨others, applied⟩ = some second →
        ∃ both, evaluate? ⟨workers ++ others, applied⟩ = some both ∧
          both.stage = max first.stage second.stage) ∧
    ∀ state other : SyncState, (∀ worker, worker ∈ state.workers ↔ worker ∈ other.workers) →
      (evaluate? state).map seen = (evaluate? other).map seen := by
  refine ⟨?_, evaluate_none_iff, fun _ _ => evaluate_joins, ?_, ?_⟩
  · intro state other same
    rw [evaluate_targeted, evaluate_targeted, same]
  · intro workers others applied first second isFirst isSecond
    have parts : SyncState.targeted ⟨workers ++ others, applied⟩ =
        SyncState.targeted ⟨workers, applied⟩ ++ SyncState.targeted ⟨others, applied⟩ :=
      List.filter_append ..
    have ofFirst := (evaluate_joins isFirst).stage
    have ofSecond := (evaluate_joins isSecond).stage
    cases isBoth : evaluate? ⟨workers ++ others, applied⟩ with
    | none =>
      rw [evaluate_none_targeted, parts, List.append_eq_nil_iff, ← evaluate_none_targeted,
        isFirst] at isBoth
      cases isBoth.1
    | some both =>
      have ofBoth := (evaluate_joins isBoth).stage
      rw [parts, List.map_append, max_append ofFirst ofSecond] at ofBoth
      exact ⟨both, rfl, (Option.some.inj ofBoth).symm⟩
  · intro state other same
    have counts (worker : SyncWorker) : worker ∈ state.targeted ↔ worker ∈ other.targeted := by
      simp only [SyncState.targeted, List.mem_filter, same]
    cases ofState : evaluate? state with
    | none =>
      have none : other.targeted = [] := by
        rw [evaluate_none_targeted] at ofState
        rw [List.eq_nil_iff_forall_not_mem]
        intro worker
        rw [← counts, ofState]
        exact List.not_mem_nil
      rw [(evaluate_none_targeted other).mpr none]
    | some status =>
      cases ofOther : evaluate? other with
      | none =>
        rw [evaluate_none_targeted] at ofOther
        have some : state.targeted ≠ [] := (evaluate_some ofState).1
        obtain ⟨worker, member⟩ := List.exists_mem_of_ne_nil _ some
        rw [counts, ofOther] at member
        exact absurd member List.not_mem_nil
      | some status' =>
        rw [Option.map_some, Option.map_some,
          (evaluate_joins ofState).seen_eq (evaluate_joins ofOther) counts]

/-! ## A worker behind others -/

namespace Mixed

/-- A worker with a stage and the heights that it reached and aims at. -/
def worker (stage : SyncStage) (height : Int64) (target : Option Int64) : SyncWorker :=
  ⟨0, none, target.map fun aim => ⟨.empty, [], aim⟩, stage, height, ""⟩

/-- It follows the chain. -/
def follower : SyncWorker := worker .complete 9 (some 9)

/-- It failed, but has no target. -/
def dropout : SyncWorker := worker .error 3 none

/-- It executes messages and is behind. -/
def latecomer : SyncWorker := worker .messages 7 (some 12)

end Mixed

/-- A worker behind the others holds back the stage, though not the height, wherever
it stands and however often. -/
theorem mixed_join :
    (∃ both, evaluate? ⟨[Mixed.follower, Mixed.dropout] ++ [Mixed.latecomer], 0⟩ = some both ∧
        both.stage = .messages ∧ both.currentHeight = 9) ∧
      (evaluate? ⟨[Mixed.latecomer, Mixed.dropout, Mixed.follower, Mixed.latecomer], 0⟩).map seen =
        some (.messages, 9, 12) := by
  obtain ⟨-, -, joins, together, alike⟩ := statuses_join
  obtain ⟨both, evaluated, stage⟩ :=
    together [Mixed.follower, Mixed.dropout] [Mixed.latecomer] 0 _ _ rfl rfl
  have isMessages : both.stage = .messages := by
    rw [stage]
    rfl
  have height : _ = some both.currentHeight := (joins _ both evaluated).late (by simp [isMessages])
  refine ⟨⟨both, evaluated, isMessages, (Option.some.inj height).symm⟩, ?_⟩
  rw [alike _ ⟨[Mixed.follower, Mixed.dropout, Mixed.latecomer], 0⟩]
  · rfl
  · intro worker
    simp only [List.mem_cons, List.not_mem_nil, or_false]
    grind

end SyncStatus

end FilecoinRosetta
