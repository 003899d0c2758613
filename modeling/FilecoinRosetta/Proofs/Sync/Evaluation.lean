import FilecoinRosetta.Sync

/-!
# What the workers of a node come to

Only workers with a target count. A node has no status exactly if no worker has one.
The status is an error exactly if one of the workers that count failed, and complete
exactly if all of them completed. Otherwise the node is on its way.
-/

namespace FilecoinRosetta

/-- Neither completed nor failed. -/
def SyncStage.Underway (stage : SyncStage) : Prop :=
  stage ≠ .complete ∧ stage ≠ .error

/-- The workers that count. -/
def SyncState.targeted (state : SyncState) : List SyncWorker :=
  state.workers.filter fun worker => worker.target.isSome

/-- The height of a worker's target, if it has one. -/
def SyncWorker.targetHeight? (worker : SyncWorker) : Option Int64 :=
  worker.target.map Tipset.height

namespace SyncStatus

/-- The further of two stages is one of them, so no stage is told that
no worker is in. -/
theorem further_cases (first second : SyncStage) :
    first.further second = first ∨ first.further second = second := by
  unfold SyncStage.further
  split
  · exact .inr rfl
  · exact .inl rfl

/-- Workers on their way have a stage on the way in common, so neither an error nor
completion is made up. -/
theorem furthest_underway (start : SyncStage) (stages : List SyncStage) (isStart : start.Underway)
    (underway : ∀ stage ∈ stages, stage.Underway) :
    (stages.foldl SyncStage.further start).Underway := by
  induction stages generalizing start with
  | nil => exact isStart
  | cons stage rest ih =>
    rw [List.forall_mem_cons] at underway
    apply ih
    · rcases further_cases start stage with same | same
      · rw [same]
        exact isStart
      · rw [same]
        exact underway.1
    · exact underway.2

/-- Where nobody failed and somebody has not completed, the common stage is
one on the way. -/
theorem commonStage_underway {stages : List SyncStage} (sound : .error ∉ stages)
    (unfinished : ¬ ∀ stage ∈ stages, stage = .complete) : (commonStage stages).Underway := by
  unfold commonStage
  have noError : ¬ stages.contains .error = true := by simpa using sound
  have notAll : ¬ stages.all (· == .complete) = true := by simpa using unfinished
  rw [if_neg noError, if_neg notAll]
  apply furthest_underway
  · exact ⟨nofun, nofun⟩
  · intro stage member
    obtain ⟨isStage, differs⟩ := List.mem_filter.mp member
    constructor
    · simpa using differs
    · rintro rfl
      exact sound isStage

/-- One failure is a failure of all, whatever the others are doing. -/
theorem commonStage_error_iff (stages : List SyncStage) :
    commonStage stages = .error ↔ .error ∈ stages := by
  constructor
  · intro isError
    by_cases failed : .error ∈ stages
    · exact failed
    · have noError : ¬ stages.contains .error = true := by simpa using failed
      by_cases finished : ∀ stage ∈ stages, stage = .complete
      · have all : stages.all (· == .complete) = true := by simpa using finished
        rw [commonStage, if_neg noError, if_pos all] at isError
        exact nomatch isError
      · exact absurd isError (commonStage_underway failed finished).2
  · intro failed
    have error : stages.contains .error = true := by simpa using failed
    rw [commonStage, if_pos error]

/-- All have to complete before the node has, since one that has not
leaves something to do. -/
theorem commonStage_complete_iff (stages : List SyncStage) :
    commonStage stages = .complete ↔ ∀ stage ∈ stages, stage = .complete := by
  constructor
  · intro isComplete
    have sound : .error ∉ stages := by
      rw [← commonStage_error_iff, isComplete]
      exact nofun
    by_cases finished : ∀ stage ∈ stages, stage = .complete
    · exact finished
    · exact absurd isComplete (commonStage_underway sound finished).1
  · intro finished
    have noError : ¬ stages.contains .error = true := by
      intro error
      exact nomatch finished .error (by simpa using error)
    have all : stages.all (· == .complete) = true := by simpa using finished
    rw [commonStage, if_neg noError, if_pos all]

/-- Workers are counted together with their targets, so none is counted
that has no target. -/
theorem targets_map (workers : List SyncWorker) :
    (workers.filterMap fun worker =>
        worker.target.map fun target => (worker, target)).map Prod.fst =
      workers.filter fun worker => worker.target.isSome := by
  induction workers with
  | nil => rfl
  | cons worker rest ih =>
    cases target : worker.target with
    | none => simpa [target] using ih
    | some tipset => simpa [target] using ih

/-- The heights of targets, in the order of the workers that count. -/
theorem targets_height (workers : List SyncWorker) :
    (workers.filterMap fun worker => worker.target.map fun target => (worker, target)).map
        (fun (_, target) => target.height) =
      (workers.filter fun worker => worker.target.isSome).filterMap SyncWorker.targetHeight? := by
  induction workers with
  | nil => rfl
  | cons worker rest ih =>
    cases target : worker.target with
    | none => simpa [target] using ih
    | some tipset => simpa [SyncWorker.targetHeight?, target] using ih

/-- Every worker that counts has a height to go to, that of its target. -/
theorem targeted_height (state : SyncState) :
    (state.targeted.filterMap SyncWorker.targetHeight?).map some =
      state.targeted.map SyncWorker.targetHeight? := by
  unfold SyncState.targeted
  induction state.workers with
  | nil => rfl
  | cons worker rest ih =>
    cases target : worker.target with
    | none => simpa [target] using ih
    | some tipset => simpa [SyncWorker.targetHeight?, target] using ih

/-- A status is folded from the workers that count and from nothing else. -/
theorem evaluate_targeted (state : SyncState) :
    evaluate? state = if state.targeted = [] then none else some
      { currentHeights := state.targeted.map SyncWorker.height
        targetHeights := state.targeted.filterMap SyncWorker.targetHeight?
        stage := commonStage (state.targeted.map SyncWorker.stage) } := by
  have count : _ = state.targeted := targets_map state.workers
  have heights : _ = state.targeted.filterMap SyncWorker.targetHeight? :=
    targets_height state.workers
  unfold evaluate?
  dsimp only
  generalize (state.workers.filterMap fun worker => worker.target.map fun target =>
    (worker, target)) = pairs
    at count heights ⊢
  have view {α : Type} (seen : SyncWorker → α) :
      pairs.map (fun (worker, _) => seen worker) = state.targeted.map seen := by
    rw [← count, List.map_map]
    rfl
  rw [view, view, heights]
  cases pairs with
  | nil =>
    rw [← count]
    rfl
  | cons first rest =>
    have some : state.targeted ≠ [] := by
      rw [← count]
      exact List.cons_ne_nil _ _
    rw [if_neg some]
    rfl

/-- There is no status exactly if no worker has a target. -/
theorem evaluate_none_targeted (state : SyncState) :
    evaluate? state = none ↔ state.targeted = [] := by
  rw [evaluate_targeted, ite_eq_left_iff]
  simp

/-- Without a target there is no status, and only then: a node that tells no goal is
not taken to be on its way. -/
theorem evaluate_none_iff (state : SyncState) :
    evaluate? state = none ↔ ∀ worker ∈ state.workers, worker.target = none := by
  rw [evaluate_none_targeted, SyncState.targeted, List.filter_eq_nil_iff]
  simp

/-- With a target there is one status, made of the heights of the workers that count
and of their common stage. -/
theorem evaluate_some_iff (state : SyncState) (status : SyncStatus) :
    evaluate? state = some status ↔ state.targeted ≠ [] ∧ status =
      { currentHeights := state.targeted.map SyncWorker.height
        targetHeights := state.targeted.filterMap SyncWorker.targetHeight?
        stage := commonStage (state.targeted.map SyncWorker.stage) } := by
  rw [evaluate_targeted, Option.ite_none_left_eq_some, Option.some.injEq, eq_comm (a := status)]

/-- The stage of a status is the common one of the workers that count, of
which there is one. -/
theorem evaluate_some {state : SyncState} {status : SyncStatus}
    (evaluated : evaluate? state = some status) :
    state.targeted ≠ [] ∧ status.stage = commonStage (state.targeted.map SyncWorker.stage) := by
  obtain ⟨some, rfl⟩ := (evaluate_some_iff state status).mp evaluated
  exact ⟨some, rfl⟩

/-- A status is an error exactly if a worker that counts failed. -/
theorem errored_iff {state : SyncState} {status : SyncStatus}
    (evaluated : evaluate? state = some status) :
    status.stage = .error ↔ ∃ worker ∈ state.targeted, worker.stage = .error := by
  rw [(evaluate_some evaluated).2, commonStage_error_iff, List.mem_map]

end SyncStatus

end FilecoinRosetta
