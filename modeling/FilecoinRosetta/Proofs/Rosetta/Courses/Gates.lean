import FilecoinRosetta.Proofs.Rosetta.Course

/-!
# The course of what endpoints share

Endpoints ask how far the node is and for the head, as final as wanted, and they
identify blocks by their tipsets. What these steps come to, and why they are
refused, is said here once.
-/

namespace FilecoinRosetta.Rosetta

/-! ## What is told -/

/-- The question for the head, as final as a tag asks for. -/
def headCall : Node.TipsetTag → Node.Call
  | .latest => .chainHead
  | tag => .tipsetOfTag tag

/-- A tipset that may be told as the head, as final as a tag asks for. -/
def Ground.Head (ground : Ground) (tag : Node.TipsetTag) (tipset : Tipset) : Prop :=
  match tag with
  | .latest => ground.told .chainHead tipset
  | tag => ground.told (.tipsetOfTag tag) tipset

/-- The progress of the node as its workers may be told to be.
None of them failed. -/
structure Ground.Progress (ground : Ground) (status : SyncStatus) : Prop where
  /-- The workers have a common stage. -/
  told : ∃ state, ground.told .syncState state ∧ SyncStatus.evaluate? state = some status
  /-- It is no error. -/
  sound : ¬ status.isErrored = true

/-- The progress of the node is not known, or it is no good. -/
inductive Ground.Stalled (ground : Ground) : ServiceError → Prop where
  /-- No worker has a target. -/
  | untargeted {state : SyncState} (told : ground.told .syncState state)
      (unknown : SyncStatus.evaluate? state = none) :
      Stalled ground (.because .syncStatusUnavailable SyncStatus.unknownMessage)
  /-- A worker failed. -/
  | errored {state : SyncState} {status : SyncStatus} (told : ground.told .syncState state)
      (evaluated : SyncStatus.evaluate? state = some status) (isErrored : status.isErrored = true) :
      Stalled ground (.bare .syncErrored)

/-- The node does not follow the chain, and an endpoint says so by a kind of
error of its own. -/
inductive Ground.Late (ground : Ground) (late : ErrorKind) : ServiceError → Prop where
  /-- Nothing good is known of its progress. -/
  | stalled {cause : ServiceError} (stalled : ground.Stalled cause) : Late ground late cause
  /-- It is on its way. -/
  | underway {status : SyncStatus} (progress : ground.Progress status)
      (notSynced : ¬ status.isSynced = true) : Late ground late (.because late status.stage.text)

/-- An identifier names a tipset by its height and hash. -/
def Names (identifier : BlockIdentifier) (tipset : Tipset) : Prop :=
  ∃ hash, tipset.key.hashText? = some hash ∧ identifier = ⟨tipset.height, hash⟩

/-- The error where a tipset has no hash. -/
def namelessError : ServiceError :=
  .because .tipsetHashUnavailable TipsetKey.emptyKeyMessage

/-- The tipset at or below a height, as it may be told from a head on. The height is
one of the chain, and a hash that is given is the one of the tipset. -/
structure Ground.Requested (ground : Ground) (head : Tipset) (index : Int64) (hash : Option String)
    (tipset : Tipset) : Prop where
  /-- The height is not below zero. -/
  nonneg : ¬ index < 0
  /-- It is not above the head. -/
  upToHead : ¬ head.height < index
  /-- The tipset is told of it. -/
  told : ground.told (.tipsetAtOrBelow index head.key) tipset
  /-- The hash is its own. -/
  hash : ∀ given, hash = some given → tipset.key.hashText? = some given

namespace Course

variable {ground : Ground} {may : Node.Call → CallSite → Prop} {refuses : ServiceError → Prop}

/-- The head is the tipset that is told, after one call: by its tag if the request
has one, else as the head of the chain. -/
theorem head (tag : Node.TipsetTag) (mayAsk : may (headCall tag) (.told .headUnavailable)) :
    Course ground may refuses (fun tipset made => ground.Head tag tipset ∧ made = [headCall tag])
      (Service.head tag).run := by
  cases tag with
  | latest => exact call mayAsk
  | safe => exact call mayAsk
  | finalized => exact call mayAsk

/-- The progress of the node takes one call. It is refused if no worker has a target
or one has failed. -/
theorem syncStatus (mayAsk : may .syncState (.told .syncStatusUnavailable))
    (isRefusal : ∀ cause, ground.Stalled cause → refuses cause) :
    Course ground may refuses (fun status made => ground.Progress status ∧ made = [.syncState])
      Service.syncStatus.run := by
  apply (call mayAsk).attempt
  rintro state made ⟨told, rfl⟩
  apply (demand fun unknown => isRefusal _ (.untargeted told unknown)).before
  intro status evaluated
  by_cases errored : status.isErrored = true
  · rw [if_pos errored]
    exact refusal (isRefusal _ (.errored told evaluated errored))
  · rw [if_neg errored]
    exact result ⟨⟨⟨state, told, evaluated⟩, errored⟩, rfl⟩

/-- The gate takes the same call. It is passed only if the node follows the chain.
-/
theorem requireSynced (late : ErrorKind) (mayAsk : may .syncState (.told .syncStatusUnavailable))
    (isRefusal : ∀ cause, ground.Late late cause → refuses cause) :
    Course ground may refuses (fun _ made => made = [.syncState])
      (Service.requireSynced late).run := by
  apply (syncStatus mayAsk fun cause stalled => isRefusal cause (.stalled stalled)).attempt
  rintro status made ⟨progress, rfl⟩
  by_cases synced : status.isSynced = true
  · rw [if_pos synced]
    exact result rfl
  · rw [if_neg synced]
    exact refusal (isRefusal _ (.underway progress synced))

/-- A block is identified without a call, unless its tipset has no hash. -/
theorem blockIdentifier (tipset : Tipset)
    (isRefusal : tipset.key.hashText? = none → refuses namelessError) :
    Course ground may refuses (fun identifier made => Names identifier tipset ∧ made = [])
      (Service.blockIdentifier tipset).run := by
  apply (demand isRefusal).before
  intro hash isHash
  exact result ⟨⟨hash, isHash, rfl⟩, rfl⟩

end Course

end FilecoinRosetta.Rosetta
