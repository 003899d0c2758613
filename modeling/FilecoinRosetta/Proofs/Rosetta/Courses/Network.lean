import FilecoinRosetta.Proofs.Rosetta.Courses.Gates
import FilecoinRosetta.Rosetta.NetworkEndpoints

/-!
# The courses of the endpoints about the network

The status of the network names the first block and the current one, which is the
head only if the node follows the chain. For the options the node is asked for
its version and nothing else.
-/

namespace FilecoinRosetta.Rosetta

open Service

/-- The calls that tell how far the network is. -/
inductive StatusCall (service : Service) (network : Option NetworkIdentifier) :
    Node.Call → CallSite → Prop where
  /-- How far the node is. -/
  | progress : StatusCall service network .syncState (.told .syncStatusUnavailable)
  /-- The first tipset. -/
  | genesis : StatusCall service network .chainGenesis (.told .genesisUnavailable)
  /-- The head, as final as wanted. -/
  | head {identifier : NetworkIdentifier} {tag : Node.TipsetTag}
      (accepted : service.accept network = .ok identifier)
      (tagged : service.finalityTag identifier = .ok tag) :
      StatusCall service network (headCall tag) (.told .headUnavailable)
  /-- The peers. -/
  | peers : StatusCall service network .peers (.told .peersUnavailable)

/-- The tipset that is told as the current one: the head of a synced node, and
the first tipset otherwise. -/
structure Ground.Current (ground : Ground) (tag : Node.TipsetTag) (genesis current : Tipset) :
    Prop where
  /-- The first tipset is told. -/
  isGenesis : ground.told .chainGenesis genesis
  /-- Which one is current depends on the progress. -/
  isCurrent : ∃ status, ground.Progress status ∧
    (status.isSynced = true ∧ ground.Head tag current ∨ ¬ status.isSynced = true ∧
      current = genesis)

/-- Why the status of the network is refused. -/
inductive StatusRefusal (ground : Ground) (service : Service) (network : Option NetworkIdentifier) :
    ServiceError → Prop where
  /-- The request is not for the network served. -/
  | unaccepted {cause : ServiceError} (refused : service.accept network = .error cause) :
      StatusRefusal ground service network cause
  /-- Its tag is none. -/
  | untagged {identifier : NetworkIdentifier} {cause : ServiceError}
      (accepted : service.accept network = .ok identifier)
      (refused : service.finalityTag identifier = .error cause) :
      StatusRefusal ground service network cause
  /-- Nothing good is known of the progress of the node. -/
  | stalled {cause : ServiceError} (stalled : ground.Stalled cause) :
      StatusRefusal ground service network cause
  /-- The current tipset or the first one has no hash. -/
  | nameless {identifier : NetworkIdentifier} {tag : Node.TipsetTag} {genesis current : Tipset}
      (accepted : service.accept network = .ok identifier)
      (tagged : service.finalityTag identifier = .ok tag)
      (isCurrent : ground.Current tag genesis current)
      (hashless : current.key.hashText? = none ∨ genesis.key.hashText? = none) :
      StatusRefusal ground service network namelessError

/-- The status of the network names the current tipset. -/
inductive StatusFound (ground : Ground) (service : Service) (network : Option NetworkIdentifier)
    (status : NetworkStatus) : Prop where
  | intro {identifier : NetworkIdentifier} {tag : Node.TipsetTag} {genesis current : Tipset}
      (accepted : service.accept network = .ok identifier)
      (tagged : service.finalityTag identifier = .ok tag)
      (isCurrent : ground.Current tag genesis current)
      (names : Names status.current current)

/-- The call that tells the version of the node. A failure is
told without the cause. -/
inductive OptionsCall : Node.Call → CallSite → Prop where
  /-- The version. -/
  | version : OptionsCall .version ⟨.nodeInfoUnavailable, false, by decide⟩

namespace Course

variable {ground : Ground} {may : Node.Call → CallSite → Prop} {refuses : ServiceError → Prop}

/-- The course of a request for the status of the network: the first block, the
progress, the head if the node is synced, and the peers. -/
theorem networkStatus (service : Service) (request : Request Unit) :
    Course ground (StatusCall service request.network)
      (StatusRefusal ground service request.network)
      (fun status _ => StatusFound ground service request.network status)
      (service.networkStatus request).run := by
  apply (given fun _ => StatusRefusal.unaccepted).before
  intro identifier accepted
  apply (given fun _ refused => StatusRefusal.untagged accepted refused).before
  intro tag tagged
  apply (syncStatus .progress fun _ => StatusRefusal.stalled).attempt
  rintro status _ ⟨progress, -⟩
  apply (call .genesis).attempt
  rintro genesis _ ⟨isGenesis, -⟩
  have found : Course ground (StatusCall service request.network)
      (StatusRefusal ground service request.network)
      (fun current _ => ground.Current tag genesis current)
      (Service.currentTipset tag status genesis).run := by
    unfold Service.currentTipset
    by_cases synced : status.isSynced = true
    · rw [if_pos synced]
      apply (head tag (.head accepted tagged)).loosen
      rintro current _ ⟨isHead, -⟩
      exact ⟨isGenesis, status, progress, .inl ⟨synced, isHead⟩⟩
    · rw [if_neg synced]
      exact result ⟨isGenesis, status, progress, .inr ⟨synced, rfl⟩⟩
  apply found.attempt
  intro current _ isCurrent
  apply (call .peers).attempt
  intro peers _ _
  apply (blockIdentifier current fun hashless =>
    .nameless accepted tagged isCurrent (.inl hashless)).before
  intro currentIdentifier names
  apply (blockIdentifier genesis fun hashless =>
    .nameless accepted tagged isCurrent (.inr hashless)).before
  intro genesisIdentifier _
  exact result (.intro accepted tagged isCurrent names)

/-- The course of a request for the options: one call, whatever is told. -/
theorem networkOptions (service : Service) (request : Request Unit) :
    Course ground OptionsCall (fun cause => service.accept request.network = .error cause)
      (fun _ _ => True)
      (service.networkOptions request).run := by
  apply (given fun _ refused => refused).before
  intro _ _
  apply (quietCall .version).attempt
  intro version _ _
  exact result trivial

end Course

end FilecoinRosetta.Rosetta
