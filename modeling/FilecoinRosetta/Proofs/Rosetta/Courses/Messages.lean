import FilecoinRosetta.Proofs.Rosetta.Courses.Gates
import FilecoinRosetta.Rosetta.ConstructionEndpoints
import FilecoinRosetta.Rosetta.MempoolEndpoints

/-!
# The courses of the endpoints about messages

Pending messages are told at the head of a synced node. What a new message needs to
know is asked for one after another, and a signed message is handed in by a single
call. Here it is said which calls these are and why they may not even be made.
-/

namespace FilecoinRosetta.Rosetta

open Service

/-! ## Pending messages -/

/-- The calls that lead to the pending messages. -/
inductive PendingCall (ground : Ground) : Node.Call → CallSite → Prop where
  /-- How far the node is. -/
  | progress : PendingCall ground .syncState (.told .syncStatusUnavailable)
  /-- The head. -/
  | head : PendingCall ground .chainHead (.told .headUnavailable)
  /-- The messages at the head. -/
  | pending {head : Tipset} (isHead : ground.told .chainHead head) :
      PendingCall ground (.pendingMessages head.key) (.told .transactionsUnavailable)

/-- Messages that may be told to be pending at the head. -/
def Ground.Pending (ground : Ground) (pending : List SignedMessage) : Prop :=
  ∃ head, ground.told .chainHead head ∧ ground.told (.pendingMessages head.key) pending

/-- Why the list of pending messages is refused. -/
inductive MempoolRefusal (ground : Ground) (service : Service) (request : Request Unit) :
    ServiceError → Prop where
  /-- The request is not for the network served. -/
  | unaccepted {cause : ServiceError} (refused : service.accept request.network = .error cause) :
      MempoolRefusal ground service request cause
  /-- The node does not follow the chain. -/
  | late {cause : ServiceError} (late : ground.Late .blockNotSynced cause) :
      MempoolRefusal ground service request cause
  /-- A message goes by no identifier. -/
  | unidentified {text : String} :
      MempoolRefusal ground service request (.because .transactionsUnavailable text)

/-- Why the transaction of a pending message is refused. -/
inductive PendingRefusal (ground : Ground) (service : Service) (request : Request String) :
    ServiceError → Prop where
  /-- The request is not for the network served. -/
  | unaccepted {cause : ServiceError} (refused : service.accept request.network = .error cause) :
      PendingRefusal ground service request cause
  /-- The text denotes no identifier. -/
  | unparsed {text : String} : PendingRefusal ground service request (.because .malformedValue text)
  /-- The node does not follow the chain. -/
  | late {cause : ServiceError} (late : ground.Late .blockNotSynced cause) :
      PendingRefusal ground service request cause
  /-- No pending message goes by the identifier. -/
  | missing {text : String} :
      PendingRefusal ground service request (.because .transactionNotFound text)

/-- A transaction tells the transfer of the first pending message that goes by
the identifier asked for. -/
inductive PendingFound (ground : Ground) (service : Service) (hash : String) :
    Transaction → Prop where
  | intro {wanted : Cid} {pending : List SignedMessage} {message : SignedMessage}
      {transfer : Transfer}
      {sought : List Node.Call} (denotes : Cid.parse hash = .ok wanted)
      (isPending : ground.Pending pending)
      (isFirst : pending.find? (isIdentifiedBy wanted) = some message)
      (finds : ground.finds (service.pendingTransfer message.message) transfer sought) :
      PendingFound ground service hash ⟨wanted.text, operationsOf [transfer] none⟩

/-! ## New messages -/

/-- The calls that tell what a new message needs to know. -/
inductive MetadataCall : Node.Call → CallSite → Prop where
  /-- How far the node is. -/
  | progress : MetadataCall .syncState (.told .syncStatusUnavailable)
  /-- The head. -/
  | head : MetadataCall .chainHead (.told .headUnavailable)
  /-- The nonce of the sender. -/
  | nonce (sender : Address) : MetadataCall (.nextNonce sender) (.told .nonceUnavailable)
  /-- The most gas that it may use. -/
  | gasLimit (message : Message) (key : TipsetKey) :
      MetadataCall (.estimateGasLimit message key) (.told .gasEstimateUnavailable)
  /-- The share of the miner. -/
  | gasPremium (blocks : UInt64) (sender : Address) (limit : UInt64) (key : TipsetKey) :
      MetadataCall (.estimateGasPremium blocks sender limit key) (.told .gasEstimateUnavailable)
  /-- The highest price of gas. -/
  | feeCap (message : Message) (blocks : Int64) (key : TipsetKey) :
      MetadataCall (.estimateFeeCap message blocks key) (.told .gasEstimateUnavailable)
  /-- What the sender holds. -/
  | actor (sender : Address) (key : TipsetKey) :
      MetadataCall (.actor sender key) (.told .balanceUnavailable)

/-- Why a new message is refused what it needs to know. -/
inductive MetadataRefusal (ground : Ground) (service : Service) (request : Request Metadata) :
    ServiceError → Prop where
  /-- The request is not for the network served. -/
  | unaccepted {cause : ServiceError} (refused : service.accept request.network = .error cause) :
      MetadataRefusal ground service request cause
  /-- The options describe no message. -/
  | undescribed {cause : ServiceError} (refused : draft request.wanted = .error cause) :
      MetadataRefusal ground service request cause
  /-- The node does not follow the chain. -/
  | late {cause : ServiceError} (late : ground.Late .nodeNotSynced cause) :
      MetadataRefusal ground service request cause
  /-- The sender cannot pay. -/
  | insolvent {text : String} :
      MetadataRefusal ground service request (.because .insufficientBalance text)

/-- The call that hands a message in. -/
inductive SubmitCall (request : Request String) : Node.Call → CallSite → Prop where
  /-- The message is the one of the request. -/
  | push {message : SignedMessage} (isMessage : signedMessage request.wanted = .ok message) :
      SubmitCall request (.pushMessage message) (.told .submissionFailed)

/-- Why a signed message is not handed in. -/
inductive SubmitRefusal (service : Service) (request : Request String) : ServiceError → Prop where
  /-- The request is not for the network served. -/
  | unaccepted {cause : ServiceError} (refused : service.accept request.network = .error cause) :
      SubmitRefusal service request cause
  /-- The text holds no message. -/
  | unread {cause : ServiceError} (refused : signedMessage request.wanted = .error cause) :
      SubmitRefusal service request cause

/-- Why an operation that needs keys is refused, which it always is. -/
inductive OfflineRefusal (service : Service) (path : String) (request : Request Unit) :
    ServiceError → Prop where
  /-- The request is not for the network served. -/
  | unaccepted {cause : ServiceError} (refused : service.accept request.network = .error cause) :
      OfflineRefusal service path request cause
  /-- The service has no keys. -/
  | offline : OfflineRefusal service path request (.because .notImplemented path)

/-! ## Courses -/

namespace Course

variable {ground : Ground} {may : Node.Call → CallSite → Prop} {refuses : ServiceError → Prop}

/-- The pending messages are told after three calls, if the node
follows the chain. -/
theorem pendingMessages (mayAsk : ∀ call site, PendingCall ground call site → may call site)
    (isRefusal : ∀ cause, ground.Late .blockNotSynced cause → refuses cause) :
    Course ground may refuses (fun pending _ => ground.Pending pending)
      Service.pendingMessages.run := by
  apply (requireSynced _ (mayAsk _ _ .progress) isRefusal).attempt
  rintro _ _ -
  apply (call (mayAsk _ _ .head)).attempt
  rintro head _ ⟨isHead, -⟩
  apply (call (mayAsk _ _ (.pending isHead))).loosen
  rintro pending _ ⟨told, -⟩
  exact ⟨head, isHead, told⟩

/-- The course of a request for the list of pending messages: the gate, the messages
and their identities. One that has none spoils the list. -/
theorem mempool (service : Service) (request : Request Unit) :
    Course ground (PendingCall ground) (MempoolRefusal ground service request)
      (fun cids _ => ∃ pending, ground.Pending pending ∧
        pending.mapM SignedMessage.identity = .ok cids)
      (service.mempool request).run := by
  apply (given fun _ => MempoolRefusal.unaccepted).before
  intro _ _
  apply (pendingMessages (fun _ _ asked => asked) fun _ => MempoolRefusal.late).attempt
  intro pending _ isPending
  cases identified : pending.mapM SignedMessage.identity with
  | ok cids => exact result ⟨pending, isPending, identified⟩
  | error cause => exact refusal .unidentified

/-- The text of a hash denotes an identifier, or it is refused. No call
is made for that. -/
theorem wantedCid (hash : String) (isRefusal : ∀ text, refuses (.because .malformedValue text)) :
    Course ground may refuses (fun wanted made => Cid.parse hash = .ok wanted ∧ made = [])
      (Service.wantedCid hash).run := by
  unfold Service.wantedCid
  cases Cid.parse hash with
  | ok wanted => exact result ⟨rfl, rfl⟩
  | error cause => exact refusal (isRefusal _)

/-- The transfer of a pending message is found by look-ups of its addresses
and of its method. -/
theorem pendingTransfer_looksUp (service : Service) (message : Message) :
    service.directory.LooksUp (service.pendingTransfer message) := by
  intro property inherited
  apply inherited.seq (inherited.methodName _ _)
  intro type
  apply inherited.seq (inherited.canonicalOrOwnText _)
  intro sender
  apply inherited.seq (inherited.canonicalOrOwnText _)
  intro receiver
  exact inherited.result _

/-- The course of a request for the transaction of a pending message. -/
theorem mempoolTransaction (service : Service) (request : Request String)
    (mayLook : ∀ message, ground.looks (service.pendingTransfer message)) :
    Course ground (PendingCall ground) (PendingRefusal ground service request)
      (fun transaction _ => PendingFound ground service request.wanted transaction)
      (service.mempoolTransaction request).run := by
  apply (given fun _ => PendingRefusal.unaccepted).before
  intro _ _
  apply (wantedCid _ fun _ => PendingRefusal.unparsed).before
  intro wanted denotes
  apply (pendingMessages (fun _ _ asked => asked) fun _ => PendingRefusal.late).attempt
  intro pending _ isPending
  apply (demand fun _ => PendingRefusal.missing).before
  intro (message : SignedMessage) isFirst
  apply (lift (mayLook message.message)).attempt
  intro transfer sought finds
  exact result (.intro denotes isPending isFirst finds)

/-- The nonce and the gas of a new message are asked for one after another. -/
theorem estimate (draft : Draft) (head : Tipset)
    (mayAsk : ∀ call site, MetadataCall call site → may call site) :
    Course ground may refuses (fun _ _ => True) (Service.estimate draft head).run := by
  apply (call (mayAsk _ _ (.nonce _))).attempt
  intro nonce _ _
  apply (call (mayAsk _ _ (.gasLimit _ _))).attempt
  intro gasLimit _ _
  apply (call (mayAsk _ _ (.gasPremium _ _ _ _))).attempt
  intro gasPremium _ _
  apply (call (mayAsk _ _ (.feeCap _ _ _))).attempt
  intro gasFeeCap _ _
  exact result trivial

/-- The course of a request for what a new message needs to know. -/
theorem constructionMetadata (service : Service) (request : Request Metadata) :
    Course ground MetadataCall (MetadataRefusal ground service request) (fun _ _ => True)
      (service.constructionMetadata request).run := by
  apply (given fun _ => MetadataRefusal.unaccepted).before
  intro _ _
  apply (given fun _ => MetadataRefusal.undescribed).before
  intro draft _
  apply (requireSynced _ .progress fun _ => MetadataRefusal.late).attempt
  intro _ _ _
  apply (call .head).attempt
  intro head _ _
  apply (estimate draft head fun _ _ asked => asked).attempt
  intro terms _ _
  apply (call (.actor _ _)).attempt
  intro actor _ _
  dsimp only
  split
  · exact refusal .insolvent
  · exact result trivial

/-- The course of a signed message that is handed in. The identifier is the one
that the node tells. -/
theorem constructionSubmit (service : Service) (request : Request String) :
    Course ground (SubmitCall request) (SubmitRefusal service request)
      (fun cid made => ∃ message, signedMessage request.wanted = .ok message ∧
        ground.told (.pushMessage message) cid ∧ made = [.pushMessage message])
      (service.constructionSubmit request).run := by
  apply (given fun _ => SubmitRefusal.unaccepted).before
  intro _ _
  apply (given fun _ => SubmitRefusal.unread).before
  intro message isMessage
  have pushed : Course ground (SubmitCall request) (SubmitRefusal service request) _
      (Endpoint.call .submissionFailed (.pushMessage message)).run := call (.push isMessage)
  exact pushed.loosen fun cid made told => ⟨message, isMessage, told⟩

/-- An operation that needs keys makes no call and comes to nothing. -/
theorem constructionOffline (service : Service) (path : String) (request : Request Unit) :
    Course ground (fun _ _ => False) (OfflineRefusal service path request) (fun _ _ => False)
      (service.constructionOffline path request).run := by
  apply (given fun _ => OfflineRefusal.unaccepted).before
  intro _ _
  exact refusal .offline

end Course

end FilecoinRosetta.Rosetta
