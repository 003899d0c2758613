import FilecoinRosetta.Proofs.Chain.Blocks
import FilecoinRosetta.Proofs.Cid.Text
import FilecoinRosetta.Proofs.Rosetta.Courses.Messages
import FilecoinRosetta.Proofs.Rosetta.SyncGate
import Mathlib.Data.Set.List

/-!
# Two views of the pending messages

The list of pending messages and the look-up of one of them derive identifiers
alike. A message that has none spoils the list, but not the look-up of the others.
Whatever is listed is found under its hash, and a text finds a message exactly if it
denotes the identifier of one, however the text spells it.
-/

namespace FilecoinRosetta

variable {ε α β : Type}

/-- Attempts have a list of results if all of them succeed, each with the
result in its place. -/
theorem mapM_ok_iff {attempt : α → Except ε β} {values : List α} {results : List β} :
    values.mapM attempt = .ok results ↔ values.map attempt = results.map .ok := by
  induction values generalizing results with
  | nil =>
    rw [List.mapM_nil, List.map_nil, @eq_comm _ [], List.map_eq_nil_iff]
    exact ⟨fun same => (Except.ok.inj same).symm, fun none => congrArg Except.ok none.symm⟩
  | cons value rest ih =>
    rw [List.mapM_cons]
    constructor
    · intro found
      cases first : attempt value with
      | error cause =>
        rw [first] at found
        cases found
      | ok result =>
        cases more : rest.mapM attempt with
        | error cause =>
          rw [first, more] at found
          cases found
        | ok later =>
          rw [first, more] at found
          obtain rfl := Except.ok.inj found
          rw [List.map_cons, List.map_cons, first, ih.mp more]
    · intro same
      cases results with
      | nil => cases same
      | cons result later =>
        obtain ⟨first, more⟩ := List.cons.inj same
        rw [first, ih.mpr more]
        rfl

/-- There are such results if each attempt succeeds, and only then: one
failure leaves no list. -/
theorem each_ok_iff {attempt : α → Except ε β} {values : List α} :
    (∃ results : List β, values.map attempt = results.map .ok) ↔
      ∀ value ∈ values, ∃ result, attempt value = .ok result := by
  have range := Set.ext_iff.mp (Set.range_list_map (Except.ok : β → Except ε β))
      (values.map attempt)
  simpa only [Set.mem_range, Set.mem_ofPred_eq, List.forall_mem_map, eq_comm] using range

namespace Rosetta

open Program

/-- The node is synced, it knows a head, and the same messages are pending whenever
it is asked for them. -/
structure Pends (node : Node) (pending : List SignedMessage) : Prop where
  synced : Chain.Synced node
  head : ∀ past, ∃ head, node.answer past .chainHead = .ok head
  told : ∀ past key, node.answer past (.pendingMessages key) = .ok pending

/-- The first of some messages that goes by an identifier. -/
structure FirstBy (pending : List SignedMessage) (wanted : Cid) (signed : SignedMessage) :
    Prop where
  identified : signed.identity = .ok wanted
  first : ∃ before after, pending = before ++ signed :: after ∧
    ∀ earlier ∈ before, earlier.identity ≠ .ok wanted

/-- The transaction is a debit of the sender and a credit of the receiver that
refers to it. Whether they take effect is open, and their amounts are opposite.
Their type and the accounts go by the names that the directory has for them. -/
structure Service.Describes (service : Service) (node : Node) (wanted : Cid) (message : Message)
    (transaction : Transaction) : Prop where
  hash : transaction.hash = wanted.text
  operations : ∃ first second third,
    let type := ((service.directory.methodName message.receiver message.method).run node first).1
    let sender := ((service.directory.canonicalOrOwnText message.sender).run node second).1
    let receiver := ((service.directory.canonicalOrOwnText message.receiver).run node third).1
    transaction.operations =
      [⟨0, none, type, none, sender, -message.value⟩,
       ⟨1, some 0, type, none, receiver, message.value⟩]

namespace Service

variable (service : Service) {node : Node} {pending : List SignedMessage}
  {network : Option NetworkIdentifier}
  {identifier : NetworkIdentifier}

/-- A pending message answers to a code exactly if its identity can be derived
and is that code. -/
theorem isIdentifiedBy_iff (wanted : Cid) (signed : SignedMessage) :
    isIdentifiedBy wanted signed = true ↔ signed.identity = .ok wanted := by
  unfold isIdentifiedBy
  cases signed.identity with
  | ok found => rw [beq_iff_eq, Except.ok.injEq]
  | error cause => exact ⟨(nomatch ·), (nomatch ·)⟩

/-- The first message that goes by an identifier is looked for, so of several with
one identifier the others are never told. -/
theorem find_iff {wanted : Cid} {signed : SignedMessage} :
    pending.find? (isIdentifiedBy wanted) = some signed ↔ FirstBy pending wanted signed := by
  have other (message : SignedMessage) :
      (!isIdentifiedBy wanted message) = true ↔ message.identity ≠ .ok wanted := by
    rw [Bool.not_eq_true', ← Bool.not_eq_true, isIdentifiedBy_iff]
  simp only [List.find?_eq_some_iff_append, isIdentifiedBy_iff, other]
  exact ⟨fun ⟨identified, first⟩ => ⟨identified, first⟩,
    fun found => ⟨found.identified, found.first⟩⟩

/-- The messages are got to, as the node is synced and tells them. The cache has
no part in it. -/
theorem pendingMessages_run (pends : Pends node pending) (session : Session) :
    ∃ later, pendingMessages.run.run node session = (.ok pending, later) := by
  have ofNode := Ground.ofNode_since node []
  have course :
      Course (.since node []) (PendingCall (.since node [])) (Ground.Late _ .blockNotSynced) _
      pendingMessages.run := Course.pendingMessages (fun _ _ asked => asked) fun _ isLate => isLate
  have tells (call : Node.Call) (site : CallSite) (asked : PendingCall (.since node []) call site) :
      node.Tells call := by
    cases asked with
    | progress => exact pends.synced.tells
    | head => exact pends.head
    | pending isHead => exact fun past => ⟨_, pends.told past _⟩
  obtain ⟨found, isOk, head, -, told⟩ :=
    (course.ended session).1.succeeds (fun _ => pends.synced.not_late ofNode) tells
  obtain ⟨past, answer⟩ := ofNode told
  obtain rfl := Except.ok.inj (answer.symm.trans (pends.told past head.key))
  exact ⟨_, Prod.ext isOk rfl⟩

/-! ## The list -/

/-- The list has the identifiers of all messages, in order. It is told only if
each message has one. -/
theorem mempool_ok_iff (pends : Pends node pending)
    (accepted : service.accept network = .ok identifier) (session : Session) (cids : List Cid) :
    ((service.mempool ⟨network, ()⟩).run.run node session).1 = .ok cids ↔
      pending.map SignedMessage.identity = cids.map .ok := by
  obtain ⟨later, reached⟩ := pendingMessages_run pends session
  unfold mempool
  rw [accepted, Endpoint.given_ok, run_attempt, reached, ← mapM_ok_iff]
  dsimp only
  cases pending.mapM SignedMessage.identity with
  | ok found =>
    change (Except.ok found : Except ServiceError (List Cid)) = .ok cids ↔ _
    rw [Except.ok.injEq, Except.ok.injEq]
  | error cause => exact ⟨(nomatch ·), (nomatch ·)⟩

/-! ## The look-up -/

/-- The look-up gets to the messages, whatever the text is that
denotes the identifier. -/
theorem mempoolTransaction_run (pends : Pends node pending)
    (accepted : service.accept network = .ok identifier) {hash : String} {wanted : Cid}
    (denotes : Cid.parse hash = .ok wanted) (session : Session) :
    ∃ later, ((service.mempoolTransaction ⟨network, hash⟩).run.run node session).1 =
      ((do
        let found ← Endpoint.demand .transactionNotFound wanted.text
          (pending.find? (isIdentifiedBy wanted))
        let transfer ← Endpoint.lift (service.pendingTransfer found.message)
        return ⟨wanted.text, operationsOf [transfer] none⟩ : Endpoint Transaction).run.run node
          later).1 := by
  obtain ⟨later, reached⟩ := pendingMessages_run pends session
  unfold mempoolTransaction wantedCid
  rw [accepted, Endpoint.given_ok]
  dsimp only
  rw [denotes]
  dsimp only
  rw [pure_bind, run_attempt, reached]
  exact ⟨later, rfl⟩

/-- If a pending message has the wanted identity, the first one that does is told.
The answer describes it under the code that was asked for. -/
theorem mempoolTransaction_found (pends : Pends node pending)
    (accepted : service.accept network = .ok identifier) {hash : String} {wanted : Cid}
    (denotes : Cid.parse hash = .ok wanted) {signed : SignedMessage}
    (found : FirstBy pending wanted signed) (session : Session) :
    ∃ transaction, ((service.mempoolTransaction ⟨network, hash⟩).run.run node session).1 =
      .ok transaction ∧
      service.Describes node wanted signed.message transaction := by
  obtain ⟨later, run⟩ := service.mempoolTransaction_run pends accepted denotes session
  rw [run, find_iff.mpr found, run_attempt, (Endpoint.demand_run _ _ _ _ _).1]
  dsimp only
  rw [run_attempt]
  unfold Endpoint.lift pendingTransfer
  rw [ExceptT.run_lift, map_eq_pure_bind, run_seq, run_seq, run_seq, run_seq]
  exact ⟨_, rfl, rfl, _, _, _, rfl⟩

/-- If no pending message has the wanted identity, the transaction is not found.
Messages whose identity cannot be derived are passed over. -/
theorem mempoolTransaction_missing (pends : Pends node pending)
    (accepted : service.accept network = .ok identifier) {hash : String} {wanted : Cid}
    (denotes : Cid.parse hash = .ok wanted)
    (missing : pending.find? (isIdentifiedBy wanted) = none) (session : Session) :
    ((service.mempoolTransaction ⟨network, hash⟩).run.run node session).1 =
      .error (.because .transactionNotFound wanted.text) := by
  obtain ⟨later, run⟩ := service.mempoolTransaction_run pends accepted denotes session
  rw [run, missing]
  rfl

/-! ## Both -/

/-- The list of pending messages and the look-up of one of them agree, however often
either was asked for before. -/
structure MempoolAgrees (node : Node) (pending : List SignedMessage)
    (network : Option NetworkIdentifier) : Prop where
  /-- There is a list exactly if every message has an identifier. -/
  listed : ∀ session,
    (∃ cids, ((service.mempool ⟨network, ()⟩).run.run node session).1 = .ok cids) ↔
    ∀ signed ∈ pending, ∃ cid, signed.identity = .ok cid
  /-- It has the identifiers in the order of the messages. -/
  inOrder : ∀ session cids, ((service.mempool ⟨network, ()⟩).run.run node session).1 = .ok cids →
    pending.map SignedMessage.identity = cids.map .ok
  /-- What is listed is found under its hash. -/
  refound : ∀ session cids later cid,
    ((service.mempool ⟨network, ()⟩).run.run node session).1 = .ok cids →
    cid ∈ cids → ∃ transaction,
      ((service.mempoolTransaction ⟨network, cid.text⟩).run.run node later).1 = .ok transaction ∧
        transaction.hash = cid.text
  /-- A text that denotes an identifier finds a transaction exactly if a
  message goes by it. -/
  found : ∀ session hash wanted, Cid.parse hash = .ok wanted →
    ((∃ transaction, ((service.mempoolTransaction ⟨network, hash⟩).run.run node session).1 =
      .ok transaction) ↔
      ∃ signed ∈ pending, signed.identity = .ok wanted)
  /-- The transaction is that of the first such message. -/
  described : ∀ session hash wanted transaction, Cid.parse hash = .ok wanted →
    ((service.mempoolTransaction ⟨network, hash⟩).run.run node session).1 = .ok transaction →
    ∃ signed, FirstBy pending wanted signed ∧
      service.Describes node wanted signed.message transaction

/-- On a synced node whose pending messages stay the same, the list and the look-up
agree. An identifier that is listed finds a transaction, and one that is found is
listed if there is a list at all. A message without identifier spoils the list,
while the look-up passes it over. -/
theorem mempool_agrees (pends : Pends node pending)
    (accepted : service.accept network = .ok identifier) :
    service.MempoolAgrees node pending network := by
  have inOrder := service.mempool_ok_iff pends accepted
  have found {hash : String} {wanted : Cid} (denotes : Cid.parse hash = .ok wanted)
      (session : Session)
      (some : ∃ signed ∈ pending, signed.identity = .ok wanted) :
      ∃ signed, FirstBy pending wanted signed ∧ ∃ transaction,
        ((service.mempoolTransaction ⟨network, hash⟩).run.run node session).1 = .ok transaction ∧
          service.Describes node wanted signed.message transaction := by
    obtain ⟨signed, member, identified⟩ := some
    have isSome : (pending.find? (isIdentifiedBy wanted)).isSome = true :=
      List.find?_isSome.mpr ⟨signed, member, (isIdentifiedBy_iff wanted signed).mpr identified⟩
    obtain ⟨first, isFirst⟩ := Option.isSome_iff_exists.mp isSome
    have found := find_iff.mp isFirst
    exact ⟨first, found, service.mempoolTransaction_found pends accepted denotes found session⟩
  have sought {hash : String} {wanted : Cid} (denotes : Cid.parse hash = .ok wanted)
      (session : Session)
      {transaction : Transaction}
      (isOk : ((service.mempoolTransaction ⟨network, hash⟩).run.run node session).1 =
        .ok transaction) :
      ∃ signed ∈ pending, signed.identity = .ok wanted := by
    cases first : pending.find? (isIdentifiedBy wanted) with
    | some signed => exact ⟨signed, List.mem_of_find?_eq_some first, (find_iff.mp first).identified⟩
    | none =>
      rw [service.mempoolTransaction_missing pends accepted denotes first] at isOk
      cases isOk
  constructor
  case listed =>
    intro session
    rw [← each_ok_iff]
    exact exists_congr (inOrder session)
  case inOrder => exact fun session cids => (inOrder session cids).mp
  case refound =>
    intro session cids later cid isOk listed
    have isResult : Except.ok cid ∈ pending.map SignedMessage.identity := by
      rw [(inOrder session cids).mp isOk]
      exact List.mem_map_of_mem listed
    obtain ⟨signed, member, identified⟩ := List.mem_map.mp isResult
    obtain ⟨first, -, transaction, isOk, describes⟩ :=
      found (Cid.parse_display cid) later ⟨signed, member, identified⟩
    exact ⟨transaction, isOk, describes.hash⟩
  case found =>
    intro session hash wanted denotes
    exact ⟨fun ⟨_, isOk⟩ => sought denotes session isOk, fun some =>
      have ⟨_, _, transaction, isOk, _⟩ := found denotes session some
      ⟨transaction, isOk⟩⟩
  case described =>
    intro session hash wanted transaction denotes isOk
    obtain ⟨signed, isFirst, other, isOther, describes⟩ :=
      found denotes session (sought denotes session isOk)
    obtain rfl := Except.ok.inj (isOk.symm.trans isOther)
    exact ⟨signed, isFirst, describes⟩

end Service

/-! ## A message without identifier among others -/

namespace Spoiled

/-- The service, which knows no codes. -/
def service : Service := ⟨⟨[]⟩, "calibnet", ⟨false, false⟩⟩

/-- The network of the requests. -/
def network : NetworkIdentifier := ⟨blockchainName, "calibnet", none⟩

/-- The empty code of the sample is short enough. -/
theorem cid_length_le : ([] : Bytes).length ≤ 64 := by
  decide

/-- The identifier of the message that has one. -/
def cid : Cid := .v1 Cid.rawCodec ⟨Cid.identityCode, [], cid_length_le⟩

/-- A payment from one actor to another. -/
def payment : Message := ⟨0, .id 102, .id 101, 0, ⟨5⟩, 0, 0, 0, 0, [], none⟩

/-- The payment with a signature that identifiers cannot be derived from. -/
def unidentified : SignedMessage := ⟨payment, ⟨Signature.delegated, []⟩, none⟩

/-- The payment with the same signature and an identifier. -/
def identified : SignedMessage := ⟨payment, ⟨Signature.delegated, []⟩, some cid⟩

/-- A synced node with both pending. -/
def node : Node := .constant fun
  | .syncState => .ok ⟨[⟨1, none, some ⟨.empty, [], 0⟩, .complete, 0, ""⟩], 0⟩
  | .chainHead => .ok ⟨.empty, [], 0⟩
  | .pendingMessages _ => .ok [unidentified, identified]
  | _ => .error .unreachable

/-- The sample node is synced and tells one message with an
identity and one without. -/
theorem pends : Pends node [unidentified, identified] where
  synced _ := ⟨_, _, rfl, rfl, rfl⟩
  head _ := ⟨_, rfl⟩
  told _ _ := rfl

/-- The sample request is for the network that is served. -/
theorem accepted : service.accept (some network) = .ok network := by
  rfl

end Spoiled

namespace Service

/-- The message without identifier spoils the list. The other one
is found nevertheless. -/
theorem spoiled_agrees :
    (¬ ∃ cids,
      ((Spoiled.service.mempool ⟨some Spoiled.network, ()⟩).run.run Spoiled.node .fresh).1 =
        .ok cids) ∧
      ∃ transaction,
        ((Spoiled.service.mempoolTransaction ⟨some Spoiled.network, Spoiled.cid.text⟩).run.run
        Spoiled.node .fresh).1 = .ok transaction := by
  have agrees := Spoiled.service.mempool_agrees Spoiled.pends Spoiled.accepted
  constructor
  · rw [agrees.listed]
    intro each
    obtain ⟨cid, isOk⟩ := each _ (List.mem_cons_self ..)
    cases isOk
  · rw [agrees.found .fresh _ Spoiled.cid (Cid.parse_display Spoiled.cid)]
    exact ⟨Spoiled.identified, List.mem_cons_of_mem _ (List.mem_singleton_self _), rfl⟩

end Service

end Rosetta

end FilecoinRosetta
