import FilecoinRosetta.Proofs.Rosetta.LookUps
import FilecoinRosetta.Proofs.Transaction.Shape

/-!
# Types of operations

Clients are told beforehand of which types operations may be. Operations of
executed messages are of these types, since calls of other methods move nothing.
Operations of pending messages are of whatever type the method of the message goes
by, announced or not.
-/

namespace FilecoinRosetta

open Program

/-- The types of some operations are announced. -/
def Rosetta.Announced (operations : List Operation) : Prop :=
  ∀ operation ∈ operations, operation.type ∈ operationTypes

/-- Operations are of announced types exactly if each type that they have is
one of the list. -/
theorem Rosetta.announced_iff (operations : List Operation) :
    Announced operations ↔ ∀ type ∈ operations.map Operation.type, type ∈ operationTypes :=
  List.forall_mem_map.symm

namespace Transfer

/-- Operations have the types of the transfers they are made of,
both of each pair. -/
theorem operations_typed {types : List String} (index : Nat) (transfers : List Transfer)
    (typed : ∀ transfer ∈ transfers, transfer.type ∈ types) :
    ∀ operation ∈ operationsFrom index transfers, operation.type ∈ types := by
  induction transfers generalizing index with
  | nil => exact List.forall_mem_nil _
  | cons transfer rest ih =>
    rw [List.forall_mem_cons] at typed
    simp only [operationsFrom, List.forall_mem_cons]
    exact ⟨typed.1, typed.1, ih (index + 2) typed.2⟩

end Transfer

namespace Directory

open Rosetta

/-- What was recorded of an execution is of announced types: those of transfers, and
that of the fee. -/
theorem recorded_announced {invocation : Invocation} {operations : List Operation}
    (recorded : Recorded invocation operations) : Announced operations := by
  rcases recorded with rfl | ⟨transfers, fee, -, executed, -, rfl⟩
  · exact List.forall_mem_nil _
  · have moved : Announced (Transfer.operationsFrom 0 transfers) := by
      apply Transfer.operations_typed
      intro transfer member
      have named := (executed transfer member).named
      simp only [Movement.transferNames, operationTypes, List.mem_append, List.mem_cons] at named ⊢
      rcases named with pays | isPropose | isSwap | impossible
      · exact .inl pays
      · exact .inr (.inl isPropose)
      · exact .inr (.inr (.inl isSwap))
      · exact nomatch impossible
    cases fee with
    | none => exact moved
    | some fee =>
      have isAnnounced : Fee.typeName ∈ operationTypes := by decide
      exact List.forall_mem_append.mpr ⟨moved, List.forall_mem_singleton.mpr isAnnounced⟩

/-- The transactions of executions are of announced types, whatever
the node answers. -/
theorem transactions_announced (directory : Directory) (invocations : List Invocation) :
    Ensures (directory.transactions invocations) fun transactions =>
      ∀ transaction ∈ transactions, Announced transaction.operations := by
  induction invocations with
  | nil => exact .result (List.forall_mem_nil _)
  | cons invocation rest ih =>
    refine (directory.operations_recorded invocation).seq ?_
    intro operations recorded
    refine ih.seq ?_
    intro later announced
    cases operations with
    | nil => exact .result announced
    | cons first more =>
      exact .result (List.forall_mem_cons.mpr ⟨recorded_announced recorded, announced⟩)

end Directory

namespace Rosetta.Service

variable (service : Service) {node : Node}

/-- The transactions of a tipset are of announced types, since an operation has the
name of a method that is announced, or is a fee. -/
theorem executed_announced {kept : AddressCache → Prop} {directory : Directory} {tipset : Tipset}
    {transactions : List Transaction} {made : List Node.Call}
    (executed : TransactionsFound (.on node kept directory) directory tipset transactions made) :
    ∀ transaction ∈ transactions, Announced transaction.operations := by
  cases executed with
  | first isFirst => exact List.forall_mem_nil _
  | @executed key state transactions sought child computed finds =>
    obtain ⟨⟨session, -, rfl⟩, -⟩ := finds
    exact directory.transactions_announced state.invocations node session

/-- The transactions of a block are of announced types, whatever
selects the block. -/
theorem block_announced (request : Request BlockSelector) :
    Grants node (service.block request) fun found => ∀ block, found = some block →
      ∀ transaction ∈ block.transactions, Announced transaction.operations := by
  have course :
      Course (.on node (fun _ => True) service.directory) _ _ _ (service.block request).run :=
    Course.block service request fun invocations _ inherited => inherited.transactions invocations
  rintro session _ isOk block rfl
  obtain ⟨made, found⟩ := course.grants session _ isOk
  cases found with
  | block isIndex isFound isMade =>
    obtain ⟨parent, parentCalls, executionCalls, -, executed, -, -⟩ := isMade.found
    exact executed_announced executed

/-- A transaction of a block is of announced types, as it is one of
those of the block. -/
theorem blockTransaction_announced (request : Request TransactionQuery) :
    Grants node (service.blockTransaction request) fun transaction =>
      Announced transaction.operations := by
  have course :
      Course (.on node (fun _ => True) service.directory) _ _ _
        (service.blockTransaction request).run :=
    Course.blockTransaction service request fun invocations _ inherited =>
      inherited.transactions invocations
  intro session transaction isOk
  obtain ⟨-, found⟩ := course.grants session transaction isOk
  obtain ⟨tipset, made, transactions, more, -, executed, isFirst⟩ := found.found
  exact executed_announced executed transaction (List.mem_of_find?_eq_some isFirst)

/-- The name that the method of a message goes by, as it is
resolved at some time. -/
def GoesBy (node : Node) (message : Message) (name : String) : Prop :=
  ∃ earlier, name =
    ((service.directory.methodName message.receiver message.method).run node earlier).1

/-- The transfer of a pending message is of the type that its method goes by. -/
theorem pendingTransfer_typed (message : Message) (node : Node) (session : Session) :
    service.GoesBy node message ((service.pendingTransfer message).run node session).1.type := by
  refine ⟨session, ?_⟩
  unfold pendingTransfer
  rw [run_seq, run_seq, run_seq]
  rfl

/-- Both operations of a pending message are of the type that its method goes by. -/
theorem mempoolTransaction_typed (request : Request String) :
    Grants node (service.mempoolTransaction request) fun transaction =>
      ∃ past key pending signed name, node.answer past (.pendingMessages key) = .ok pending ∧
        signed ∈ pending ∧ service.GoesBy node signed.message name ∧
        transaction.operations.map Operation.type = [name, name] := by
  have course : Course (.on node (fun _ => True) service.directory) _ _ _
      (service.mempoolTransaction request).run :=
    Course.mempoolTransaction service request (Course.pendingTransfer_looksUp service)
  intro session transaction isOk
  obtain ⟨-, found⟩ := course.grants session transaction isOk
  cases found with
  | @intro wanted pending signed transfer sought denotes isPending isFirst finds =>
    obtain ⟨head, -, past, answer⟩ := isPending
    obtain ⟨⟨earlier, -, rfl⟩, -⟩ := finds
    have named := service.pendingTransfer_typed signed.message node earlier
    exact ⟨past, head.key, pending, signed, _, answer,
      List.mem_of_find?_eq_some isFirst, named, rfl⟩

/-- Operations of blocks are of announced types, on every node and whatever was
requested before. Those of a pending message are so exactly if its method goes by an
announced name, as a pending message is told by whatever name its method has. -/
theorem types_told :
    (∀ request, Grants node (service.block request) fun found => ∀ block, found = some block →
      ∀ transaction ∈ block.transactions, Announced transaction.operations) ∧
    (∀ request, Grants node (service.blockTransaction request) fun transaction =>
      Announced transaction.operations) ∧
    ∀ request, Grants node (service.mempoolTransaction request) fun transaction =>
      ∃ past key pending signed name, node.answer past (.pendingMessages key) = .ok pending ∧
        signed ∈ pending ∧ service.GoesBy node signed.message name ∧
        transaction.operations.map Operation.type = [name, name] ∧
        (Announced transaction.operations ↔ name ∈ operationTypes) := by
  refine ⟨service.block_announced, service.blockTransaction_announced, ?_⟩
  intro request session transaction isOk
  obtain ⟨past, key, pending, signed, name, answer, isPending, named, typed⟩ :=
    service.mempoolTransaction_typed request session transaction isOk
  refine ⟨past, key, pending, signed, name, answer, isPending, named, typed, ?_⟩
  rw [announced_iff, typed, List.forall_mem_cons, List.forall_mem_singleton, and_self]

end Rosetta.Service

/-! ## A pending message of an unannounced type -/

namespace Rosetta.Service.Unannounced

/-- The service, which knows no codes. -/
def service : Service := ⟨⟨[]⟩, "calibnet", ⟨false, false⟩⟩

/-- The empty code of the sample is short enough. -/
theorem cid_length_le : ([] : Bytes).length ≤ 64 := by
  decide

/-- The identifier of the message. -/
def cid : Cid := .v1 Cid.rawCodec ⟨Cid.identityCode, [], cid_length_le⟩

/-- A message of method 1. -/
def message : SignedMessage :=
  ⟨⟨0, .id 102, .id 101, 0, ⟨5⟩, 0, 0, 0, 1, [], none⟩, ⟨Signature.secp256k1, []⟩, some cid⟩

/-- A node with the message pending. -/
def node : Node := .constant fun
  | .syncState => .ok ⟨[⟨1, none, some ⟨.empty, [], 0⟩, .complete, 0, ""⟩], 0⟩
  | .chainHead => .ok ⟨.empty, [], 0⟩
  | .pendingMessages _ => .ok [message]
  | _ => .error .unreachable

/-- The question for the message. -/
def request : Request String := ⟨some ⟨blockchainName, "calibnet", none⟩, cid.text⟩

end Rosetta.Service.Unannounced

namespace Rosetta.Service

/-- A pending message of method 1 has operations of a type that is not announced. -/
theorem constructor_unannounced :
    ∃ transaction, ((Unannounced.service.mempoolTransaction Unannounced.request).run.run
        Unannounced.node .fresh).1 = .ok transaction ∧
      transaction.operations.map Operation.type = ["Constructor", "Constructor"] ∧
      ¬ Announced transaction.operations := by
  have told : ((Unannounced.service.mempoolTransaction Unannounced.request).run.run
      Unannounced.node .fresh).1.toOption.map (fun transaction =>
        transaction.operations.map Operation.type) = some ["Constructor", "Constructor"] := by
    decide +kernel
  obtain ⟨transaction, isOk, typed⟩ := Option.map_eq_some_iff.mp told
  refine ⟨transaction, ?_, typed, ?_⟩
  · cases found : ((Unannounced.service.mempoolTransaction Unannounced.request).run.run
        Unannounced.node .fresh).1 with
    | ok value =>
      rw [found] at isOk
      rw [Option.some.inj isOk]
    | error cause =>
      rw [found] at isOk
      exact nomatch isOk
  · rw [announced_iff, typed, List.forall_mem_cons]
    rintro ⟨isAnnounced, -⟩
    exact absurd isAnnounced (by decide)

end Rosetta.Service

end FilecoinRosetta
