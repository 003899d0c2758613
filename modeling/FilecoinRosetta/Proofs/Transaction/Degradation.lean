import FilecoinRosetta.Proofs.Directory.Faults
import FilecoinRosetta.Proofs.Transaction.CallOrder
import FilecoinRosetta.Proofs.Transaction.Shape
import Mathlib.Data.List.Forall2

/-!
# Transactions of a node with faults

Where look-ups fail, less is told and nothing else. Transactions are left out, and
pairs of others, and accounts go by the address that the call named them by. What is
told of a movement is what would have been told of it without faults: its type, its
status and its amounts. The fee stays what it was.
-/

namespace FilecoinRosetta

/-- What is left of two lists is left of both together, which carries degradation
from one part to the next. -/
theorem sublistForall₂_append {α β : Type} {relation : α → β → Prop} {first later : List α}
    {whole wholeLater : List β} (left : List.SublistForall₂ relation first whole)
    (leftLater : List.SublistForall₂ relation later wholeLater) :
    List.SublistForall₂ relation (first ++ later) (whole ++ wholeLater) := by
  obtain ⟨kept, related, part⟩ := List.sublistForall₂_iff.mp left
  obtain ⟨keptLater, relatedLater, partLater⟩ := List.sublistForall₂_iff.mp leftLater
  exact List.sublistForall₂_iff.mpr
    ⟨kept ++ keptLater, List.rel_append related relatedLater, part.append partLater⟩

namespace Directory

/-! ## What is told without faults -/

section

variable (directory : Directory) (answers : Node.Answers)

/-- The transfers of movements of one type and status, each behind the
movement that it tells. -/
def told (type : String) (status : OperationStatus) (movements : List Movement) :
    List (Movement × Transfer) :=
  movements.filterMap fun movement =>
    (directory.accountsOf? answers movement).map fun (sender, receiver) =>
      (movement, ⟨type, some status, sender, receiver, movement.value⟩)

/-- The transfers of one call, its own calls apart. -/
def toldOfCall (call : CallTrace) (result : ReturnTrace) : List (Movement × Transfer) :=
  let name := directory.nameOf answers call.receiver call.method
  directory.told answers name (.ofSuccess result.isSuccess) (Movement.ofCall name call result)

/-- The transfers of an execution. -/
def toldOf (invocation : Invocation) : List (Movement × Transfer) :=
  match invocation.trace with
  | none => []
  | some root => root.calls.flatMap fun (call, result) => directory.toldOfCall answers call result

/-- The fee of an execution, unless it was free. -/
def feeOf (invocation : Invocation) : Option Fee :=
  let cost := invocation.gasCost.totalCost
  if cost.atto = 0 then none
  else some ⟨directory.accountOf answers invocation.message.sender, cost⟩

/-- The transactions of executions, each behind its execution. One that tells
nothing has none. -/
def toldTransactions (invocations : List Invocation) : List (Invocation × Transaction) :=
  invocations.filterMap fun invocation =>
    if directory.toldOf answers invocation = [] then none
    else some (invocation, ⟨invocation.messageCid.text, operationsOf
      ((directory.toldOf answers invocation).map Prod.snd) (directory.feeOf answers invocation)⟩)

end

variable {directory : Directory} {node : Node} {answers : Node.Answers}

/-- The transfers of a call are its pairs, each told together with the movement
that it is of. -/
theorem toldOfCall_pairs (call : CallTrace) (result : ReturnTrace) :
    (directory.toldOfCall answers call result).map Prod.snd =
      directory.pairsOfCall answers call result := by
  rw [pairsOfCall_movements]
  dsimp only [toldOfCall, told]
  generalize Movement.ofCall _ call result = movements
  induction movements with
  | nil => rfl
  | cons movement rest ih =>
    rw [List.filterMap_cons, List.flatMap_cons, ← ih, pairOf_accounts]
    cases directory.accountsOf? answers movement <;> rfl

/-- The transfers of an execution are the pairs of its trace, so what is told with
movements is what the recursion tells. -/
theorem toldOf_pairs {invocation : Invocation} {root : ExecutionTrace}
    (isTrace : invocation.trace = some root) :
    (directory.toldOf answers invocation).map Prod.snd = directory.pairsOfTrace answers root := by
  simp only [toldOf, isTrace, pairsOfTrace_calls, List.map_flatMap, toldOfCall_pairs]

/-- The operations that the recursion gives are those of the transfers with
the fee behind them. -/
theorem operationsByRecursion_told (invocation : Invocation) :
    directory.operationsByRecursion answers invocation =
      if directory.toldOf answers invocation = [] then []
      else operationsOf ((directory.toldOf answers invocation).map Prod.snd)
        (directory.feeOf answers invocation) := by
  unfold operationsByRecursion
  cases isTrace : invocation.trace with
  | none => simp [toldOf, isTrace]
  | some root =>
    have moved (pairs : List Transfer) : numbered pairs = Transfer.operationsFrom 0 pairs :=
      (operationsFrom_numbered pairs 0).symm
    dsimp only
    rw [← toldOf_pairs isTrace, moved]
    cases directory.toldOf answers invocation with
    | nil => rfl
    | cons first rest =>
      by_cases free : invocation.gasCost.totalCost.atto = 0
      · simp [feeOf, free, operationsOf]
      · simp [feeOf, free, operationsOf, operationsFrom_length, Fee.operation, Fee.typeName]

/-- The transactions that the recursion gives are those told without faults. -/
theorem transactionsByRecursion_told (invocations : List Invocation) :
    directory.transactionsByRecursion answers invocations =
      (directory.toldTransactions answers invocations).map Prod.snd := by
  unfold transactionsByRecursion toldTransactions
  rw [List.map_filterMap]
  congr 1
  funext invocation
  rw [operationsByRecursion_told]
  cases directory.toldOf answers invocation with
  | nil => simp
  | cons first rest => simp [operationsOf, Transfer.operationsFrom]; split <;> simp

/-- Transactions are told in the order of executions. Some executions have none,
as they move nothing. -/
theorem toldTransactions_part (invocations : List Invocation) :
    ((directory.toldTransactions answers invocations).map Prod.fst).Sublist invocations := by
  induction invocations with
  | nil => exact .slnil
  | cons invocation rest ih =>
    unfold toldTransactions
    rw [List.filterMap_cons]
    split
    · exact ih.cons invocation
    · rename_i told isTold
      split at isTold
      · exact nomatch isTold
      · obtain rfl := Option.some.inj isTold
        exact ih.cons_cons invocation

/-! ## What faults leave -/

open Program

/-- A transfer that tells of a movement what is told of it without faults. Either
account may go by the address itself instead. -/
structure Blurs (directory : Directory) (part : Transfer) (whole : Movement × Transfer) : Prop where
  type : part.type = whole.2.type
  status : part.status = whole.2.status
  value : part.value = whole.2.value
  /-- The payer goes by its account or by its address. -/
  sender : part.sender = whole.2.sender ∨ part.sender = whole.1.sender.text directory.network
  /-- The payee goes by its account or by its address. -/
  receiver : part.receiver = whole.2.receiver ∨
    part.receiver = whole.1.receiver.text directory.network

/-- The transfers of calls without faults. -/
def toldOfCalls (directory : Directory) (answers : Node.Answers)
    (calls : List (CallTrace × ReturnTrace)) : List (Movement × Transfer) :=
  calls.flatMap fun (call, result) => directory.toldOfCall answers call result

section

variable (honest : ∀ address, node.HonestAt answers address)

include honest

/-- Where accounts are found they are told without faults as well, and each goes by
what it may go by. -/
theorem accounts_degrade (movement : Movement) :
    Meets node (directory.Coherent node answers) (directory.accounts? movement) fun found _ =>
      ∀ sender receiver, found = some (sender, receiver) →
        directory.accountsOf? answers movement = some
          (directory.accountOf answers movement.sender,
            directory.accountOf answers movement.receiver) ∧
        directory.MayGoBy answers movement.sender sender ∧
        directory.MayGoBy answers movement.receiver receiver := by
  apply (canonicalText_honest (honest movement.sender)).seq
  intro sender _ senderKey
  apply (canonicalText_honest (honest movement.receiver)).seq
  intro receiver _ receiverKey
  cases sender with
  | ok sender =>
    have resolves : directory.accountsOf? answers movement = some
        (directory.accountOf answers movement.sender,
          directory.accountOf answers movement.receiver) := by
      rw [accountsOf?, senderKey sender rfl]
    cases receiver with
    | ok receiver =>
      apply Meets.result
      rintro _ _ ⟨⟩
      exact ⟨resolves, mayGoBy_key (senderKey sender rfl), mayGoBy_key (receiverKey receiver rfl)⟩
    | error cause =>
      apply Meets.result
      rintro _ _ ⟨⟩
      exact ⟨resolves, mayGoBy_key (senderKey sender rfl), mayGoBy_own⟩
  | error cause =>
    cases receiver with
    | ok receiver =>
      apply Meets.result
      rintro _ _ ⟨⟩
      refine ⟨?_, mayGoBy_own, mayGoBy_key (receiverKey receiver rfl)⟩
      rw [accountsOf?, receiverKey receiver rfl]
      cases directory.keyOf answers movement.sender <;> rfl
    | error other =>
      apply Meets.result
      rintro _ _ ⟨⟩

/-- Of movements with a name and a status, some are told: those of which an address
is found, with the accounts that it may go by. -/
theorem transfers_degrade (type : String) (status : OperationStatus) (movements : List Movement) :
    Meets node (directory.Coherent node answers) (directory.transfers type status movements)
      fun found _ => List.SublistForall₂ directory.Blurs found
        (directory.told answers type status movements) := by
  induction movements with
  | nil => exact Meets.result .nil
  | cons movement rest ih =>
    apply (accounts_degrade honest movement).seq
    intro names _ namesTold
    apply ih.seq
    intro later _ laterTold
    have skipped : List.SublistForall₂ directory.Blurs later
        (directory.told answers type status (movement :: rest)) := by
      rw [told, List.filterMap_cons]
      cases directory.accountsOf? answers movement with
      | none => exact laterTold
      | some accounts => exact .cons_right laterTold
    cases names with
    | none => exact Meets.result skipped
    | some names =>
      obtain ⟨sender, receiver⟩ := names
      obtain ⟨resolves, senderName, receiverName⟩ := namesTold sender receiver rfl
      apply Meets.result
      rw [told, List.filterMap_cons, resolves]
      exact .cons ⟨rfl, rfl, rfl, senderName, receiverName⟩ laterTold

/-- Of a call some transfers are told. A method without a name transfers nothing. -/
theorem ownTransfers_degrade (call : CallTrace) (result : ReturnTrace) :
    Meets node (directory.Coherent node answers) (directory.ownTransfers call result) fun found _ =>
      List.SublistForall₂ directory.Blurs found (directory.toldOfCall answers call result) := by
  apply (methodName_honest (honest call.receiver) call.method).seq
  rintro name _ (rfl | rfl)
  · exact transfers_degrade honest _ _ _
  · have still : Movement.ofCall Actor.unknownName call result = [] := by
      apply List.eq_nil_iff_forall_not_mem.mpr
      intro movement moves
      exact absurd (Movement.movement_named _ _ _ movement moves) (by decide)
    rw [still]
    exact Meets.result .nil

/-- The visit finds some transfers of the calls that are still pending,
behind those found before. -/
theorem visit_degrade (pending : List ExecutionTrace) (found : List Transfer) :
    Meets node (directory.Coherent node answers) (directory.visit pending found) fun transfers _ =>
      ∃ later, transfers = found.reverse ++ later ∧ List.SublistForall₂ directory.Blurs later
        (directory.toldOfCalls answers (ExecutionTrace.callsOfAll pending)) := by
  induction pending, found using visit.induct with
  | case1 found =>
    rw [visit]
    exact Meets.result ⟨[], (List.append_nil _).symm, .nil⟩
  | case2 call result subcalls rest found ih =>
    rw [visit]
    apply (ownTransfers_degrade honest call result).seq
    intro own _ ownTold
    apply (ih own).weaken
    rintro transfers _ ⟨later, rfl, laterTold⟩
    refine ⟨own ++ later, by simp, ?_⟩
    have split : directory.toldOfCalls answers
        (ExecutionTrace.callsOfAll (.node call result subcalls :: rest)) =
        directory.toldOfCall answers call result ++
          directory.toldOfCalls answers (ExecutionTrace.callsOfAll (subcalls ++ rest)) := by
      simp [toldOfCalls, ExecutionTrace.callsOfAll, ExecutionTrace.calls,
        ExecutionTrace.callsOfAll_append]
    rw [split]
    exact sublistForall₂_append ownTold laterTold

end

/-- A fee of the same cost, paid by what the sender may go by. -/
structure FeeBlurs (directory : Directory) (invocation : Invocation) (part whole : Fee) : Prop where
  cost : part.cost = whole.cost
  /-- The payer goes by its account or by its address. -/
  account : part.account = whole.account ∨
    part.account = invocation.message.sender.text directory.network

/-- A transaction that is what is left of the one told of an execution without
faults: some of its transfers, each as it was but for accounts, and the same fee. -/
structure LeftOf (directory : Directory) (answers : Node.Answers) (part : Transaction)
    (whole : Invocation × Transaction) : Prop where
  hash : part.hash = whole.2.hash
  /-- Both are made of transfers and a fee alike. -/
  parts : ∃ transfers fee, part.operations = operationsOf transfers fee ∧ transfers ≠ [] ∧
    whole.2.operations = operationsOf ((directory.toldOf answers whole.1).map Prod.snd)
      (directory.feeOf answers whole.1) ∧
    List.SublistForall₂ directory.Blurs transfers (directory.toldOf answers whole.1) ∧
    Option.Rel (directory.FeeBlurs whole.1) fee (directory.feeOf answers whole.1)

section

variable (honest : ∀ address, node.HonestAt answers address)

include honest

/-- The fee is what it was, but for its account, which may be the text
of the address itself. -/
theorem fee_degrade (invocation : Invocation) :
    Meets node (directory.Coherent node answers) (directory.fee? invocation) fun found _ =>
      Option.Rel (directory.FeeBlurs invocation) found (directory.feeOf answers invocation) := by
  unfold fee? feeOf
  by_cases free : invocation.gasCost.totalCost.atto = 0
  · have isZero : invocation.gasCost.totalCost.isZero = true := beq_iff_eq.mpr free
    rw [if_pos isZero, if_pos free]
    exact Meets.result .none
  · have notZero : ¬ invocation.gasCost.totalCost.isZero = true :=
      fun equal => free (beq_iff_eq.mp equal)
    rw [if_neg notZero, if_neg free]
    apply (canonicalOrOwnText_honest (honest invocation.message.sender)).seq
    intro account _ named
    exact Meets.result (.some ⟨rfl, named⟩)

/-- The operations of an execution are none, or those of some of its
transfers with its fee. -/
theorem operations_degrade (invocation : Invocation) :
    Meets node (directory.Coherent node answers) (directory.operations invocation) fun found _ =>
      found = [] ∨ ∃ transfers fee, found = operationsOf transfers fee ∧ transfers ≠ [] ∧
        List.SublistForall₂ directory.Blurs transfers (directory.toldOf answers invocation) ∧
        Option.Rel (directory.FeeBlurs invocation) fee (directory.feeOf answers invocation) := by
  unfold operations
  cases isTrace : invocation.trace with
  | none => exact Meets.result (.inl rfl)
  | some root =>
    apply (visit_degrade honest [root] []).seq
    rintro transfers _ ⟨_, rfl, later⟩
    have traceTold : List.SublistForall₂ directory.Blurs transfers
        (directory.toldOf answers invocation) := by
      simpa [toldOf, toldOfCalls, isTrace, ExecutionTrace.callsOfAll] using later
    cases transfers with
    | nil => exact Meets.result (.inl rfl)
    | cons first rest =>
      apply (fee_degrade honest invocation).seq
      intro fee _ feeTold
      exact Meets.result
        (.inr ⟨first :: rest, fee, rfl, List.cons_ne_nil first rest, traceTold, feeTold⟩)

/-- Some transactions are told, in their order, and of each what is left of it. -/
theorem transactions_degrade (invocations : List Invocation) :
    Meets node (directory.Coherent node answers) (directory.transactions invocations) fun found _ =>
      List.SublistForall₂ (directory.LeftOf answers) found
        (directory.toldTransactions answers invocations) := by
  induction invocations with
  | nil => exact Meets.result .nil
  | cons invocation rest ih =>
    apply (operations_degrade honest invocation).seq
    intro operations _ operationsTold
    apply ih.seq
    intro later _ laterTold
    have skipped : List.SublistForall₂ (directory.LeftOf answers) later
        (directory.toldTransactions answers (invocation :: rest)) := by
      unfold toldTransactions
      rw [List.filterMap_cons]
      split
      · exact laterTold
      · exact .cons_right laterTold
    rcases operationsTold with rfl | ⟨transfers, fee, rfl, moved, transfersTold, feeTold⟩
    · exact Meets.result skipped
    · have someTold : directory.toldOf answers invocation ≠ [] := by
        intro nothing
        rw [nothing] at transfersTold
        cases transfersTold
        exact moved rfl
      have nonempty : (operationsOf transfers fee).isEmpty = false := by
        cases transfers with
        | nil => exact absurd rfl moved
        | cons first more => cases fee <;> rfl
      rw [if_neg (by simp [nonempty])]
      apply Meets.result
      unfold toldTransactions
      rw [List.filterMap_cons, if_neg someTold]
      exact .cons ⟨rfl, transfers, fee, rfl, moved, rfl, transfersTold, feeTold⟩ laterTold

end

end Directory

/-! ## The service -/

namespace Rosetta.Service

/-- On a node that fails at look-ups where faults say so, and after any requests
or none, the transactions of executions are those told without faults with some
left out. Of each that is told the transfers are those told without faults with
some left out, and their types, statuses and amounts are the same, as is the fee.
An account is the one told without faults or the displayed address of the same
party of the call. -/
theorem faults_degrade (service : Service) (anyOrigin : Bool) (answers : Node.Answers)
    (faults : List Node.Event → Node.Call → Option Node.Failure) (earlier : List HttpRequest)
    (earlierSound : List HttpRequest) (invocations : List Invocation) :
    let directory := service.directory
    let sound := Node.constant answers
    let faulty := Node.faulty answers faults
    ∃ told : List (Invocation × Transaction),
      ((directory.transactions invocations).run sound
          (service.sessionAfter anyOrigin sound earlierSound)).1 = told.map Prod.snd ∧
        (told.map Prod.fst).Sublist invocations ∧
        List.SublistForall₂ (directory.LeftOf answers)
          ((directory.transactions invocations).run faulty
            (service.sessionAfter anyOrigin faulty earlier)).1 told := by
  intro directory sound faulty
  have soundCoherent := service.sessionAfter_coherent anyOrigin sound answers earlierSound
  have faultyCoherent := service.sessionAfter_coherent anyOrigin faulty answers earlier
  have steady (address : Address) := Node.constant_steady answers address
  have honest (address : Address) := Node.faulty_honest answers faults address
  refine ⟨directory.toldTransactions answers invocations, ?_, ?_, ?_⟩
  · rw [← Directory.transactionsByRecursion_told]
    exact (Directory.transactions_yield steady invocations _ soundCoherent).1
  · exact Directory.toldTransactions_part invocations
  · exact (Directory.transactions_degrade honest invocations _ faultyCoherent).1

end Rosetta.Service

end FilecoinRosetta
