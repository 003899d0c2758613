import FilecoinRosetta.Proofs.Program.Outcome
import FilecoinRosetta.Proofs.Text.Decimal
import FilecoinRosetta.TransactionHistory

/-!
# The shape of a transaction

Whatever a node answers, and whatever was learned of addresses before, the
operations of a transaction are linked pairs of a debit and a credit, with at most
one fee behind them. Positions count through, links point to the operation in front,
and all amounts together are what the fee takes away.
-/

namespace FilecoinRosetta

/-! ## Names of transfers -/

namespace Movement

/-- The types that a transfer may have. -/
def transferNames : List String :=
  payingNames ++ [proposeName, swapSignerName]

/-- No transfer has the type of a fee, so the fee can be told from the transfers. -/
theorem fee_not_transfer : Fee.typeName ∉ transferNames := by
  decide

/-- A call that moves anything is of a method that transfers, as all
other names move nothing. -/
theorem movement_named (name : String) (call : CallTrace) (result : ReturnTrace)
    (movement : Movement) (moves : movement ∈ ofCall name call result) :
    name ∈ transferNames := by
  unfold ofCall at moves
  split at moves
  · rename_i proposes
    subst proposes
    decide
  · split at moves
    · rename_i swaps
      subst swaps
      decide
    · split at moves
      · rename_i pays
        have listed : name ∈ payingNames := by
          have both := (Bool.and_eq_true _ _).mp pays
          exact List.contains_iff_mem.mp both.1
        exact List.mem_append_left _ listed
      · simp at moves

end Movement

namespace Transfer

/-- A transfer that came from an executed call: it is of a known type
and has an outcome. -/
structure Executed (transfer : Transfer) : Prop where
  /-- The type is one that transfers may have. -/
  named : transfer.type ∈ Movement.transferNames
  /-- The call succeeded or failed. -/
  settled : transfer.status = some .ok ∨ transfer.status = some .failed

end Transfer

namespace Directory

open Program

/-- Transfers come from movements and have the type and the status that
they are made with. -/
theorem transfers_made (directory : Directory) (type : String) (status : OperationStatus)
    (movements : List Movement) :
    Ensures (directory.transfers type status movements) fun transfers =>
      ∀ transfer ∈ transfers, transfer.type = type ∧ transfer.status = some status ∧
        ∃ movement ∈ movements, transfer.value = movement.value := by
  induction movements with
  | nil => exact .result (List.forall_mem_nil _)
  | cons movement rest ih =>
    refine Ensures.after _ ?_
    intro accounts
    refine ih.seq ?_
    intro later made
    have laterToo : ∀ transfer ∈ later, transfer.type = type ∧ transfer.status = some status ∧
        ∃ other ∈ movement :: rest, transfer.value = other.value := by
      intro transfer member
      obtain ⟨isType, isStatus, other, moves, value⟩ := made transfer member
      exact ⟨isType, isStatus, other, List.mem_cons_of_mem movement moves, value⟩
    cases accounts with
    | none => exact .result laterToo
    | some names =>
      refine Ensures.result ?_
      rw [List.forall_mem_cons]
      exact ⟨⟨rfl, rfl, movement, List.mem_cons_self, rfl⟩, laterToo⟩

/-- The transfers of a call are executed ones: of a type that transfers may have,
and told to have succeeded or failed. -/
theorem own_transfers_executed (directory : Directory) (call : CallTrace) (result : ReturnTrace) :
    Ensures (directory.ownTransfers call result) (∀ transfer ∈ ·, transfer.Executed) := by
  refine Ensures.after _ ?_
  intro name
  refine Ensures.weaken (directory.transfers_made name _ _) ?_
  intro transfers made transfer member
  obtain ⟨isType, isStatus, movement, moves, -⟩ := made transfer member
  constructor
  case named =>
    rw [isType]
    exact Movement.movement_named name call result movement moves
  case settled =>
    rw [isStatus]
    cases result.isSuccess with
    | true => exact .inl rfl
    | false => exact .inr rfl

/-- Visiting calls adds executed transfers to executed ones, whatever is still
to be visited. -/
theorem visit_executed (directory : Directory) (pending : List ExecutionTrace)
    (found : List Transfer) (before : ∀ transfer ∈ found, transfer.Executed) :
    Ensures (directory.visit pending found) (∀ transfer ∈ ·, transfer.Executed) := by
  induction pending, found using visit.induct with
  | case1 found =>
    rw [visit]
    refine Ensures.result ?_
    intro transfer member
    exact before transfer (List.mem_reverse.mp member)
  | case2 call result subcalls rest found ih =>
    rw [visit]
    refine (directory.own_transfers_executed call result).seq ?_
    intro own executed
    apply ih own
    intro transfer member
    rcases List.mem_append.mp member with member | member
    · exact executed transfer (List.mem_reverse.mp member)
    · exact before transfer member

/-- The fee of an execution: its total cost, unless that is nothing. -/
def FeeOf (invocation : Invocation) (fee : Option Fee) : Prop :=
  if invocation.gasCost.totalCost.atto = 0 then fee = none
  else ∃ account, fee = some ⟨account, invocation.gasCost.totalCost⟩

/-- Whether there is a fee does not depend on the node; only its account does. -/
theorem fee_exact (directory : Directory) (invocation : Invocation) :
    Ensures (directory.fee? invocation) (FeeOf invocation) := by
  by_cases free : invocation.gasCost.totalCost.atto = 0
  · have isNothing : FeeOf invocation none := by
      rw [FeeOf, if_pos free]
    have isZero : invocation.gasCost.totalCost.isZero = true := beq_iff_eq.mpr free
    rw [fee?, if_pos isZero]
    exact .result isNothing
  · have isZero : ¬ invocation.gasCost.totalCost.isZero = true :=
      fun equal => free (beq_iff_eq.mp equal)
    rw [fee?, if_neg isZero]
    refine Ensures.after _ ?_
    intro account
    have isCost : FeeOf invocation (some ⟨account, invocation.gasCost.totalCost⟩) := by
      rw [FeeOf, if_neg free]
      exact ⟨account, rfl⟩
    exact .result isCost

/-- The operations of an execution: none, or those of one transfer at least with
the fee behind them. -/
def Recorded (invocation : Invocation) (operations : List Operation) : Prop :=
  operations = [] ∨ ∃ transfers fee, transfers ≠ [] ∧ (∀ transfer ∈ transfers, transfer.Executed) ∧
    FeeOf invocation fee ∧ operations = operationsOf transfers fee

/-- Executions are recorded by transfers and a fee, the transfers in front. This is
the shape of every transaction of a block. -/
theorem operations_recorded (directory : Directory) (invocation : Invocation) :
    Ensures (directory.operations invocation) (Recorded invocation) := by
  unfold operations
  cases invocation.trace with
  | none => exact .result (.inl rfl)
  | some root =>
    refine (directory.visit_executed [root] [] (by simp)).seq ?_
    intro transfers executed
    cases transfers with
    | nil => exact .result (.inl rfl)
    | cons first rest =>
      refine (directory.fee_exact invocation).seq ?_
      intro fee isFee
      exact .result (.inr ⟨first :: rest, fee, List.cons_ne_nil first rest, executed, isFee, rfl⟩)

end Directory

/-! ## Pairs and fees -/

namespace Operation

/-- A debit and the credit that belongs to it, from a position
of a transaction on. -/
structure Pair (position : Nat) (debit credit : Operation) : Prop where
  /-- The debit stands at the position. -/
  debitIndex : debit.index = position
  /-- The credit follows it. -/
  creditIndex : credit.index = position + 1
  /-- The debit refers to nothing. -/
  debitAlone : debit.related = none
  /-- The credit refers to the debit and to nothing else. -/
  creditLinked : credit.related = some position
  /-- Both have one type. -/
  sameType : credit.type = debit.type
  /-- That type is not the one of fees. -/
  notFee : debit.type ≠ Fee.typeName
  /-- Both have one status. -/
  sameStatus : credit.status = debit.status
  /-- The call succeeded or failed. -/
  settled : debit.status = some .ok ∨ debit.status = some .failed
  /-- What one account loses the other one gains. -/
  opposite : debit.amount.atto = -credit.amount.atto

/-- Pairs one behind the other, from a position on. -/
inductive Pairs : (position : Nat) → List Operation → Prop where
  /-- No pair. -/
  | none (position : Nat) : Pairs position []
  /-- One pair and those behind it. -/
  | more {position : Nat} {debit credit : Operation} {rest : List Operation}
      (pair : Pair position debit credit) (later : Pairs (position + 2) rest) :
      Pairs position (debit :: credit :: rest)

/-- The operation that takes a cost away, at a position of a transaction. -/
structure Pays (position : Nat) (cost : TokenAmount) (operation : Operation) : Prop where
  /-- It stands at the position. -/
  atIndex : operation.index = position
  /-- It refers to nothing. -/
  alone : operation.related = none
  /-- It has the type of fees. -/
  isFee : operation.type = Fee.typeName
  /-- It is paid in any case. -/
  paid : operation.status = some .ok
  /-- Its value is the cost taken away. -/
  taken : operation.amount = -cost

/-- What a transaction ends with: nothing where its cost is nothing,
and else the fee. -/
def Closing (position : Nat) (cost : TokenAmount) (last : List Operation) : Prop :=
  if cost.atto = 0 then last = [] else ∃ operation, last = [operation] ∧
    Pays position cost operation

/-- All amounts together. -/
def total : List Operation → Int
  | [] => 0
  | operation :: rest => operation.amount.atto + total rest

/-- The values of two lists of operations add up. -/
theorem total_append (first second : List Operation) :
    total (first ++ second) = total first + total second := by
  induction first with
  | nil => simp only [List.nil_append, total, Int.zero_add]
  | cons operation rest ih => simp only [List.cons_append, total, ih, Int.add_assoc]

/-- The amounts of pairs cancel out, as each of them debits what it credits. -/
theorem Pairs.total_zero {position : Nat} {operations : List Operation}
    (pairs : Pairs position operations) : total operations = 0 := by
  induction pairs with
  | none position => rfl
  | more pair later ih =>
    have opposite := pair.opposite
    simp only [total, ih]
    omega

/-- Operations of pairs count through from the position on, and none of
them is a fee. -/
theorem Pairs.counted {position : Nat} {operations : List Operation}
    (pairs : Pairs position operations) (place : Nat) (operation : Operation)
    (found : operations[place]? = some operation) :
    operation.index = position + place ∧ operation.type ≠ Fee.typeName := by
  induction pairs generalizing place with
  | none position => simp at found
  | more pair later ih =>
    match place with
    | 0 =>
      obtain rfl := Option.some.inj found
      exact ⟨pair.debitIndex, pair.notFee⟩
    | 1 =>
      obtain rfl := Option.some.inj found
      exact ⟨pair.creditIndex, pair.sameType ▸ pair.notFee⟩
    | place + 2 =>
      obtain ⟨index, other⟩ := ih place found
      refine ⟨?_, other⟩
      rw [index]
      omega

/-- An operation stands among the pairs, or it is what the transaction ends with. -/
theorem place_cases {pairs last : List Operation} {cost : TokenAmount}
    (closing : Closing pairs.length cost last) {place : Nat} {operation : Operation}
    (found : (pairs ++ last)[place]? = some operation) :
    (place < pairs.length ∧ pairs[place]? = some operation ∧
        (place + 1 = (pairs ++ last).length → cost.atto = 0)) ∨
      (place + 1 = (pairs ++ last).length ∧ cost.atto ≠ 0 ∧ Pays place cost operation) := by
  rw [List.length_append]
  by_cases inPairs : place < pairs.length
  · rw [List.getElem?_append_left inPairs] at found
    refine .inl ⟨inPairs, found, ?_⟩
    intro ends
    by_cases free : cost.atto = 0
    · exact free
    · rw [Closing, if_neg free] at closing
      obtain ⟨fee, rfl, -⟩ := closing
      simp only [List.length_singleton] at ends
      omega
  · rw [List.getElem?_append_right (Nat.le_of_not_lt inPairs)] at found
    by_cases free : cost.atto = 0
    · rw [Closing, if_pos free] at closing
      subst closing
      simp at found
    · rw [Closing, if_neg free] at closing
      obtain ⟨fee, rfl, pays⟩ := closing
      have atEnd : place = pairs.length := by
        have bound := (List.getElem?_eq_some_iff.mp found).1
        simp only [List.length_singleton] at bound
        omega
      subst atEnd
      rw [Nat.sub_self] at found
      obtain rfl := Option.some.inj found
      exact .inr ⟨rfl, free, pays⟩

/-- The amount of what a transaction ends with is the cost taken away. -/
theorem Closing.total_exact {position : Nat} {cost : TokenAmount} {last : List Operation}
    (closing : Closing position cost last) : total last = -cost.atto := by
  by_cases free : cost.atto = 0
  · rw [Closing, if_pos free] at closing
    rw [closing, free]
    rfl
  · rw [Closing, if_neg free] at closing
    obtain ⟨operation, rfl, pays⟩ := closing
    rw [total, pays.taken]
    exact Int.add_zero _

end Operation

namespace Transfer

/-- The operations of executed transfers are pairs, numbered one after the other and
linked two by two. -/
theorem operations_paired (position : Nat) (transfers : List Transfer)
    (executed : ∀ transfer ∈ transfers, transfer.Executed) :
    Operation.Pairs position (operationsFrom position transfers) := by
  induction transfers generalizing position with
  | nil => exact .none position
  | cons transfer rest ih =>
    have first := executed transfer List.mem_cons_self
    have later := ih (position + 2) fun other member => executed other
        (List.mem_cons_of_mem _ member)
    refine .more ?_ later
    exact {
      debitIndex := rfl
      creditIndex := rfl
      debitAlone := rfl
      creditLinked := rfl
      sameType := rfl
      notFee := fun isFee => Movement.fee_not_transfer (isFee ▸ first.named)
      sameStatus := rfl
      settled := first.settled
      opposite := rfl }

end Transfer

/-- What a transaction of an execution looks like. -/
structure Transaction.Shaped (invocation : Invocation) (transaction : Transaction) : Prop where
  /-- It goes by the identifier of the message. -/
  identified : transaction.hash = invocation.messageCid.text
  /-- There is one pair at least, and behind the pairs there is at most the fee. -/
  parts : ∃ pairs last, transaction.operations = pairs ++ last ∧ pairs ≠ [] ∧
    Operation.Pairs 0 pairs ∧ Operation.Closing pairs.length invocation.gasCost.totalCost last
  /-- Every operation carries its place. -/
  indexed : ∀ (place : Nat) (operation : Operation), transaction.operations[place]? =
    some operation →
    operation.index = place
  /-- Fees stand in the last place, and there exactly where the
  execution cost something. -/
  feeLast : ∀ (place : Nat) (operation : Operation), transaction.operations[place]? =
    some operation →
    (operation.type = Fee.typeName ↔
      place + 1 = transaction.operations.length ∧ invocation.gasCost.totalCost.atto ≠ 0)
  /-- Amounts are written in canonical digits that mean them, nothing as
  a single zero. -/
  written : ∀ operation ∈ transaction.operations,
    Text.Integer.Canonical operation.amount.attoText.toList ∧
      Text.Integer.integer? operation.amount.attoText = some operation.amount.atto ∧
      (operation.amount.atto = 0 → operation.amount.attoText = "0")
  /-- All amounts together are the cost taken away. -/
  balanced : Operation.total transaction.operations = -invocation.gasCost.totalCost.atto

namespace Transaction

/-- Pairs with what closes them make a transaction of the common shape. -/
theorem shaped_of_parts (invocation : Invocation) (pairs last : List Operation)
    (anyPair : pairs ≠ []) (paired : Operation.Pairs 0 pairs)
    (closing : Operation.Closing pairs.length invocation.gasCost.totalCost last) :
    Shaped invocation ⟨invocation.messageCid.text, pairs ++ last⟩ where
  identified := rfl
  parts := ⟨pairs, last, rfl, anyPair, paired, closing⟩
  indexed := by
    intro place operation found
    rcases Operation.place_cases closing found with ⟨-, inPairs, -⟩ | ⟨-, -, pays⟩
    · have counted := (paired.counted place operation inPairs).1
      rw [counted, Nat.zero_add]
    · exact pays.atIndex
  feeLast := by
    intro place operation found
    constructor
    · intro isFee
      rcases Operation.place_cases closing found with ⟨-, inPairs, -⟩ | ⟨ends, costs, -⟩
      · exact absurd isFee (paired.counted place operation inPairs).2
      · exact ⟨ends, costs⟩
    · rintro ⟨ends, costs⟩
      rcases Operation.place_cases closing found with ⟨-, -, free⟩ | ⟨-, -, pays⟩
      · exact absurd (free ends) costs
      · exact pays.isFee
  written := by
    intro operation _
    refine ⟨Text.Integer.text_canonical _, Text.Integer.integer_text _, ?_⟩
    intro isNothing
    rw [TokenAmount.attoText, isNothing]
    rfl
  balanced := by
    rw [Operation.total_append, paired.total_zero, closing.total_exact, Int.zero_add]

/-- Transactions that belong to executions, in their order; executions may
be left out. -/
inductive Tell : List Invocation → List Transaction → Prop where
  /-- No execution. -/
  | none : Tell [] []
  /-- An execution without transaction. -/
  | leave (invocation : Invocation) {rest : List Invocation} {told : List Transaction}
      (later : Tell rest told) : Tell (invocation :: rest) told
  /-- An execution with its transaction. -/
  | take {invocation : Invocation} {transaction : Transaction} {rest : List Invocation}
      {told : List Transaction} (shaped : Shaped invocation transaction) (later : Tell rest told) :
      Tell (invocation :: rest) (transaction :: told)

end Transaction

namespace Directory

open Program

/-- Operations that were recorded, if there are any, are those of a transaction
of the common shape. -/
theorem recorded_shaped (invocation : Invocation) (operations : List Operation)
    (recorded : Recorded invocation operations) (anything : operations ≠ []) :
    Transaction.Shaped invocation ⟨invocation.messageCid.text, operations⟩ := by
  rcases recorded with rfl | ⟨transfers, fee, moved, executed, isFee, rfl⟩
  · exact absurd rfl anything
  · have paired := Transfer.operations_paired 0 transfers executed
    have anyPair : Transfer.operationsFrom 0 transfers ≠ [] := by
      cases transfers with
      | nil => exact absurd rfl moved
      | cons first rest => exact List.cons_ne_nil _ _
    unfold FeeOf at isFee
    by_cases free : invocation.gasCost.totalCost.atto = 0
    · rw [if_pos free] at isFee
      subst isFee
      have closing : Operation.Closing (Transfer.operationsFrom 0 transfers).length
          invocation.gasCost.totalCost [] := by
        rw [Operation.Closing, if_pos free]
      have shaped := Transaction.shaped_of_parts invocation _ _ anyPair paired closing
      rw [List.append_nil] at shaped
      exact shaped
    · rw [if_neg free] at isFee
      obtain ⟨account, rfl⟩ := isFee
      have closing : Operation.Closing (Transfer.operationsFrom 0 transfers).length
          invocation.gasCost.totalCost
          [(Fee.mk account invocation.gasCost.totalCost).operation
            (Transfer.operationsFrom 0 transfers).length] := by
        rw [Operation.Closing, if_neg free]
        exact ⟨_, rfl, ⟨rfl, rfl, rfl, rfl, rfl⟩⟩
      exact Transaction.shaped_of_parts invocation _ _ anyPair paired closing

/-- Whatever is known of addresses and whatever the node answers, now and later, the
transactions of executions have the common shape, each for one execution and in the
order of these. Nothing is assumed of the node, so the shape also holds where
look-ups fail or contradict each other. -/
theorem transactions_shaped (directory : Directory) (invocations : List Invocation) (node : Node)
    (session : Session) :
    Transaction.Tell invocations ((directory.transactions invocations).run node session).1 := by
  have ensured : Ensures (directory.transactions invocations) (Transaction.Tell invocations) := by
    induction invocations with
    | nil => exact .result .none
    | cons invocation rest ih =>
      refine (directory.operations_recorded invocation).seq ?_
      intro operations recorded
      refine ih.seq ?_
      intro told later
      cases operations with
      | nil => exact .result (.leave invocation later)
      | cons first more =>
        have shaped := recorded_shaped invocation _ recorded (List.cons_ne_nil first more)
        exact .result (.take shaped later)
  exact ensured node session

end Directory

end FilecoinRosetta
