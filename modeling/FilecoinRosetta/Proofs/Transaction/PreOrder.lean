import FilecoinRosetta.Proofs.Directory.Coherence
import FilecoinRosetta.Proofs.Rosetta.LookUps

/-!
# Transactions by recursion

What the calls of a trace move can be told by recursion: first what the call itself
moves, then what its own calls move, in their order. No stack, no cache and no
position occurs in that. The operations of an execution are just these pairs,
numbered, with the fee behind them, at every depth and width of the trace and
whatever was learned of addresses before.
-/

namespace FilecoinRosetta

namespace Directory

open Program

/-! ## The recursion -/

section

variable (directory : Directory) (answers : Node.Answers)

/-- One pair of operations between two addresses. An address that does not resolve
stands for itself; where neither resolves there is no pair. -/
def pairOf (type : String) (success : Bool) (sender receiver : Address) (value : TokenAmount) :
    List Transfer :=
  match directory.keyOf answers sender, directory.keyOf answers receiver with
  | .error _, .error _ => []
  | _, _ =>
      [⟨type, some (if success then .ok else .failed), directory.accountOf answers sender,
        directory.accountOf answers receiver, value⟩]

/-- The pairs of one call, its own calls apart. -/
def pairsOfCall (call : CallTrace) (result : ReturnTrace) : List Transfer :=
  let name := directory.nameOf answers call.receiver call.method
  let success := result.exitCode == 0
  let pair := directory.pairOf answers name success
  if name = "Propose" then pair call.sender call.receiver 0
  else if name = "SwapSigner" then
    match Actor.SignerSwap.read? call.params with
    | some swap => pair swap.old swap.new 0
    | none => []
  else if name ∈ ["Send", "AddBalance", "Exec", "AwardBlockReward", "ApplyRewards",
      "OnDeferredCronEvent", "PreCommitSector", "ProveCommitSector", "SubmitWindowedPoSt"] ∧
      call.value.atto ≠ 0 then
    pair call.sender call.receiver call.value ++
      if name = "Exec" ∧ success then
        match Actor.Creation.read? result.data with
        | some creation => pair call.receiver creation.robustAddress call.value
        | none => []
      else []
  else []

mutual

/-- The pairs of a call, followed by those of its own calls. -/
def pairsOfTrace : ExecutionTrace → List Transfer
  | .node call result subcalls =>
      directory.pairsOfCall answers call result ++ pairsOfTraces subcalls

/-- The pairs of several calls in their order. -/
def pairsOfTraces : List ExecutionTrace → List Transfer
  | [] => []
  | first :: rest => pairsOfTrace first ++ pairsOfTraces rest

end

/-- The operations of pairs: the debit and the credit of each, at
positions that count through. -/
def numbered (pairs : List Transfer) : List Operation :=
  pairs.zipIdx.flatMap fun (pair, place) =>
    [⟨2 * place, none, pair.type, pair.status, pair.sender, -pair.value⟩,
     ⟨2 * place + 1, some (2 * place), pair.type, pair.status, pair.receiver, pair.value⟩]

/-- The operations of an execution. Where anything moved and it was not for free,
the fee comes last. -/
def operationsByRecursion (invocation : Invocation) : List Operation :=
  match invocation.trace with
  | none => []
  | some root =>
      let pairs := directory.pairsOfTrace answers root
      let cost := invocation.gasCost.totalCost
      numbered pairs ++
        if pairs = [] ∨ cost.atto = 0 then []
        else [⟨2 * pairs.length, none, "Fee", some .ok,
          directory.accountOf answers invocation.message.sender, -cost⟩]

/-- The transactions of executions. One without operations has none. -/
def transactionsByRecursion (invocations : List Invocation) : List Transaction :=
  invocations.filterMap fun invocation =>
    let operations := directory.operationsByRecursion answers invocation
    if operations = [] then none else some ⟨invocation.messageCid.text, operations⟩

end

/-! ## The pairs of one call -/

variable {directory : Directory} {node : Node} {answers : Node.Answers}

/-- The names of the accounts of a movement, unless neither resolves. -/
def accountsOf? (directory : Directory) (answers : Node.Answers) (movement : Movement) :
    Option (String × String) :=
  match directory.keyOf answers movement.sender, directory.keyOf answers movement.receiver with
  | .error _, .error _ => none
  | _, _ =>
      some (directory.accountOf answers movement.sender,
        directory.accountOf answers movement.receiver)

/-- Over a coherent cache accounts are named as steady answers have it. -/
theorem accounts_yield (movement : Movement) (senderSteady : node.SteadyAt answers movement.sender)
    (receiverSteady : node.SteadyAt answers movement.receiver) :
    Yields node (directory.Coherent node answers) (directory.accounts? movement)
      (directory.accountsOf? answers movement) := by
  refine (canonicalText_yields senderSteady).seq ?_
  refine (canonicalText_yields receiverSteady).seq ?_
  unfold accountsOf? accountOf
  cases directory.keyOf answers movement.sender with
  | ok sender =>
    cases directory.keyOf answers movement.receiver with
    | ok receiver => exact .result _
    | error cause => exact .result _
  | error cause =>
    cases directory.keyOf answers movement.receiver with
    | ok receiver => exact .result _
    | error other => exact .result _

/-- A pair is made of the names of both accounts, and there is none
if neither is found. -/
theorem pairOf_accounts (type : String) (success : Bool) (movement : Movement) :
    directory.pairOf answers type success movement.sender movement.receiver movement.value =
      match directory.accountsOf? answers movement with
      | none => []
      | some (sender, receiver) =>
          [⟨type, some (.ofSuccess success), sender, receiver, movement.value⟩] := by
  unfold pairOf accountsOf?
  cases directory.keyOf answers movement.sender with
  | ok sender => rfl
  | error cause =>
    cases directory.keyOf answers movement.receiver with
    | ok receiver => rfl
    | error other => rfl

/-- The pairs of some movements, in their order: each is told if one of
its two addresses resolves. -/
theorem transfers_yield (type : String) (success : Bool) (movements : List Movement)
    (steady : ∀ movement ∈ movements,
      node.SteadyAt answers movement.sender ∧ node.SteadyAt answers movement.receiver) :
    Yields node (directory.Coherent node answers)
      (directory.transfers type (.ofSuccess success) movements)
      (movements.flatMap fun movement =>
        directory.pairOf answers type success movement.sender movement.receiver
          movement.value) := by
  induction movements with
  | nil => exact .result []
  | cons movement rest ih =>
    obtain ⟨senderSteady, receiverSteady⟩ := steady movement List.mem_cons_self
    have later := ih fun other member => steady other (List.mem_cons_of_mem _ member)
    rw [List.flatMap_cons, pairOf_accounts]
    refine (accounts_yield movement senderSteady receiverSteady).seq ?_
    refine later.seq ?_
    cases directory.accountsOf? answers movement with
    | none => exact .result _
    | some names => exact .result _

/-- A call pays if it is of a method that does and has a value. -/
theorem pays_iff (name : String) (value : TokenAmount) :
    (Movement.payingNames.contains name && !value.isZero) = true ↔
      name ∈ ["Send", "AddBalance", "Exec", "AwardBlockReward", "ApplyRewards",
        "OnDeferredCronEvent", "PreCommitSector", "ProveCommitSector", "SubmitWindowedPoSt"] ∧
      value.atto ≠ 0 := by
  rw [Bool.and_eq_true, List.contains_iff_mem, Bool.not_eq_true', TokenAmount.isZero,
    beq_eq_false_iff_ne]
  exact Iff.rfl

/-- The movements of a call make its pairs, and no others do. -/
theorem pairsOfCall_movements (call : CallTrace) (result : ReturnTrace) :
    directory.pairsOfCall answers call result =
      let name := directory.nameOf answers call.receiver call.method
      (Movement.ofCall name call result).flatMap fun movement =>
        directory.pairOf answers name result.isSuccess movement.sender movement.receiver
          movement.value := by
  dsimp only
  unfold pairsOfCall
  generalize directory.nameOf answers call.receiver call.method = name
  dsimp only
  unfold Movement.ofCall
  by_cases proposes : name = "Propose"
  · have listed : name = Movement.proposeName := proposes
    rw [if_pos proposes, if_pos listed]
    exact (List.append_nil _).symm
  · have notListed : ¬ name = Movement.proposeName := proposes
    rw [if_neg proposes, if_neg notListed]
    by_cases swaps : name = "SwapSigner"
    · have listed : name = Movement.swapSignerName := swaps
      rw [if_pos swaps, if_pos listed]
      cases Actor.SignerSwap.read? call.params with
      | none => rfl
      | some swap => exact (List.append_nil _).symm
    · have notListed : ¬ name = Movement.swapSignerName := swaps
      rw [if_neg swaps, if_neg notListed]
      by_cases pays : (Movement.payingNames.contains name && !call.value.isZero) = true
      · rw [if_pos pays, if_pos ((pays_iff name call.value).mp pays), List.flatMap_cons]
        congr 1
        by_cases creates : name = "Exec"
        · have listed : name = Movement.execName := creates
          rw [if_pos listed]
          unfold Movement.forwarded ReturnTrace.isSuccess
          by_cases success : (result.exitCode == 0) = true
          · rw [if_pos success, if_pos ⟨creates, success⟩]
            cases Actor.Creation.read? result.data with
            | none => rfl
            | some creation => exact (List.append_nil _).symm
          · rw [if_neg success, if_neg fun both => success both.2]
            rfl
        · have notListed : ¬ name = Movement.execName := creates
          rw [if_neg notListed, if_neg fun both => creates both.1]
          rfl
      · rw [if_neg pays, if_neg fun both => pays ((pays_iff name call.value).mpr both)]
        rfl

/-! ## Traces and executions -/

variable (steady : ∀ address, node.SteadyAt answers address)

include steady

/-- Over a coherent cache the transfers of a call are its pairs. -/
theorem ownTransfers_yield (call : CallTrace) (result : ReturnTrace) :
    Yields node (directory.Coherent node answers) (directory.ownTransfers call result)
      (directory.pairsOfCall answers call result) := by
  refine (methodName_yields (steady call.receiver) call.method).seq ?_
  rw [pairsOfCall_movements]
  exact transfers_yield _ _ _ fun movement _ => ⟨steady movement.sender, steady movement.receiver⟩

omit steady in
/-- The pairs of two lists of calls are those of the first and
those of the second. -/
theorem pairsOfTraces_append (first second : List ExecutionTrace) :
    directory.pairsOfTraces answers (first ++ second) =
      directory.pairsOfTraces answers first ++ directory.pairsOfTraces answers second := by
  induction first with
  | nil => rfl
  | cons trace rest ih =>
    rw [List.cons_append, pairsOfTraces, pairsOfTraces, ih, List.append_assoc]

/-- The visit finds the pairs of all calls still pending, behind those found before.
The stack holds the calls of a visited one in front of the others, which makes the
order that of the recursion. -/
theorem visit_yields (pending : List ExecutionTrace) (found : List Transfer) :
    Yields node (directory.Coherent node answers) (directory.visit pending found)
      (found.reverse ++ directory.pairsOfTraces answers pending) := by
  induction pending, found using visit.induct with
  | case1 found =>
    rw [visit, pairsOfTraces, List.append_nil]
    exact .result _
  | case2 call result subcalls rest found ih =>
    rw [visit]
    refine (ownTransfers_yield steady call result).seq ?_
    have follows := ih (directory.pairsOfCall answers call result)
    rw [List.reverse_append, List.reverse_reverse, pairsOfTraces_append] at follows
    rw [pairsOfTraces, pairsOfTrace]
    simp only [List.append_assoc] at follows ⊢
    exact follows

omit steady in
/-- Transfers in order are numbered from an even position on. -/
theorem operationsFrom_numbered (transfers : List Transfer) (place : Nat) :
    Transfer.operationsFrom (2 * place) transfers =
      (transfers.zipIdx place).flatMap fun (pair, place) =>
        [⟨2 * place, none, pair.type, pair.status, pair.sender, -pair.value⟩,
         ⟨2 * place + 1, some (2 * place), pair.type, pair.status, pair.receiver, pair.value⟩] := by
  induction transfers generalizing place with
  | nil => rfl
  | cons transfer rest ih =>
    rw [List.zipIdx_cons, List.flatMap_cons, ← ih (place + 1)]
    rfl

omit steady in
/-- Every pair makes two operations, so their number is even before the fee. -/
theorem operationsFrom_length (transfers : List Transfer) (index : Nat) :
    (Transfer.operationsFrom index transfers).length = 2 * transfers.length := by
  induction transfers generalizing index with
  | nil => rfl
  | cons transfer rest ih =>
    rw [Transfer.operationsFrom, List.length_cons, List.length_cons, ih (index + 2),
      List.length_cons]
    omega

/-- Over a coherent cache an execution has the operations that
the recursion gives. -/
theorem operations_yield (invocation : Invocation) :
    Yields node (directory.Coherent node answers) (directory.operations invocation)
      (directory.operationsByRecursion answers invocation) := by
  unfold operations operationsByRecursion
  cases invocation.trace with
  | none => exact .result []
  | some root =>
    have visits : Yields node _ (directory.visit [root] []) _ := visit_yields steady [root] []
    rw [pairsOfTraces, pairsOfTraces, List.append_nil] at visits
    refine visits.seq ?_
    dsimp only [List.reverse_nil, List.nil_append]
    cases pairs : directory.pairsOfTrace answers root with
    | nil => exact .result []
    | cons first rest =>
      have moved : numbered (first :: rest) = Transfer.operationsFrom 0 (first :: rest) :=
        (operationsFrom_numbered (first :: rest) 0).symm
      have count := operationsFrom_length (first :: rest) 0
      by_cases free : invocation.gasCost.totalCost.atto = 0
      · have isZero : invocation.gasCost.totalCost.isZero = true := beq_iff_eq.mpr free
        rw [fee?, if_pos isZero, if_pos (.inr free), moved, List.append_nil]
        exact .result _
      · have notZero : ¬ invocation.gasCost.totalCost.isZero = true :=
          fun equal => free (beq_iff_eq.mp equal)
        have costs : ¬ (first :: rest = [] ∨ invocation.gasCost.totalCost.atto = 0) := by
          rintro (empty | isFree)
          · exact List.cons_ne_nil first rest empty
          · exact free isFree
        rw [fee?, if_neg notZero, if_neg costs, moved, ← count]
        refine Yields.seq ((canonicalOrOwnText_yields (steady _)).seq (.result _)) ?_
        exact .result _

/-- Over a coherent cache executions have the transactions that
the recursion gives. -/
theorem transactions_yield (invocations : List Invocation) :
    Yields node (directory.Coherent node answers) (directory.transactions invocations)
      (directory.transactionsByRecursion answers invocations) := by
  induction invocations with
  | nil => exact .result []
  | cons invocation rest ih =>
    refine (operations_yield steady invocation).seq ?_
    refine ih.seq ?_
    unfold transactionsByRecursion
    rw [List.filterMap_cons]
    dsimp only
    cases directory.operationsByRecursion answers invocation with
    | nil => exact .result _
    | cons first more =>
      rw [if_neg (List.cons_ne_nil first more)]
      exact .result _

end Directory

/-! ## The service -/

namespace Rosetta.Service

/-- On a node with constant answers, after any requests or none, the operations and
the transactions of executions are those of the recursion. The walk keeps its
pending calls on a stack, and no more is said of it than this: it passes the calls
of a tree in the order in which a recursion over the tree does. The proof is an
induction on what is pending. -/
theorem transactions_by_recursion (service : Service) (anyOrigin : Bool) (answers : Node.Answers)
    (earlier : List HttpRequest) :
    let node := Node.constant answers
    let session := service.sessionAfter anyOrigin node earlier
    (∀ invocation, ((service.directory.operations invocation).run node session).1 =
        service.directory.operationsByRecursion answers invocation) ∧
      ∀ invocations, ((service.directory.transactions invocations).run node session).1 =
        service.directory.transactionsByRecursion answers invocations := by
  intro node session
  have coherent := service.sessionAfter_coherent anyOrigin node answers earlier
  have steady (address : Address) := Node.constant_steady answers address
  constructor
  · intro invocation
    exact (Directory.operations_yield steady invocation session coherent).1
  · intro invocations
    exact (Directory.transactions_yield steady invocations session coherent).1

end Rosetta.Service

end FilecoinRosetta
