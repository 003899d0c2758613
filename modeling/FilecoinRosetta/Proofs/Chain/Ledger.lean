import FilecoinRosetta.Proofs.Chain.Linear
import FilecoinRosetta.Proofs.Transaction.PreOrder

/-!
# Accounts that send value to each other

On a chain where accounts do nothing but send value to each other for
free, the state of a tipset differs from that of the tipset before it by
the messages of the latter. What these messages move is what their
transactions tell, account by account.
-/

namespace FilecoinRosetta

open Program

/-! ## What is moved -/

/-- The amounts of an account's operations together. -/
def Operation.totalOf (account : String) : List Operation → Int
  | [] => 0
  | operation :: rest =>
      (if operation.account = account then operation.amount.atto else 0) + totalOf account rest

/-- What an account gains by two lists of operations is what it gains by each
of them, taken together. -/
theorem Operation.totalOf_append (account : String) (first second : List Operation) :
    totalOf account (first ++ second) = totalOf account first + totalOf account second := by
  induction first with
  | nil => simp only [List.nil_append, totalOf, Int.zero_add]
  | cons operation rest ih => simp only [List.cons_append, totalOf, ih, Int.add_assoc]

/-- The account that an address belongs to, given by its canonical address. -/
abbrev Owner := Address → Option Address

namespace Invocation

/-- What an execution pays to an account, minus what it takes from it. -/
def moves (owner : Owner) (account : Address) (invocation : Invocation) : Int :=
  match invocation.trace with
  | none => 0
  | some trace =>
      (if owner trace.call.receiver = some account then trace.call.value.atto else 0) -
        (if owner trace.call.sender = some account then trace.call.value.atto else 0)

/-- What executions pay to an account, minus what they take from it. -/
def movesAll (owner : Owner) (account : Address) : List Invocation → Int
  | [] => 0
  | invocation :: rest => invocation.moves owner account + movesAll owner account rest

/-- An execution for free of a successful plain send between accounts. -/
structure PlainSend (owner : Owner) (invocation : Invocation) : Prop where
  /-- It costs nothing. -/
  free : invocation.gasCost.totalCost.atto = 0
  /-- It makes a single call of method 0, which succeeds. -/
  sends : ∃ call result, invocation.trace = some (.node call result []) ∧
    call.method = 0 ∧ result.exitCode = 0 ∧
    (∃ sender, owner call.sender = some sender) ∧ ∃ receiver, owner call.receiver = some receiver

end Invocation

/-- A chain on which accounts send value to each other, as a node tells it. -/
structure Ledger (directory : Directory) (node : Node) (chain : Chain) where
  /-- The account that an address belongs to. -/
  owner : Owner
  /-- What look-ups of addresses at the head are told. -/
  answers : Node.Answers
  /-- Addresses of accounts are always looked up with the same answers. -/
  steady : ∀ address account, owner address = some account → node.SteadyAt answers address
  /-- Addresses of accounts resolve to the canonical address. -/
  resolved : ∀ address account, owner address = some account →
    directory.keyOf answers address = .ok (account.text directory.network)
  /-- The actor of an account in the state of a tipset, if there is one yet. -/
  actor : Nat → Address → Option ActorState
  /-- The node tells these actors. -/
  tells : ∀ past number account, number ≤ chain.last → owner account = some account →
    node.answer past (.actor account (chain.tipset number).key) = .ok (actor number account)
  /-- The executions of the messages of a tipset, at the height of the next one. -/
  executed : Nat → ComputedState
  /-- The node computes these executions. -/
  computes : ∀ past number, number < chain.last →
    node.answer past (.computeState (chain.tipset (number + 1)).height (chain.tipset number).key) =
      .ok (executed number)
  /-- All of them are plain sends. -/
  plain : ∀ number, number < chain.last →
    ∀ invocation ∈ (executed number).invocations, invocation.PlainSend owner
  /-- Balances change by what the messages of the tipset before move. -/
  changes : ∀ number account, number < chain.last → owner account = some account →
    ((actor (number + 1) account).map ActorState.balance |>.getD 0).atto =
      ((actor number account).map ActorState.balance |>.getD 0).atto +
        Invocation.movesAll owner account (executed number).invocations

/-- The balance of an account in the state of a tipset. -/
def Ledger.balance {directory : Directory} {node : Node} {chain : Chain}
    (ledger : Ledger directory node chain) (number : Nat) (account : Address) : TokenAmount :=
  ((ledger.actor number account).map ActorState.balance).getD 0

/-! ## What is told -/

namespace Directory

variable {directory : Directory} {node : Node} {answers : Node.Answers} {owner : Owner}
  (steady : ∀ address account, owner address = some account → node.SteadyAt answers address)
  (resolved : ∀ address account, owner address = some account →
    directory.keyOf answers address = .ok (account.text directory.network))

/-- A plain send moves its value from the sender to the receiver, if it has any. -/
theorem send_movements (call : CallTrace) (result : ReturnTrace) :
    Movement.ofCall sendName call result =
      if call.value.atto = 0 then [] else [⟨call.sender, call.receiver, call.value⟩] := by
  have notPropose : ¬ sendName = Movement.proposeName := by decide
  have notSwap : ¬ sendName = Movement.swapSignerName := by decide
  have notCreate : ¬ sendName = Movement.execName := by decide
  have pays : sendName ∈ ["Send", "AddBalance", "Exec", "AwardBlockReward", "ApplyRewards",
      "OnDeferredCronEvent", "PreCommitSector", "ProveCommitSector", "SubmitWindowedPoSt"] := by
    decide
  unfold Movement.ofCall
  rw [if_neg notPropose, if_neg notSwap]
  by_cases nothing : call.value.atto = 0
  · rw [if_pos nothing, if_neg]
    intro moved
    exact ((pays_iff _ _).mp moved).2 nothing
  · rw [if_neg nothing, if_pos ((pays_iff _ _).mpr ⟨pays, nothing⟩), if_neg notCreate]

/-- Two accounts have the same text only if they are the same. -/
theorem text_owner_iff {address held account : Address} (network : Network)
    (owns : owner address = some held) :
    held.text network = account.text network ↔ owner address = some account := by
  constructor
  · intro same
    rw [owns, Address.display_injective network held account same]
  · intro same
    rw [owns] at same
    rw [Option.some.inj same]

/-- What the two operations of a transfer tell about an account: the value if it
receives, less the value if it sends. -/
theorem transfer_told (account : String) (transfer : Transfer) :
    Operation.totalOf account (operationsOf [transfer] none) =
      (if transfer.receiver = account then transfer.value.atto else 0) -
        (if transfer.sender = account then transfer.value.atto else 0) := by
  have debited : (transfer.debit 0).amount.atto = -transfer.value.atto := rfl
  change (if transfer.sender = account then (transfer.debit 0).amount.atto else 0) +
    ((if transfer.receiver = account then transfer.value.atto else 0) + 0) = _
  rw [debited]
  split <;> split <;> omega

include steady resolved

/-- A plain send makes one transfer between the accounts, or none
where it moves nothing. -/
theorem send_transfers {call : CallTrace} {result : ReturnTrace} {sender receiver : Address}
    (method : call.method = 0) (succeeded : result.exitCode = 0)
    (sends : owner call.sender = some sender) (receives : owner call.receiver = some receiver) :
    Yields node (directory.Coherent node answers) (directory.ownTransfers call result)
      (if call.value.atto = 0 then [] else
        [⟨sendName, some .ok, sender.text directory.network, receiver.text directory.network,
          call.value⟩]) := by
  have success : result.isSuccess = true := by
    rw [ReturnTrace.isSuccess, succeeded]
    rfl
  have named : directory.methodName call.receiver call.method = pure sendName := by
    rw [methodName, if_pos method]
  have moved : ∀ movement ∈ Movement.ofCall sendName call result,
      node.SteadyAt answers movement.sender ∧ node.SteadyAt answers movement.receiver := by
    intro movement member
    rw [send_movements] at member
    split at member
    · exact absurd member List.not_mem_nil
    · obtain rfl := List.mem_singleton.mp member
      exact ⟨steady _ _ sends, steady _ _ receives⟩
  have own : Yields node (directory.Coherent node answers)
      (directory.transfers sendName (.ofSuccess result.isSuccess)
        (Movement.ofCall sendName call result)) _ :=
    transfers_yield sendName result.isSuccess _ moved
  rw [ownTransfers, named]
  refine (Yields.result sendName).seq ?_
  have pairs : ((Movement.ofCall sendName call result).flatMap fun movement =>
      directory.pairOf answers sendName result.isSuccess movement.sender movement.receiver
        movement.value) =
      if call.value.atto = 0 then [] else
        [⟨sendName, some .ok, sender.text directory.network, receiver.text directory.network,
          call.value⟩] := by
    rw [send_movements]
    split
    · rfl
    · rw [List.flatMap_singleton, pairOf, accountOf, accountOf, resolved _ _ sends,
        resolved _ _ receives, success]
      rfl
  rw [← pairs]
  exact own

/-- The operations of a plain send tell what it moves. It pays no fee, so there is
nothing else to tell. -/
theorem send_told (invocation : Invocation) (plain : invocation.PlainSend owner) :
    ∃ told, Yields node (directory.Coherent node answers) (directory.operations invocation) told ∧
      ∀ account : Address, Operation.totalOf (account.text directory.network) told =
        invocation.moves owner account := by
  obtain ⟨call, result, traced, method, succeeded, ⟨sender, sends⟩, ⟨receiver, receives⟩⟩ :=
    plain.sends
  have isZero : invocation.gasCost.totalCost.isZero = true := beq_iff_eq.mpr plain.free
  have own := send_transfers steady resolved method succeeded sends receives
  have visits {transfers : List Transfer} (found : Yields node (directory.Coherent node answers)
      (directory.ownTransfers call result) transfers) :
      Yields node (directory.Coherent node answers) (directory.visit [.node call result []] [])
        transfers := by
    rw [visit]
    refine found.seq ?_
    rw [List.append_nil, List.append_nil, visit, List.reverse_reverse]
    exact .result _
  unfold operations Invocation.moves
  rw [traced]
  by_cases nothing : call.value.atto = 0
  · rw [if_pos nothing] at own
    refine ⟨[], (visits own).seq (.result []), ?_⟩
    intro account
    change 0 = (if _ then call.value.atto else 0) - (if _ then call.value.atto else 0)
    rw [nothing]
    split <;> split <;> rfl
  · rw [if_neg nothing] at own
    let transfer : Transfer :=
      ⟨sendName, some .ok, sender.text directory.network,
        receiver.text directory.network, call.value⟩
    refine ⟨operationsOf [transfer] none, (visits own).seq ?_, ?_⟩
    · rw [fee?, if_pos isZero]
      exact (Yields.result none).seq (.result _)
    · intro account
      rw [transfer_told]
      have fromAccount : transfer.sender = account.text directory.network ↔
          owner call.sender = some account := text_owner_iff directory.network sends
      have toAccount : transfer.receiver = account.text directory.network ↔
          owner call.receiver = some account := text_owner_iff directory.network receives
      simp only [fromAccount, toAccount]
      rfl

/-- The transactions of plain sends tell what these move, account by account. -/
theorem sends_told (invocations : List Invocation)
    (plain : ∀ invocation ∈ invocations, invocation.PlainSend owner) :
    ∃ told, Yields node (directory.Coherent node answers)
      (directory.transactions invocations) told ∧
      ∀ account : Address,
        Operation.totalOf (account.text directory.network) (told.flatMap Transaction.operations) =
          Invocation.movesAll owner account invocations := by
  induction invocations with
  | nil => exact ⟨[], .result [], fun _ => rfl⟩
  | cons invocation rest ih =>
    obtain ⟨later, laterYields, laterTotal⟩ :=
      ih fun other member => plain other (List.mem_cons_of_mem _ member)
    obtain ⟨operations, yields, total⟩ :=
      send_told steady resolved invocation (plain invocation List.mem_cons_self)
    cases operations with
    | nil =>
      refine ⟨later, yields.seq (laterYields.seq (.result _)), ?_⟩
      intro account
      rw [Invocation.movesAll, ← total account, ← laterTotal account, Operation.totalOf,
        Int.zero_add]
    | cons first more =>
      refine ⟨⟨invocation.messageCid.text, first :: more⟩ :: later,
        yields.seq (laterYields.seq (.result _)), ?_⟩
      intro account
      rw [List.flatMap_cons, Operation.totalOf_append, Invocation.movesAll, ← total account,
        ← laterTotal account]

end Directory

end FilecoinRosetta
