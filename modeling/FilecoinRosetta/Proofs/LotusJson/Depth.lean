import FilecoinRosetta.Lotus.Rpc
import FilecoinRosetta.Proofs.LotusJson.Wire
import FilecoinRosetta.Proofs.Transaction.Status

/-!
# How deep a trace can be read

Calls are visited at any depth, but a text is read only up to a limit of nested
containers. Each level of calls takes two of them. So a trace reads back up to half
of the limit, and is refused as a whole beyond that; the answer to a question for
the state of a tipset has three more containers around its calls.
-/

namespace FilecoinRosetta

/-! ## Levels of calls -/

namespace ExecutionTrace

mutual

/-- The number of calls within each other, the outermost one included. -/
def levels : ExecutionTrace → Nat
  | node _ _ subcalls => levelsOf subcalls + 1

/-- The most levels of several calls. -/
def levelsOf : List ExecutionTrace → Nat
  | [] => 0
  | first :: rest => max (levels first) (levelsOf rest)

end

/-- The levels of a list of traces are within a bound exactly if those
of each trace are. -/
theorem levelsOf_le {traces : List ExecutionTrace} {bound : Nat} :
    levelsOf traces ≤ bound ↔ ∀ trace ∈ traces, trace.levels ≤ bound := by
  induction traces with
  | nil => simp [levelsOf]
  | cons first rest ih => rw [levelsOf, Nat.max_le, ih, List.forall_mem_cons]

end ExecutionTrace

/-- The most levels of calls of all executions of a tipset. -/
def ComputedState.levels (state : ComputedState) : Nat :=
  ExecutionTrace.levelsOf (state.invocations.filterMap Invocation.trace)

namespace LotusJson

open Json

/-! ## Containers of calls -/

/-- Bytes are written as a text, which does not nest at all. -/
theorem bytes_nesting (network : Network) (bytes : Bytes) : (write network bytes).nesting = 0 := by
  cases bytes <;> rfl

/-- A call is written as one record of texts and numbers. -/
theorem call_nesting (network : Network) (call : CallTrace) : (write network call).nesting = 1 := by
  change membersNesting [("From", write network call.sender), ("To", write network call.receiver),
    ("Value", write network call.value), ("Method", write network call.method),
    ("Params", write network call.params), ("ParamsCodec", write network call.paramsCodec)] + 1 = 1
  simp only [membersNesting, bytes_nesting]
  rfl

/-- A result is written as one record of texts and numbers. -/
theorem result_nesting (network : Network) (result : ReturnTrace) :
    (write network result).nesting = 1 := by
  change membersNesting [("ExitCode", write network result.exitCode),
    ("Return", write network result.data), ("ReturnCodec", write network result.codec)] + 1 = 1
  simp only [membersNesting, bytes_nesting]
  rfl

mutual

/-- Each level takes a record and a list; where there is no list, what is said of
the call takes as much. -/
theorem trace_nesting (network : Network) : (trace : ExecutionTrace) →
    (writeTrace network trace).nesting = 2 * trace.levels
  | .node call result [] => by
    rw [writeTrace_node, nesting]
    simp only [membersNesting, call_nesting, result_nesting]
    rfl
  | .node call result (first :: rest) => by
    have listed :
        (write network (first :: rest)).nesting =
          2 * ExecutionTrace.levelsOf (first :: rest) + 1 := by
      change itemsNesting ((first :: rest).map (writeTrace network)) + 1 = _
      rw [← writeTraces_map, traces_nesting network (first :: rest)]
    rw [writeTrace_node, nesting, ExecutionTrace.levels]
    simp only [membersNesting, call_nesting, result_nesting, listed]
    omega

/-- Several calls take as much as the one that takes most, since they stand
next to each other. -/
theorem traces_nesting (network : Network) : (traces : List ExecutionTrace) →
    itemsNesting (writeTraces network traces) = 2 * ExecutionTrace.levelsOf traces
  | [] => rfl
  | first :: rest => by
    rw [writeTraces, itemsNesting, trace_nesting network first, traces_nesting network rest,
      ExecutionTrace.levelsOf, Nat.mul_max_mul_left]

end

/-! ## Containers of executions -/

/-- A record takes one container more than its members do at most. -/
theorem record_nesting {members : List (String × Json)} {bound : Nat}
    (bounded : ∀ member ∈ members, member.2.nesting ≤ bound) :
    (Json.obj members).nesting ≤ bound + 1 :=
  Nat.succ_le_succ (membersNesting_le.mpr bounded)

/-- Values written one by one take one container more than each. -/
theorem each_nesting {α : Type} [LotusJson α] (network : Network) {values : List α} {bound : Nat}
    (bounded : ∀ value ∈ values, (write network value).nesting ≤ bound) :
    (Json.arr (values.map (write network))).nesting ≤ bound + 1 := by
  refine Nat.succ_le_succ (itemsNesting_le.mpr ?_)
  intro item isItem
  obtain ⟨value, isValue, rfl⟩ := List.mem_map.mp isItem
  exact bounded value isValue

/-- A code is written as a record of one text, or as null. -/
theorem cid_nesting (network : Network) (cid : Option Cid) : (write network cid).nesting ≤ 1 := by
  cases cid with
  | none => exact Nat.zero_le 1
  | some cid => exact Nat.le_refl 1

/-- A message is written as a record that holds one with its code. -/
theorem message_nesting (network : Network) (message : Message) :
    (write network message).nesting ≤ 2 := by
  refine record_nesting (List.forall_mem_append.mpr ⟨membersNesting_le.mp ?_, ?_⟩)
  · simp only [membersNesting, bytes_nesting]
    exact Nat.zero_le 1
  · intro member isMember
    cases isCid : message.cid with
    | none =>
      rw [isCid] at isMember
      exact absurd isMember List.not_mem_nil
    | some cid =>
      rw [isCid] at isMember
      obtain rfl := List.mem_singleton.mp isMember
      exact cid_nesting network (some cid)

/-- A receipt is written as a record of texts and numbers, or as null. -/
theorem receipt_nesting (network : Network) (receipt : Option Receipt) :
    (write network receipt).nesting ≤ 1 := by
  cases receipt with
  | none => exact Nat.zero_le 1
  | some receipt =>
    change membersNesting [("ExitCode", write network receipt.exitCode),
      ("Return", write network receipt.data), ("GasUsed", write network receipt.gasUsed)] + 1 ≤ 1
    simp only [membersNesting, bytes_nesting]
    exact Nat.le_refl 1

/-- The cost of the gas of a message is written as a record that holds
one with a code. -/
theorem gasCost_nesting (network : Network) (cost : GasCost) :
    (write network cost).nesting ≤ 2 := by
  refine record_nesting (List.forall_mem_cons.mpr ⟨?_, ?_⟩)
  · exact cid_nesting network cost.message
  · exact membersNesting_le.mp (Nat.zero_le 1)

/-- An execution takes a record more than its calls, or than what is
said of its message. -/
theorem invocation_nesting (network : Network) {invocation : Invocation} {bound : Nat}
    (bounded : ∀ trace, invocation.trace = some trace → 2 * trace.levels ≤ bound) :
    (write network invocation).nesting ≤ max 2 bound + 1 := by
  have isTrace : (write network invocation.trace).nesting ≤ bound := by
    cases found : invocation.trace with
    | none => exact Nat.zero_le bound
    | some trace =>
      exact Nat.le_trans (Nat.le_of_eq (trace_nesting network trace)) (bounded trace found)
  have isCid := cid_nesting network (some invocation.messageCid)
  have isMessage := message_nesting network invocation.message
  have isReceipt := receipt_nesting network invocation.receipt
  have isCost := gasCost_nesting network invocation.gasCost
  have small {nesting limit : Nat} (within : nesting ≤ limit) (least : limit ≤ 2) :
      nesting ≤ max 2 bound :=
    Nat.le_trans within (Nat.le_trans least (Nat.le_max_left _ _))
  refine record_nesting ?_
  simp only [List.forall_mem_cons, List.not_mem_nil, false_implies, implies_true, and_true]
  exact ⟨small isCid (by decide), small isMessage (by decide), small isReceipt (by decide),
    Nat.zero_le _, small isCost (by decide), Nat.le_trans isTrace (Nat.le_max_right _ _)⟩

/-- A list takes one container more than its values do at most. -/
theorem list_nesting {α : Type} [LotusJson α] (network : Network) {values : List α} {bound : Nat}
    (bounded : ∀ value ∈ values, (write network value).nesting ≤ bound) :
    (write network values).nesting ≤ bound + 1 := by
  cases values with
  | nil => exact Nat.zero_le _
  | cons first rest => exact each_nesting network bounded

/-- The executions of a tipset are in a list in a record. -/
theorem state_nesting (network : Network) (state : ComputedState) :
    (write network state).nesting ≤ max 2 (2 * state.levels) + 3 := by
  have bounded := ExecutionTrace.levelsOf_le.mp (Nat.le_refl state.levels)
  have listed : (write network state.invocations).nesting ≤ max 2 (2 * state.levels) + 2 := by
    refine list_nesting network fun invocation isInvocation => invocation_nesting network ?_
    intro trace isTrace
    exact Nat.mul_le_mul_left 2
      (bounded trace (List.mem_filterMap.mpr ⟨invocation, isInvocation, isTrace⟩))
  refine record_nesting ?_
  simp only [List.forall_mem_cons, List.not_mem_nil, false_implies, implies_true, and_true]
  exact ⟨Nat.le_trans (cid_nesting network (some state.root)) (Nat.le_add_left 1 _), listed⟩

/-! ## What is read fits -/

/-- A written tree is read as some tree only if its levels fit,
two containers for each. -/
theorem readTrace_fits (network : Network) (depth : Nat) :
    ∀ trace other : ExecutionTrace, readTrace depth (writeTrace network trace) = some other →
      2 * trace.levels ≤ depth := by
  induction depth using Nat.strongRecOn with
  | _ depth ih =>
    rintro ⟨call, result, subcalls⟩ other isRead
    rw [writeTrace_node, readTrace_node] at isRead
    obtain ⟨found, isFound, isRead⟩ := Option.bind_eq_some_iff.mp isRead
    obtain ⟨_, isCall, isRead⟩ := Option.bind_eq_some_iff.mp isRead
    obtain ⟨_, isResult, isRead⟩ := Option.bind_eq_some_iff.mp isRead
    obtain ⟨_, isSubcalls, -⟩ := Option.bind_eq_some_iff.mp isRead
    obtain ⟨inner, rfl, rfl⟩ := fields_of_written (by simp) isFound
    -- The record of the call itself takes the second container where there are no
    -- calls of its own.
    obtain ⟨_, isRecord, -⟩ :=
      Option.bind_eq_some_iff.mp (required_written (by simp) (by rfl) isCall)
    have isInside := fields_found isRecord
    have each := list_each network (defaulted_written (by simp) (by rfl) isSubcalls)
    have within : ExecutionTrace.levelsOf subcalls ≤ (inner - 1) / 2 := by
      refine ExecutionTrace.levelsOf_le.mpr fun subcall isSubcall => ?_
      obtain ⟨deeper, other, rfl, isOther⟩ := each subcall isSubcall
      have fits := ih deeper (by omega) subcall other isOther
      omega
    rw [ExecutionTrace.levels]
    omega

/-- A written execution is read as some execution only if its calls fit with
one container around them. -/
theorem invocation_fits (network : Network) {invocation other : Invocation} {depth : Nat}
    (isRead : read depth (write network invocation) = some other) :
    ∀ trace, invocation.trace = some trace → 2 * trace.levels + 1 ≤ depth := by
  intro trace isTrace
  obtain ⟨found, isFound, isRead⟩ := Option.bind_eq_some_iff.mp isRead
  obtain ⟨_, -, isRead⟩ := Option.bind_eq_some_iff.mp isRead
  obtain ⟨_, -, isRead⟩ := Option.bind_eq_some_iff.mp isRead
  obtain ⟨_, -, isRead⟩ := Option.bind_eq_some_iff.mp isRead
  obtain ⟨_, -, isRead⟩ := Option.bind_eq_some_iff.mp isRead
  obtain ⟨_, -, isRead⟩ := Option.bind_eq_some_iff.mp isRead
  obtain ⟨_, isCalls, -⟩ := Option.bind_eq_some_iff.mp isRead
  obtain ⟨inner, rfl, rfl⟩ := fields_of_written (by simp) isFound
  have isTree := defaulted_written (by simp) (by rfl) isCalls
  rw [isTrace] at isTree
  obtain ⟨isNull, -⟩ | ⟨tree, isTree, -⟩ := nullable_found isTree
  · exact absurd isNull (NeverNull.never network trace)
  · exact Nat.succ_le_succ (readTrace_fits network inner trace tree isTree)

/-- A written state is read as some state only if all calls fit with
three containers around them. -/
theorem state_fits (network : Network) {state other : ComputedState} {depth : Nat}
    (isRead : read depth (write network state) = some other) : 2 * state.levels ≤ depth - 3 := by
  obtain ⟨found, isFound, isRead⟩ := Option.bind_eq_some_iff.mp isRead
  obtain ⟨_, -, isRead⟩ := Option.bind_eq_some_iff.mp isRead
  obtain ⟨_, isInvocations, -⟩ := Option.bind_eq_some_iff.mp isRead
  obtain ⟨inner, rfl, rfl⟩ := fields_of_written (by simp) isFound
  have each := list_each network (required_written (by simp) (by rfl) isInvocations)
  have within : state.levels ≤ (inner - 2) / 2 := by
    refine ExecutionTrace.levelsOf_le.mpr fun trace isTrace => ?_
    obtain ⟨invocation, isInvocation, isTrace⟩ := List.mem_filterMap.mp isTrace
    obtain ⟨deeper, other, rfl, isOther⟩ := each invocation isInvocation
    have fits := invocation_fits network isOther trace isTrace
    omega
  omega

/-! ## What reads back -/

/-- A tree reads back as far as its levels fit, and is read as nothing beyond that.
-/
theorem trace_read (network : Network) (depth : Nat) (trace : ExecutionTrace) :
    read depth (write network trace) = if 2 * trace.levels ≤ depth then some trace else none := by
  by_cases fits : 2 * trace.levels ≤ depth
  · rw [if_pos fits]
    exact readTrace_reads network depth trace
      (Nat.le_trans (Nat.le_of_eq (trace_nesting network trace)) fits)
  · rw [if_neg fits, Option.eq_none_iff_forall_ne_some]
    intro other isRead
    exact fits (readTrace_fits network depth trace other isRead)

/-- A state reads back as far as the levels of its calls fit, and is read
as nothing beyond that. -/
theorem state_read (network : Network) {depth : Nat} (enough : 5 ≤ depth) (state : ComputedState) :
    read depth (write network state) = if 2 * state.levels + 3 ≤
      depth then some state else none := by
  by_cases fits : 2 * state.levels + 3 ≤ depth
  · have bound := state_nesting network state
    rw [if_pos fits]
    exact Faithful.reads network state depth (by omega)
  · rw [if_neg fits, Option.eq_none_iff_forall_ne_some]
    intro other isRead
    have bound := state_fits network isRead
    omega

/-- Of the limit of containers each level of calls takes two, and a state takes
three more. Within it the text of every trace reads back, and so does every answer
to a question for the state of a tipset. Beyond it neither is read at all. -/
theorem calls_read_within (network : Network) :
    (∀ trace : ExecutionTrace, read? ExecutionTrace (write network trace).text =
      if 2 * trace.levels ≤ Json.maxDepth then some trace else none) ∧
    (∀ state : ComputedState, read? ComputedState (write network state).text =
      if 2 * state.levels + 3 ≤ Json.maxDepth then some state else none) ∧
    ∀ height key (state : ComputedState),
      Lotus.answerOf (.computeState height key) (.result (write network state)) =
        if 2 * state.levels + 3 ≤ Json.maxDepth then .ok state else .error .unreadable := by
  refine ⟨?_, ?_, ?_⟩
  · intro trace
    rw [read_written, trace_read]
  · intro state
    rw [read_written, state_read network (by decide)]
  · intro height key state
    change Lotus.readResult read (write network state) = _
    rw [Lotus.readResult, state_read network (by decide)]
    by_cases fits : 2 * state.levels + 3 ≤ Json.maxDepth
    · rw [if_pos fits, if_pos fits]
    · rw [if_neg fits, if_neg fits]

end LotusJson

/-! ## Payments within each other -/

namespace LotusJson.Payments

open Directory (Undone.answers Undone.invocation)

/-- One payment. -/
def call : CallTrace := ⟨.id 101, .id 102, ⟨1⟩, 0, [], 0⟩

/-- Payments within each other, one level more than the number says. -/
def nested : Nat → ExecutionTrace
  | 0 => .node call ⟨0, [], 0⟩ []
  | more + 1 => .node call ⟨0, [], 0⟩ [nested more]

/-- No code is registered. -/
def directory : Directory := ⟨⟨[]⟩, .testnet⟩

/-- Each further call adds one level, so traces of any depth exist. -/
theorem nested_levels (more : Nat) : (nested more).levels = more + 1 := by
  induction more with
  | zero => rfl
  | succ more ih =>
    rw [nested, ExecutionTrace.levels, ExecutionTrace.levelsOf, ExecutionTrace.levelsOf, ih,
      Nat.max_zero]

/-- Each call of such a trace becomes one pair of operations, at
whatever depth it is. -/
theorem nested_pairs (more : Nat) :
    (directory.pairsOfTrace Undone.answers (nested more)).length = more + 1 := by
  have pays : (directory.pairsOfCall Undone.answers call ⟨0, [], 0⟩).length = 1 := rfl
  induction more with
  | zero => exact pays
  | succ more ih =>
    rw [nested, Directory.pairsOfTrace, Directory.pairsOfTraces, Directory.pairsOfTraces,
      List.append_nil, List.length_append, pays, ih, Nat.add_comm]

/-- Payments are told at any depth, each as a debit and a credit. -/
theorem nested_told (more : Nat) :
    ((directory.operations { Undone.invocation with trace := some (nested more) }).run
      (Node.constant Undone.answers) .fresh).1.length = 2 * (more + 1) := by
  have told : ((directory.operations { Undone.invocation with trace := some (nested more) }).run
      (Node.constant Undone.answers) .fresh).1 = _ :=
    (Directory.operations_yield (Node.constant_steady Undone.answers) _ .fresh
      Directory.coherent_empty).1
  have moved (pairs : List Transfer) : Directory.numbered pairs = Transfer.operationsFrom 0 pairs :=
    (Directory.operationsFrom_numbered pairs 0).symm
  rw [told, Directory.operationsByRecursion]
  dsimp only
  rw [if_pos (.inr rfl), List.append_nil, moved, Directory.operationsFrom_length, nested_pairs]

/-- Of sixty-five payments within each other all are told, and none can be read. -/
theorem deep_payments_unread :
    let trace := nested 64
    trace.levels = 65 ∧
      ((directory.operations { Undone.invocation with trace := some trace }).run
        (Node.constant Undone.answers) .fresh).1.length = 2 * 65 ∧
      read? ExecutionTrace (write .testnet trace).text = none := by
  intro trace
  refine ⟨nested_levels 64, nested_told 64, ?_⟩
  rw [read_written, trace_read, nested_levels, if_neg (by decide)]

end LotusJson.Payments

end FilecoinRosetta
