import FilecoinRosetta.Proofs.Transaction.PreOrder

/-!
# The calls of a trace

The calls of a trace form one list, parents first. What a trace moves is what these
calls move one after another, so a statement about a single call of a trace is one
about an entry of the list.
-/

namespace FilecoinRosetta

namespace ExecutionTrace

mutual

/-- The calls of a trace with their results, each before the calls
made on its behalf. -/
def calls : ExecutionTrace → List (CallTrace × ReturnTrace)
  | node call result subcalls => (call, result) :: callsOfAll subcalls

/-- The calls of several traces in their order. -/
def callsOfAll : List ExecutionTrace → List (CallTrace × ReturnTrace)
  | [] => []
  | first :: rest => calls first ++ callsOfAll rest

end

/-- The calls of two lists of traces are those of the first and
those of the second. -/
theorem callsOfAll_append (first second : List ExecutionTrace) :
    callsOfAll (first ++ second) = callsOfAll first ++ callsOfAll second := by
  induction first with
  | nil => rfl
  | cons trace rest ih => simp [callsOfAll, ih]

end ExecutionTrace

namespace Directory

open ExecutionTrace

variable {directory : Directory} {answers : Node.Answers}

mutual

/-- The pairs of a trace are those of its calls, in the order in
which they were made. -/
theorem pairsOfTrace_calls : (trace : ExecutionTrace) →
    directory.pairsOfTrace answers trace =
      trace.calls.flatMap fun (call, result) => directory.pairsOfCall answers call result
  | .node call result subcalls => by
    rw [pairsOfTrace, calls, List.flatMap_cons, pairsOfTraces_calls subcalls]

/-- The pairs of several traces are those of their calls. -/
theorem pairsOfTraces_calls : (traces : List ExecutionTrace) →
    directory.pairsOfTraces answers traces =
      (callsOfAll traces).flatMap fun (call, result) => directory.pairsOfCall answers call result
  | [] => rfl
  | first :: rest => by
    rw [pairsOfTraces, callsOfAll, List.flatMap_append, pairsOfTrace_calls first,
      pairsOfTraces_calls rest]

end

/-- A pair stands in operations as a debit and the credit
behind it, whatever follows. -/
theorem numbered_pair (before after : List Transfer) (pair : Transfer) (fee : List Operation) :
    (numbered (before ++ pair :: after) ++ fee)[2 * before.length]? =
        some ⟨2 * before.length, none, pair.type, pair.status, pair.sender, -pair.value⟩ ∧
      (numbered (before ++ pair :: after) ++ fee)[2 * before.length + 1]? =
        some ⟨2 * before.length + 1, some (2 * before.length), pair.type, pair.status,
          pair.receiver, pair.value⟩ := by
  have counted : (numbered before).length = 2 * before.length := by
    have fromStart : numbered before = Transfer.operationsFrom 0 before :=
      (operationsFrom_numbered before 0).symm
    rw [fromStart, operationsFrom_length]
  obtain ⟨later, split⟩ : ∃ later, numbered (before ++ pair :: after) = numbered before ++
      ⟨2 * before.length, none, pair.type, pair.status, pair.sender, -pair.value⟩ ::
      ⟨2 * before.length + 1, some (2 * before.length), pair.type, pair.status, pair.receiver,
        pair.value⟩ :: later := by
    simp [numbered, List.zipIdx_append]
  rw [split]
  simp [counted]

end Directory

end FilecoinRosetta
