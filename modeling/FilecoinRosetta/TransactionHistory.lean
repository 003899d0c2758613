import FilecoinRosetta.Movement
import FilecoinRosetta.Operation

/-!
# From executions to transactions

Every message becomes one transaction. Its calls are visited parents first, each in
the order it was made, however deep they nest: the calls still to be visited are
kept in a list, so the depth of a trace costs no depth of recursion. Messages that
move nothing are left out.
-/

namespace FilecoinRosetta

namespace ExecutionTrace

mutual

/-- The number of calls in a trace. -/
def size : ExecutionTrace → Nat
  | node _ _ subcalls => sizes subcalls + 1

/-- The number of calls in several traces. -/
def sizes : List ExecutionTrace → Nat
  | [] => 0
  | first :: rest => size first + sizes rest

end

/-- The calls of two lists of traces are those of the first and
those of the second. -/
theorem sizes_append (first second : List ExecutionTrace) :
    sizes (first ++ second) = sizes first + sizes second := by
  induction first with
  | nil => simp [sizes]
  | cons head rest ih => simp only [List.cons_append, sizes, ih]; omega

end ExecutionTrace

namespace Directory

/-- The names of both accounts of a movement. The one that cannot be looked up goes
    by the address itself; where neither can, the movement is dropped. -/
def accounts? (directory : Directory) (movement : Movement) :
    Program (Option (String × String)) := do
  let sender ← (directory.canonicalText movement.sender).run
  let receiver ← (directory.canonicalText movement.receiver).run
  match sender, receiver with
  | .error _, .error _ => return none
  | .ok sender, .ok receiver => return some (sender, receiver)
  | .ok sender, .error _ => return some (sender, movement.receiver.text directory.network)
  | .error _, .ok receiver => return some (movement.sender.text directory.network, receiver)

/-- The transfers of movements of one type and status. -/
def transfers (directory : Directory) (type : String) (status : OperationStatus) :
    List Movement → Program (List Transfer)
  | [] => return []
  | movement :: rest => do
      let accounts ← directory.accounts? movement
      let later ← directory.transfers type status rest
      match accounts with
      | none => return later
      | some (sender, receiver) =>
          return ⟨type, some status, sender, receiver, movement.value⟩ :: later

/-- The transfers of one call, its own calls apart. -/
def ownTransfers (directory : Directory) (call : CallTrace) (result : ReturnTrace) :
    Program (List Transfer) := do
  let name ← directory.methodName call.receiver call.method
  directory.transfers name (OperationStatus.ofSuccess result.isSuccess)
    (Movement.ofCall name call result)

/-- Visit the calls of some traces in order; what was found before is
kept the last first. -/
def visit (directory : Directory) :
    (pending : List ExecutionTrace) → (found : List Transfer) → Program (List Transfer)
  | [], found => return found.reverse
  | .node call result subcalls :: rest, found => do
      let own ← directory.ownTransfers call result
      directory.visit (subcalls ++ rest) (own.reverse ++ found)
termination_by pending => ExecutionTrace.sizes pending
decreasing_by
  simp only [ExecutionTrace.sizes, ExecutionTrace.size, ExecutionTrace.sizes_append]
  omega

/-- The fee of an execution, unless it was free. -/
def fee? (directory : Directory) (invocation : Invocation) : Program (Option Fee) :=
  if invocation.gasCost.totalCost.isZero then return none
  else do
    let account ← directory.canonicalOrOwnText invocation.message.sender
    return some ⟨account, invocation.gasCost.totalCost⟩

/-- The operations of one execution. Where nothing moved there is no fee either. -/
def operations (directory : Directory) (invocation : Invocation) : Program (List Operation) :=
  match invocation.trace with
  | none => return []
  | some root => do
      match ← directory.visit [root] [] with
      | [] => return []
      | first :: rest =>
          let fee ← directory.fee? invocation
          return operationsOf (first :: rest) fee

/-- The transactions of executions in order. -/
def transactions (directory : Directory) : List Invocation → Program (List Transaction)
  | [] => return []
  | invocation :: rest => do
      let operations ← directory.operations invocation
      let later ← directory.transactions rest
      if operations.isEmpty then return later
      else return ⟨invocation.messageCid.text, operations⟩ :: later

end Directory

end FilecoinRosetta
