import FilecoinRosetta.Proofs.Program.Calls
import FilecoinRosetta.Proofs.Transaction.PreOrder
import FilecoinRosetta.Proofs.Transaction.Shape

/-!
# What a status says

What a call did lasts only if the call succeeded and all calls around it did, since
a failed call is undone with everything inside it. The status of an operation says
less: it is that of the call that made it, whatever became of the calls around.
Where no call succeeded inside a failed one that is the same; elsewhere operations
are told to have taken effect that were undone.
-/

namespace FilecoinRosetta

open Program

namespace ExecutionTrace

/-- A call of a trace, how it ended, and how the calls around it
ended, the outermost first. -/
structure Place where
  call : CallTrace
  result : ReturnTrace
  /-- The results of the calls around it. -/
  enclosing : List ReturnTrace

/-- Whether what the call did lasts. -/
def Place.lasts (place : Place) : Bool :=
  (place.enclosing ++ [place.result]).all ReturnTrace.isSuccess

/-- A call lasts only if it succeeded itself, whatever became of
the calls around it. -/
theorem Place.succeeded_of_lasts {place : Place} (lasts : place.lasts = true) :
    place.result.isSuccess = true := by
  unfold Place.lasts at lasts
  rw [List.all_append, Bool.and_eq_true] at lasts
  exact List.all_eq_true.mp lasts.2 _ (List.mem_singleton_self _)

mutual

/-- The places of a trace inside of some calls: its own, followed by
those of its calls. -/
def places (enclosing : List ReturnTrace) : ExecutionTrace → List Place
  | node call result subcalls =>
      ⟨call, result, enclosing⟩ :: placesOfAll (enclosing ++ [result]) subcalls

/-- The places of several traces in their order. -/
def placesOfAll (enclosing : List ReturnTrace) : List ExecutionTrace → List Place
  | [] => []
  | first :: rest => places enclosing first ++ placesOfAll enclosing rest

end

/-- The places of traces, each with the calls around it. -/
def placesOfPending (pending : List (List ReturnTrace × ExecutionTrace)) : List Place :=
  pending.flatMap fun (enclosing, trace) => places enclosing trace

/-- Calls inside the same calls are at the places of several traces. -/
theorem placesOfPending_inside (enclosing : List ReturnTrace) (traces : List ExecutionTrace)
    (rest : List (List ReturnTrace × ExecutionTrace)) :
    placesOfPending (traces.map (fun trace => (enclosing, trace)) ++ rest) =
      placesOfAll enclosing traces ++ placesOfPending rest := by
  induction traces with
  | nil => rfl
  | cons trace traces ih =>
    rw [placesOfAll, List.append_assoc, ← ih]
    rfl

end ExecutionTrace

namespace Directory

open ExecutionTrace

variable (directory : Directory) (node : Node)

/-- The transfers that the call at a place makes at some time,
its own calls apart. -/
def MadeAt (place : Place) (own : List Transfer) : Prop :=
  ∃ earlier, own = ((directory.ownTransfers place.call place.result).run node earlier).1

/-- A transfer is told to have taken effect exactly if its call succeeded. -/
theorem madeAt_status {place : Place} {own : List Transfer}
    (made : directory.MadeAt node place own) :
    ∀ transfer ∈ own, transfer.status = some .ok ↔ place.result.isSuccess = true := by
  obtain ⟨earlier, rfl⟩ := made
  have marked : Ensures (directory.ownTransfers place.call place.result) fun own =>
      ∀ transfer ∈ own, transfer.status = some (.ofSuccess place.result.isSuccess) := by
    refine Ensures.after _ ?_
    intro name
    refine Ensures.weaken (directory.transfers_made name _ _) ?_
    exact fun own made transfer member => (made transfer member).2.1
  intro transfer member
  rw [marked node earlier transfer member]
  cases place.result.isSuccess with
  | true => exact iff_of_true rfl rfl
  | false => exact iff_of_false (fun impossible => nomatch impossible) Bool.false_ne_true

/-- The visit finds what the calls still pending make, place by place, behind
what was found before. -/
theorem visit_places (pending : List (List ReturnTrace × ExecutionTrace)) (found : List Transfer) :
    Meets node (fun _ => True) (directory.visit (pending.map Prod.snd) found) fun transfers _ =>
      ∃ groups : List (Place × List Transfer), groups.map Prod.fst = placesOfPending pending ∧
        (∀ group ∈ groups, directory.MadeAt node group.1 group.2) ∧
        transfers = found.reverse ++ groups.flatMap Prod.snd := by
  -- The calls around the pending ones play no part in the visit, so the induction
  -- is for any of them.
  generalize isPending : pending.map Prod.snd = traces
  induction traces, found using visit.induct generalizing pending with
  | case1 found =>
    obtain rfl := List.map_eq_nil_iff.mp isPending
    rw [visit]
    exact Meets.result ⟨[], rfl, List.forall_mem_nil _, (List.append_nil _).symm⟩
  | case2 call result subcalls rest found ih =>
    obtain ⟨⟨enclosing, trace⟩, others, rfl, rfl, rfl⟩ := List.map_eq_cons_iff.mp isPending
    rw [visit]
    apply (Meets.itself node (directory.ownTransfers call result)).seq
    rintro own _ ⟨earlier, isOwn⟩
    have stacked :
        (subcalls.map (fun trace => (enclosing ++ [result], trace)) ++ others).map Prod.snd =
        subcalls ++ others.map Prod.snd := by
      rw [List.map_append, List.map_map]
      exact congrArg (· ++ others.map Prod.snd) (List.map_id subcalls)
    apply (ih _ _ stacked).weaken
    rintro transfers _ ⟨groups, placed, made, rfl⟩
    refine ⟨(⟨call, result, enclosing⟩, own) :: groups, ?_, ?_, ?_⟩
    · rw [List.map_cons, placed, placesOfPending_inside]
      rfl
    · rw [List.forall_mem_cons]
      exact ⟨⟨earlier, isOwn⟩, made⟩
    · rw [List.reverse_append, List.reverse_reverse, List.append_assoc]
      rfl

/-- The operations of an execution are those of what its calls
make, place by place. -/
theorem operations_places (invocation : Invocation) (root : ExecutionTrace) :
    Meets node (fun _ => True) (directory.operations { invocation with trace := some root })
      fun operations _ => ∃ groups : List (Place × List Transfer),
        groups.map Prod.fst = root.places [] ∧
        (∀ group ∈ groups, directory.MadeAt node group.1 group.2) ∧
        let transfers := groups.flatMap Prod.snd
        (transfers = [] ∧ operations = []) ∨
          (transfers ≠ [] ∧ ∃ fee, operations = operationsOf transfers fee) := by
  have visited : Meets node (fun _ => True) (directory.visit [root] []) _ :=
    directory.visit_places node [([], root)] []
  apply visited.seq
  rintro transfers _ ⟨groups, placed, made, isAll⟩
  have placed : groups.map Prod.fst = root.places [] := placed.trans (List.append_nil _)
  have isAll : transfers = groups.flatMap Prod.snd := isAll
  cases transfers with
  | nil => exact Meets.result ⟨groups, placed, made, .inl ⟨isAll.symm, rfl⟩⟩
  | cons first rest =>
    apply (Meets.itself node _).seq
    intro fee _ _
    apply Meets.result
    refine ⟨groups, placed, made, .inr ?_⟩
    rw [← isAll]
    exact ⟨List.cons_ne_nil first rest, fee, rfl⟩

/-- The operations of an execution are those that its calls make, in their order,
and a transfer is told to have taken effect exactly if its own call succeeded. Where
no call succeeded inside a failed one, that is exactly if it lasts. Elsewhere a
transfer may be told to have taken effect that was undone with a call around it. -/
theorem statuses_own (session : Session) (invocation : Invocation) (root : ExecutionTrace) :
    ∃ groups : List (Place × List Transfer), groups.map Prod.fst = root.places [] ∧
      (∀ place own, (place, own) ∈ groups → directory.MadeAt node place own ∧
        ∀ transfer ∈ own, transfer.status = some .ok ↔ place.result.isSuccess = true) ∧
      ((∀ place ∈ root.places [], place.result.isSuccess = true → place.lasts = true) →
        ∀ place own, (place, own) ∈ groups →
          ∀ transfer ∈ own, transfer.status = some .ok ↔ place.lasts = true) ∧
      let transfers := groups.flatMap Prod.snd
      let operations :=
        ((directory.operations { invocation with trace := some root }).run node session).1
      (transfers = [] ∧ operations = []) ∨
        (transfers ≠ [] ∧ ∃ fee, operations = operationsOf transfers fee) := by
  obtain ⟨groups, placed, made, told⟩ :=
    (directory.operations_places node invocation root session trivial).1
  refine ⟨groups, placed, ?_, ?_, told⟩
  · intro place own member
    exact ⟨made _ member, directory.madeAt_status node (made _ member)⟩
  · intro undone place own member transfer isOwn
    have isPlace : place ∈ root.places [] := placed ▸ List.mem_map_of_mem member
    rw [directory.madeAt_status node (made _ member) transfer isOwn]
    exact ⟨undone place isPlace, Place.succeeded_of_lasts⟩

end Directory

/-! ## A transfer that was undone -/

namespace Directory.Undone

/-- A call without a value that failed, with a payment inside it that succeeded. -/
def root : ExecutionTrace :=
  .node ⟨.id 101, .id 102, 0, 0, [], 0⟩ ⟨33, [], 0⟩
    [.node ⟨.id 102, .id 103, ⟨5⟩, 0, [], 0⟩ ⟨0, [], 0⟩ []]

/-- The execution of the call, which was for free. -/
def invocation : Invocation where
  messageCid := .default
  message := ⟨0, .id 102, .id 101, 0, 0, 0, 0, 0, 0, [], none⟩
  receipt := none
  error := ""
  gasCost := ⟨none, 0, 0, 0, 0, 0, 0, 0⟩
  trace := some root

/-- The answers of a node that knows an actor at every address. -/
def answers : Node.Answers
  | .actor _ _ => .ok (some ⟨.default, .default, 0, 0, none⟩)
  | .robustAddress address _ => .ok address
  | _ => .error .unreachable

end Directory.Undone

/-- The call at the root failed, so nothing in the trace lasts; and yet the payment
inside it is told to have taken effect. -/
theorem Directory.undone_told_ok :
    let directory : Directory := ⟨⟨[]⟩, .testnet⟩
    let node := Node.constant Undone.answers
    (∀ place ∈ Undone.root.places [], place.lasts = false) ∧
      ∃ debit credit,
        ((directory.operations Undone.invocation).run node .fresh).1 = [debit, credit] ∧
        debit.status = some .ok ∧ credit.status = some .ok ∧ credit.amount = ⟨5⟩ := by
  intro directory node
  have told : ((directory.operations Undone.invocation).run node .fresh).1 =
      directory.operationsByRecursion Undone.answers Undone.invocation :=
    (operations_yield (Node.constant_steady Undone.answers) Undone.invocation .fresh
      coherent_empty).1
  constructor
  · decide
  · rw [told]
    refine ⟨_, _, rfl, ?_, ?_, ?_⟩
    · rfl
    · rfl
    · rfl

end FilecoinRosetta
