import FilecoinRosetta.Proofs.Transaction.CallOrder
import FilecoinRosetta.Proofs.Transaction.Shape

/-!
# Exported calls of accounts

Accounts have no code of their own that an exported call could run, so on the chain
such a call moves its value like a plain send. Here that depends on the number of
the method. If no actor ever declared the number the call is told as a send. If some
actor did, the call goes by that actor's name for it, which is not the name of any
method that transfers, and its value is not told at all.
-/

namespace FilecoinRosetta

/-! ## Names of exported methods -/

namespace Actor

/-- Exported methods transfer nothing by their names, on any actor. All declared
methods are gone through. -/
theorem exported_not_transfer : ∀ method ∈ ActorKind.all.flatMap methodsOf,
    firstExported ≤ method.number → method.name ∉ Movement.transferNames := by
  decide +kernel

/-- All kinds of actors are listed. -/
theorem kind_listed (kind : ActorKind) : kind ∈ ActorKind.all := by
  cases kind <;> decide

/-- A method that a descriptor finds is declared in the table of its actor. -/
theorem methodName_declared {descriptor : Descriptor} {number : UInt64} {name : String}
    (found : descriptor.methodName? number = some name) :
    ∃ method ∈ ActorKind.all.flatMap methodsOf, method.number = number ∧ method.name = name := by
  obtain ⟨method, isFirst, rfl⟩ := Option.map_eq_some_iff.mp found
  have listed : method ∈ methodsOf descriptor.kind :=
    (List.mem_filter.mp (List.mem_of_find?_eq_some isFirst)).1
  refine ⟨method, List.mem_flatMap.mpr ⟨descriptor.kind, kind_listed _, listed⟩, ?_, rfl⟩
  simpa using List.find?_some isFirst

/-- A method that is found among all actors is declared in the table
of one of them. -/
theorem findMethod_declared {number : UInt64} {name : String}
    (found : Registry.findMethod? number = some name) :
    ∃ method ∈ ActorKind.all.flatMap methodsOf, method.number = number ∧ method.name = name := by
  obtain ⟨method, isFirst, rfl⟩ := Option.map_eq_some_iff.mp found
  refine ⟨method, List.mem_of_find?_eq_some isFirst, ?_, rfl⟩
  simpa using List.find?_some isFirst

/-- A number that no table declares is declared by no descriptor, as descriptors
have the methods of the tables. -/
theorem methodName_undeclared {number : UInt64} (undeclared : Registry.findMethod? number = none)
    (descriptor : Descriptor) : descriptor.methodName? number = none := by
  cases found : descriptor.methodName? number with
  | none => rfl
  | some name =>
    obtain ⟨method, listed, isNumber, -⟩ := methodName_declared found
    have absent := List.find?_eq_none.mp (Option.map_eq_none_iff.mp undeclared) method listed
    simp [isNumber] at absent

end Actor

namespace Directory

open Actor

/-! ## Calls that pay accounts -/

/-- A call of an exported method that takes value to an account, from or to
an address that resolves. -/
structure PaysAccount (directory : Directory) (answers : Node.Answers) (call : CallTrace) :
    Prop where
  /-- The value is not nothing. -/
  valued : call.value.atto ≠ 0
  /-- Anyone may call the method. -/
  exported : firstExported ≤ call.method
  /-- The receiver is some kind of account. -/
  account : ∃ code descriptor, directory.codeOf answers call.receiver = .ok code ∧
    directory.registry.resolve? code = some descriptor ∧ descriptor.kind.isAccountLike = true
  /-- One of both addresses resolves. -/
  resolves : (∃ text, directory.keyOf answers call.sender = .ok text) ∨
    ∃ text, directory.keyOf answers call.receiver = .ok text

variable {directory : Directory} {answers : Node.Answers}

/-- The number of an exported method has nothing to do with those of the methods
that all actors have. -/
theorem exported_numbers {number : UInt64} (exported : firstExported ≤ number) :
    number ≠ 0 ∧ number ≠ 1 := by
  constructor
  · rintro rfl
    exact absurd exported (by decide)
  · rintro rfl
    exact absurd exported (by decide)

/-- An exported method of an account goes by the name of a send exactly where no
actor declares its number; elsewhere its name is that of an exported method. -/
theorem nameOf_exported {call : CallTrace} (pays : directory.PaysAccount answers call) :
    match Registry.findMethod? call.method with
    | none => directory.nameOf answers call.receiver call.method = sendName
    | some _ => directory.nameOf answers call.receiver call.method ∉ Movement.transferNames := by
  obtain ⟨notSend, notConstructor⟩ := exported_numbers pays.exported
  obtain ⟨code, descriptor, isCode, resolved, accountLike⟩ := pays.account
  have named : directory.nameOf answers call.receiver call.method =
      (descriptor.methodName? call.method).getD
        ((Registry.findMethod? call.method).getD sendName) := by
    rw [nameOf, if_neg notSend, if_neg notConstructor, isCode]
    simp only [methodOfCode, resolved, accountLike, pays.exported, decide_true, Bool.and_self]
    cases descriptor.methodName? call.method <;> rfl
  rw [named]
  cases declared : Registry.findMethod? call.method with
  | none => simp [methodName_undeclared declared]
  | some elsewhere =>
    have isExported {name : String} (found : ∃ method ∈ ActorKind.all.flatMap methodsOf,
        method.number = call.method ∧ method.name = name) : name ∉ Movement.transferNames := by
      obtain ⟨method, listed, isNumber, rfl⟩ := found
      exact exported_not_transfer method listed (isNumber ▸ pays.exported)
    cases own : descriptor.methodName? call.method with
    | none => simpa using isExported (findMethod_declared declared)
    | some name => simpa using isExported (methodName_declared own)

/-- A call of a method that does not transfer makes no pairs. -/
theorem pairsOfCall_untold {call : CallTrace} (result : ReturnTrace)
    (untold : directory.nameOf answers call.receiver call.method ∉ Movement.transferNames) :
    directory.pairsOfCall answers call result = [] := by
  have still :
      Movement.ofCall (directory.nameOf answers call.receiver call.method) call result = [] := by
    apply List.eq_nil_iff_forall_not_mem.mpr
    intro movement moves
    exact untold (Movement.movement_named _ _ _ movement moves)
  rw [pairsOfCall_movements]
  simp [still]

/-- Where one address resolves there is a pair. The other account then goes by the
text of its own address. -/
theorem pairOf_resolved {type : String} {success : Bool} {sender receiver : Address}
    {value : TokenAmount}
    (resolves : (∃ text, directory.keyOf answers sender = .ok text) ∨
      ∃ text, directory.keyOf answers receiver = .ok text) :
    directory.pairOf answers type success sender receiver value =
      [⟨type, some (if success then .ok else .failed), directory.accountOf answers sender,
        directory.accountOf answers receiver, value⟩] := by
  unfold pairOf
  rcases resolves with ⟨text, isKey⟩ | ⟨text, isKey⟩
  · simp only [isKey]
  · cases directory.keyOf answers sender with
    | ok other => rfl
    | error cause => simp only [isKey]

/-- A send makes one pair, if it has a value. -/
theorem pairsOfCall_send {call : CallTrace} (result : ReturnTrace) (valued : call.value.atto ≠ 0)
    (isSend : directory.nameOf answers call.receiver call.method = sendName) :
    directory.pairsOfCall answers call result =
      directory.pairOf answers sendName result.isSuccess call.sender call.receiver call.value := by
  have pays : (Movement.payingNames.contains sendName && !call.value.isZero) = true :=
    (pays_iff sendName call.value).mpr ⟨by decide, valued⟩
  have moved :
      Movement.ofCall sendName call result = [⟨call.sender, call.receiver, call.value⟩] := by
    rw [Movement.ofCall, if_neg (by decide), if_neg (by decide), if_pos pays, if_neg (by decide)]
  rw [pairsOfCall_movements]
  simp [isSend, moved]

end Directory

/-! ## The service -/

namespace Rosetta.Service

open Actor

/-- On a node with constant answers, and after any requests or none, a call of an
exported method that takes value to an account stands among the operations of its
execution as a debit of its sender and a credit of its receiver where no actor ever
declared the number of the method. Where some actor did, the operations are those of
all the other calls. -/
theorem exported_calls_told (service : Service) (anyOrigin : Bool) (answers : Node.Answers)
    (earlier : List HttpRequest) (invocation : Invocation) (root : ExecutionTrace)
    (before after : List (CallTrace × ReturnTrace)) (call : CallTrace) (result : ReturnTrace)
    (isCall : root.calls = before ++ (call, result) :: after)
    (pays : service.directory.PaysAccount answers call) :
    let directory := service.directory
    let node := Node.constant answers
    let operations := ((directory.operations { invocation with trace := some root }).run node
      (service.sessionAfter anyOrigin node earlier)).1
    let told (calls : List (CallTrace × ReturnTrace)) : List Transfer :=
      calls.flatMap fun (call, result) => directory.pairsOfCall answers call result
    let position := 2 * (told before).length
    let status : OperationStatus := if result.exitCode == 0 then .ok else .failed
    match Registry.findMethod? call.method with
    | none =>
        operations[position]? = some ⟨position, none, "Send", some status,
          directory.accountOf answers call.sender, -call.value⟩ ∧
        operations[position + 1]? = some ⟨position + 1, some position, "Send", some status,
          directory.accountOf answers call.receiver, call.value⟩
    | some _ => ∃ fee, operations = Directory.numbered (told (before ++ after)) ++ fee := by
  intro directory node operations told position status
  have coherent := service.sessionAfter_coherent anyOrigin node answers earlier
  have recorded :
      ∃ fee, operations = Directory.numbered (directory.pairsOfTrace answers root) ++ fee := by
    have yields : Program.Yields node (directory.Coherent node answers) _ _ :=
      Directory.operations_yield (Node.constant_steady answers)
        { invocation with trace := some root }
    exact ⟨_, (yields _ coherent).1⟩
  have split : directory.pairsOfTrace answers root = told before ++
      (directory.pairsOfCall answers call result ++ told after) := by
    rw [Directory.pairsOfTrace_calls, isCall, List.flatMap_append, List.flatMap_cons]
  obtain ⟨fee, recorded⟩ := recorded
  rw [split] at recorded
  have named := Directory.nameOf_exported pays
  cases declared : Registry.findMethod? call.method with
  | none =>
    rw [declared] at named
    rw [Directory.pairsOfCall_send result pays.valued named,
      Directory.pairOf_resolved pays.resolves, List.singleton_append] at recorded
    rw [recorded]
    exact Directory.numbered_pair (told before) (told after) _ fee
  | some name =>
    rw [declared] at named
    rw [Directory.pairsOfCall_untold result named] at recorded
    refine ⟨fee, ?_⟩
    simpa [told] using recorded

end Rosetta.Service

/-! ## Two calls of an account -/

namespace Rosetta.Service.Exported

open Actor

/-- The service, which knows the code of one kind of account. -/
def service : Service := ⟨⟨[⟨16, [(.default, .ethAccount)]⟩]⟩, "calibnet", ⟨false, false⟩⟩

/-- The answers of a node on which every address is that of such an account. -/
def answers : Node.Answers
  | .actor _ _ => .ok (some ⟨.default, .default, 0, 0, none⟩)
  | .robustAddress address _ => .ok address
  | _ => .error .unreachable

/-- A call that takes a value to an account. -/
def call (method : UInt64) : CallTrace := ⟨.id 101, .id 102, ⟨5⟩, method, [], 0⟩

/-- A number that the contracts of another actor declare. -/
def declared : UInt64 := 3844450837

/-- A number that no actor declares. -/
def undeclared : UInt64 := 0x40000000

/-- The end of a call that succeeded. -/
def success : ReturnTrace := ⟨0, [], 0⟩

/-- The execution of some calls, which was for free. -/
def execution (root : ExecutionTrace) : Invocation where
  messageCid := .default
  message := ⟨0, .id 102, .id 101, 0, 0, 0, 0, 0, 0, [], none⟩
  receipt := none
  error := ""
  gasCost := ⟨none, 0, 0, 0, 0, 0, 0, 0⟩
  trace := some root

/-- Every call of an exported method takes the value to an account. -/
theorem pays_account (method : UInt64) (exported : firstExported ≤ method) :
    service.directory.PaysAccount answers (call method) where
  valued := by simp [call]
  exported := exported
  account := ⟨.default, ⟨.default, 16, .ethAccount⟩, rfl, by decide +kernel, rfl⟩
  resolves := .inl ⟨_, rfl⟩

end Rosetta.Service.Exported

namespace Rosetta.Service

open Exported

/-- A call of an undeclared number inside of one of a declared number: only the
value of the inner call is told, as the first debit and credit of the operations. -/
theorem undeclared_call_told :
    let root : ExecutionTrace := .node (call declared) success [.node (call undeclared) success []]
    let operations := ((service.directory.operations (execution root)).run (Node.constant answers)
      (service.sessionAfter false (Node.constant answers) [])).1
    service.directory.PaysAccount answers (call undeclared) ∧
      operations[0]?.map Operation.amount = some ⟨-5⟩ ∧
      operations[1]?.map Operation.amount = some ⟨5⟩ := by
  intro root operations
  have pays := pays_account undeclared (by decide)
  have nothing :
      service.directory.pairsOfCall answers (call declared) success = [] := by decide +kernel
  have number : Actor.Registry.findMethod? undeclared = none := by decide +kernel
  have told := service.exported_calls_told false answers [] (execution root) root
    [(call declared, success)] [] (call undeclared) success rfl pays
  simp only [List.flatMap_cons, List.flatMap_nil, nothing] at told
  rw [show (call undeclared).method = undeclared from rfl, number] at told
  refine ⟨pays, ?_, ?_⟩
  · exact congrArg (Option.map Operation.amount) told.1
  · exact congrArg (Option.map Operation.amount) told.2

/-- A call of a number that contracts declare takes a value to an account, and
no operation tells it. -/
theorem declared_call_untold :
    service.directory.PaysAccount answers (call declared) ∧
      ((service.directory.operations (execution (.node (call declared) success []))).run
        (Node.constant answers) .fresh).1 = [] := by
  refine ⟨pays_account declared (by decide), ?_⟩
  have told : ((service.directory.operations (execution (.node (call declared) success []))).run
      (Node.constant answers) .fresh).1 = _ :=
    (Directory.operations_yield (Node.constant_steady answers) _ .fresh Directory.coherent_empty).1
  rw [told]
  decide +kernel

end Rosetta.Service

end FilecoinRosetta
