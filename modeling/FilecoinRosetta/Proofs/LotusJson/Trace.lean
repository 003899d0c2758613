import FilecoinRosetta.Proofs.LotusJson.Types

/-!
# Executions are faithful

A tree of calls is a record with a list of trees in it, and is read and
written as one. So what holds of the calls of a call holds of the call,
with two containers more around them: the trees are faithful by induction
on the containers that are allowed.
-/

namespace FilecoinRosetta.LotusJson

open Json

/-! ## Trees of calls as records -/

/-- A list of traces is written trace by trace, as any other list is. -/
theorem writeTraces_map (network : Network) (traces : List ExecutionTrace) :
    writeTraces network traces = traces.map (writeTrace network) := by
  induction traces with
  | nil => rw [writeTraces, List.map_nil]
  | cons first rest ih => rw [writeTraces, List.map_cons, ih]

/-- A call is written as a record, with its own calls as a list like any other. -/
theorem writeTrace_node (network : Network) (call : CallTrace) (result : ReturnTrace)
    (subcalls : List ExecutionTrace) :
    writeTrace network (.node call result subcalls) = .obj
      [("Msg", write network call), ("MsgRct", write network result),
       ("Subcalls", write network subcalls)] := by
  rw [writeTrace, writeTraces_map]
  cases subcalls <;> rfl

/-- Calls that are read as trees where they are, are read as a list of trees. -/
theorem subcalls_read {found : Fields} {readSubcall : Reader ExecutionTrace}
    (same : Reader.list readSubcall found.depth = Reader.list read found.depth) :
    (found.defaulted "Subcalls" (Reader.list readSubcall).nullable none).map
    (fun subcalls => subcalls.getD []) =
      found.defaulted "Subcalls" (read (α := List ExecutionTrace)) [] := by
  rw [Fields.defaulted, Fields.defaulted]
  cases found.value? "Subcalls" with
  | none => rfl
  | some json =>
    have agrees : (Reader.list readSubcall).nullable found.depth json =
        (Reader.list (read (α := ExecutionTrace))).nullable found.depth json := by
      cases json <;> simp only [Reader.nullable, same]
    exact congrArg (Option.map fun subcalls => subcalls.getD []) agrees

/-- A call whose own calls are read as trees where they are. -/
theorem readTraceWith_list {readSubcall : Reader ExecutionTrace} {depth : Nat} (json : Json)
    (same : Reader.list readSubcall depth = Reader.list read depth) :
    readTraceWith readSubcall (depth + 1) json =
      (Json.fields ["Msg", "MsgRct", "Subcalls"] (depth + 1) json).bind fun found =>
        (found.required "Msg" read).bind fun call =>
          (found.required "MsgRct" read).bind fun result =>
          (found.defaulted "Subcalls" read []).bind fun subcalls =>
            some (.node call result subcalls) := by
  apply Option.bind_congr
  intro found isFound
  have level : found.depth = depth := (Nat.succ.inj (fields_found isFound)).symm
  subst level
  apply Option.bind_congr
  intro call _
  apply Option.bind_congr
  intro result _
  rw [← subcalls_read same, Option.bind_map]
  rfl

/-- A call is read as a record, with its own calls as a list like any other. -/
theorem readTrace_node (depth : Nat) (json : Json) :
    readTrace depth json = (Json.fields ["Msg", "MsgRct", "Subcalls"] depth json).bind fun found =>
      (found.required "Msg" read).bind fun call => (found.required "MsgRct" read).bind fun result =>
        (found.defaulted "Subcalls" read []).bind fun subcalls =>
          some (.node call result subcalls) := by
  match depth with
  | 0 => cases json <;> rfl
  | 1 => exact readTraceWith_list json rfl
  | inner + 2 =>
    refine readTraceWith_list json (funext fun items => ?_)
    cases items <;> rfl

/-! ## Trees of calls are faithful -/

/-- A trace is written plainly, by induction on the calls that it holds. -/
theorem writeTrace_plain (network : Network) :
    (trace : ExecutionTrace) → (writeTrace network trace).Plain
  | .node call result subcalls => by
    rw [writeTrace_node]
    have subcallsPlain := list_plain network fun subcall (_ : subcall ∈ subcalls) =>
      writeTrace_plain network subcall
    exact ⟨Faithful.plain network call, Faithful.plain network result, subcallsPlain, trivial⟩

/-- A tree that fits reads back. The record around the list of calls takes
one of the containers. -/
theorem readTrace_reads (network : Network) (depth : Nat) :
    ∀ trace : ExecutionTrace, (writeTrace network trace).nesting ≤ depth →
      readTrace depth (writeTrace network trace) = some trace := by
  induction depth using Nat.strongRecOn with
  | _ depth ih =>
    rintro ⟨call, result, subcalls⟩ fits
    rw [writeTrace_node] at fits ⊢
    obtain ⟨inner, rfl, fit⟩ := obj_fits fits
    have isCall := Faithful.reads network call inner (fit ("Msg", _) (by simp))
    have isResult := Faithful.reads network result inner (fit ("MsgRct", _) (by simp))
    have isSubcalls := list_reads network
      (fun subcall _ within below => ih within (Nat.lt_succ_of_lt below) subcall)
      (fit ("Subcalls", write network subcalls) (by simp))
    rw [readTrace_node, fields_written _ inner (by simp), Option.bind_some,
      required_present (value_written (by simp) _ _) isCall, Option.bind_some,
      required_present (value_written (by simp) _ _) isResult, Option.bind_some,
      defaulted_present [] (value_written (by simp) _ _) isSubcalls]
    rfl

/-- A tree that was read takes no more containers than were allowed: none of its
parts needs a reserve. -/
theorem readTrace_frugal (network : Network) (depth : Nat) :
    ∀ (json : Json) (trace : ExecutionTrace), readTrace depth json = some trace →
      (writeTrace network trace).nesting ≤ max depth 0 := by
  induction depth using Nat.strongRecOn with
  | _ depth ih =>
    intro json trace isRead
    rw [readTrace_node] at isRead
    obtain ⟨found, isFound, isRead⟩ := Option.bind_eq_some_iff.mp isRead
    obtain ⟨call, isCall, isRead⟩ := Option.bind_eq_some_iff.mp isRead
    obtain ⟨result, isResult, isRead⟩ := Option.bind_eq_some_iff.mp isRead
    obtain ⟨subcalls, isSubcalls, isRead⟩ := Option.bind_eq_some_iff.mp isRead
    obtain rfl := Option.some.inj isRead
    obtain rfl := fields_found isFound
    obtain ⟨_, isCall⟩ := required_found isCall
    obtain ⟨_, isResult⟩ := required_found isResult
    have callBound := Faithful.frugal network found.depth _ call isCall
    have resultBound := Faithful.frugal network found.depth _ result isResult
    have subcallsBound : (write network subcalls).nesting ≤ max found.depth 0 := by
      rcases defaulted_found isSubcalls with rfl | ⟨json, isList⟩
      · exact Nat.zero_le _
      · exact list_frugal network (fun inner below => ih inner (Nat.lt_succ_of_lt below)) isList
    have memberBound : ∀ member ∈ [("Msg", write network call), ("MsgRct", write network result),
        ("Subcalls", write network subcalls)], member.2.nesting ≤ max found.depth 0 := by
      simp only [List.forall_mem_cons, List.not_mem_nil, false_implies, implies_true, and_true]
      exact ⟨callBound, resultBound, subcallsBound⟩
    rw [writeTrace_node]
    exact obj_bound memberBound

instance : Faithful ExecutionTrace where
  reserve := 0
  plain := writeTrace_plain
  reads network trace depth := readTrace_reads network depth trace
  frugal := readTrace_frugal

instance : NeverNull ExecutionTrace where
  never network trace := by
    obtain ⟨call, result, subcalls⟩ := trace
    change writeTrace network (.node call result subcalls) ≠ .null
    rw [writeTrace_node]
    nofun

/-! ## Executions of messages -/

/-- A text does not nest at all. -/
theorem string_nesting (value : String) (network : Network) : (write network value).nesting = 0 :=
  rfl

instance : Faithful Invocation :=
  .record
    (.required "MsgCid" <| .required "Msg" <| .defaulted "MsgRct" none (fun _ => rfl) <|
      .defaulted "Error" "" (string_nesting "") <| .required "GasCost" <|
      .defaulted "ExecutionTrace" none (fun _ => rfl) .done)
    ⟨fun (messageCid, message, receipt, error, gasCost, trace, ()) =>
        ⟨messageCid, message, receipt, error, gasCost, trace⟩,
      fun invocation =>
        (invocation.messageCid, invocation.message, invocation.receipt, invocation.error,
        invocation.gasCost, invocation.trace, ()),
      fun _ => rfl, fun _ => rfl⟩
    (by decide) (fun _ _ => rfl) fun _ _ => rfl

instance : Faithful ComputedState :=
  .record (.required "Root" <| .required "Trace" .done)
    ⟨fun (root, invocations, ()) => ⟨root, invocations⟩,
      fun state => (state.root, state.invocations, ()), fun _ => rfl, fun _ => rfl⟩
    (by decide) (fun _ _ => rfl) fun _ _ => rfl

end FilecoinRosetta.LotusJson
