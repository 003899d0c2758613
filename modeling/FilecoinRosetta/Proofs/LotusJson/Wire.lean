import FilecoinRosetta.Proofs.LotusJson.Trace

/-!
# Whatever goes over the wire reads back

The types of all requests and answers are built from a few basic ones by lists,
options and parameters by position. What is written of a value of any of them reads
back as the value, and so what is accepted may be written in other words, but is the
same value still and is not written in others again.
-/

namespace FilecoinRosetta.LotusJson

/-- The types that go over the wire. The index says whether values may be written as
    null; only types whose values are not have an option. -/
inductive Wire : (nullable : Bool) → Type where
  | bool : Wire false
  | uint32 : Wire false
  | uint64 : Wire false
  | int64 : Wire false
  | string : Wire false
  | address : Wire false
  | cid : Wire false
  | amount : Wire false
  | bytes : Wire true
  | tipsetKey : Wire false
  | blockHeader : Wire false
  | tipset : Wire false
  | message : Wire false
  | signature : Wire false
  | signedMessage : Wire false
  | syncWorker : Wire false
  | syncState : Wire false
  | actorState : Wire false
  | vestingSchedule : Wire false
  | peerInfo : Wire false
  | nodeVersion : Wire false
  | receipt : Wire false
  | gasCost : Wire false
  | executionTrace : Wire false
  | invocation : Wire false
  | computedState : Wire false
  | list {nullable : Bool} (item : Wire nullable) : Wire true
  | option (inner : Wire false) : Wire true
  | single {first : Bool} (item : Wire first) : Wire false
  | pair {first second : Bool} (item₁ : Wire first) (item₂ : Wire second) : Wire false
  | triple {first second third : Bool} (item₁ : Wire first) (item₂ : Wire second)
      (item₃ : Wire third) :
      Wire false
  | quadruple {first second third fourth : Bool} (item₁ : Wire first) (item₂ : Wire second)
      (item₃ : Wire third) (item₄ : Wire fourth) : Wire false

/-- A type with its form. -/
structure Kind where
  Value : Type
  [format : LotusJson Value]

instance (kind : Kind) : LotusJson kind.Value :=
  kind.format

namespace Wire

/-- The type that is meant. -/
def kind : {nullable : Bool} → Wire nullable → Kind
  | _, bool => ⟨Bool⟩
  | _, uint32 => ⟨UInt32⟩
  | _, uint64 => ⟨UInt64⟩
  | _, int64 => ⟨Int64⟩
  | _, string => ⟨String⟩
  | _, address => ⟨Address⟩
  | _, cid => ⟨Cid⟩
  | _, amount => ⟨TokenAmount⟩
  | _, bytes => ⟨Bytes⟩
  | _, tipsetKey => ⟨TipsetKey⟩
  | _, blockHeader => ⟨BlockHeader⟩
  | _, tipset => ⟨Tipset⟩
  | _, message => ⟨Message⟩
  | _, signature => ⟨Signature⟩
  | _, signedMessage => ⟨SignedMessage⟩
  | _, syncWorker => ⟨SyncWorker⟩
  | _, syncState => ⟨SyncState⟩
  | _, actorState => ⟨ActorState⟩
  | _, vestingSchedule => ⟨VestingSchedule⟩
  | _, peerInfo => ⟨PeerInfo⟩
  | _, nodeVersion => ⟨NodeVersion⟩
  | _, receipt => ⟨Receipt⟩
  | _, gasCost => ⟨GasCost⟩
  | _, executionTrace => ⟨ExecutionTrace⟩
  | _, invocation => ⟨Invocation⟩
  | _, computedState => ⟨ComputedState⟩
  | _, list item => ⟨List item.kind.Value⟩
  | _, option inner => ⟨Option inner.kind.Value⟩
  | _, single item => ⟨Single item.kind.Value⟩
  | _, pair item₁ item₂ => ⟨item₁.kind.Value × item₂.kind.Value⟩
  | _, triple item₁ item₂ item₃ => ⟨Triple item₁.kind.Value item₂.kind.Value item₃.kind.Value⟩
  | _, quadruple item₁ item₂ item₃ item₄ =>
      ⟨Quadruple item₁.kind.Value item₂.kind.Value item₃.kind.Value item₄.kind.Value⟩

/-- The values of a type. -/
abbrev Value {nullable : Bool} (wire : Wire nullable) : Type :=
  wire.kind.Value

/-- How many lists and parameters are around the basic types. -/
def height : {nullable : Bool} → Wire nullable → Nat
  | _, list item => item.height + 1
  | _, option inner => inner.height
  | _, single item => item.height + 1
  | _, pair item₁ item₂ => max item₁.height item₂.height + 1
  | _, triple item₁ item₂ item₃ => max (max item₁.height item₂.height) item₃.height + 1
  | _, quadruple item₁ item₂ item₃ item₄ =>
      max (max item₁.height item₂.height) (max item₃.height item₄.height) + 1
  | _, _ => 0

instance neverNull (wire : Wire false) : NeverNull wire.Value := by
  cases wire with
  | executionTrace => exact inferInstanceAs (NeverNull ExecutionTrace)
  | _ => exact ⟨fun _ _ => nofun⟩

instance faithful : {nullable : Bool} → (wire : Wire nullable) → Faithful wire.Value
  | _, bool => inferInstanceAs (Faithful Bool)
  | _, uint32 => inferInstanceAs (Faithful UInt32)
  | _, uint64 => inferInstanceAs (Faithful UInt64)
  | _, int64 => inferInstanceAs (Faithful Int64)
  | _, string => inferInstanceAs (Faithful String)
  | _, address => inferInstanceAs (Faithful Address)
  | _, cid => inferInstanceAs (Faithful Cid)
  | _, amount => inferInstanceAs (Faithful TokenAmount)
  | _, bytes => inferInstanceAs (Faithful Bytes)
  | _, tipsetKey => inferInstanceAs (Faithful TipsetKey)
  | _, blockHeader => inferInstanceAs (Faithful BlockHeader)
  | _, tipset => inferInstanceAs (Faithful Tipset)
  | _, message => inferInstanceAs (Faithful Message)
  | _, signature => inferInstanceAs (Faithful Signature)
  | _, signedMessage => inferInstanceAs (Faithful SignedMessage)
  | _, syncWorker => inferInstanceAs (Faithful SyncWorker)
  | _, syncState => inferInstanceAs (Faithful SyncState)
  | _, actorState => inferInstanceAs (Faithful ActorState)
  | _, vestingSchedule => inferInstanceAs (Faithful VestingSchedule)
  | _, peerInfo => inferInstanceAs (Faithful PeerInfo)
  | _, nodeVersion => inferInstanceAs (Faithful NodeVersion)
  | _, receipt => inferInstanceAs (Faithful Receipt)
  | _, gasCost => inferInstanceAs (Faithful GasCost)
  | _, executionTrace => inferInstanceAs (Faithful ExecutionTrace)
  | _, invocation => inferInstanceAs (Faithful Invocation)
  | _, computedState => inferInstanceAs (Faithful ComputedState)
  | _, list item =>
    have := faithful item
    inferInstanceAs (Faithful (List item.Value))
  | _, option inner =>
    have := faithful inner
    inferInstanceAs (Faithful (Option inner.Value))
  | _, single item =>
    have := faithful item
    inferInstanceAs (Faithful (Single item.Value))
  | _, pair item₁ item₂ =>
    have := faithful item₁
    have := faithful item₂
    inferInstanceAs (Faithful (item₁.Value × item₂.Value))
  | _, triple item₁ item₂ item₃ =>
    have := faithful item₁
    have := faithful item₂
    have := faithful item₃
    inferInstanceAs (Faithful (Triple item₁.Value item₂.Value item₃.Value))
  | _, quadruple item₁ item₂ item₃ item₄ =>
    have := faithful item₁
    have := faithful item₂
    have := faithful item₃
    have := faithful item₄
    inferInstanceAs (Faithful (Quadruple item₁.Value item₂.Value item₃.Value item₄.Value))

/-- A list of values that need little takes a little more. -/
theorem around_le {reserve height : Nat} (within : reserve ≤ height + 7) :
    around reserve ≤ height + 1 + 7 := by
  cases reserve with
  | zero => exact Nat.zero_le _
  | succ reserve =>
    rw [around]
    omega

/-- A basic type allows for at most seven containers, as the progress of a node
    does, and each list or parameters around it for one more. -/
theorem reserve_le {nullable : Bool} (wire : Wire nullable) :
    Faithful.reserve wire.Value ≤ wire.height + 7 := by
  induction wire with
  | list item ih => exact around_le ih
  | option inner ih => exact ih
  | single item ih =>
    have all : max (Faithful.reserve item.Value) 0 ≤ item.height + 7 := by omega
    exact around_le all
  | pair item₁ item₂ ih₁ ih₂ =>
    have all : max (Faithful.reserve item₁.Value) (max (Faithful.reserve item₂.Value) 0) ≤
        max item₁.height item₂.height + 7 := by omega
    exact around_le all
  | triple item₁ item₂ item₃ ih₁ ih₂ ih₃ =>
    have all : max (Faithful.reserve item₁.Value) (max (Faithful.reserve item₂.Value)
        (max (Faithful.reserve item₃.Value) 0)) ≤
          max (max item₁.height item₂.height) item₃.height + 7 := by
      omega
    exact around_le all
  | quadruple item₁ item₂ item₃ item₄ ih₁ ih₂ ih₃ ih₄ =>
    have all : max (Faithful.reserve item₁.Value) (max (Faithful.reserve item₂.Value)
        (max (Faithful.reserve item₃.Value) (max (Faithful.reserve item₄.Value) 0))) ≤
        max (max item₁.height item₂.height) (max item₃.height item₄.height) + 7 := by omega
    exact around_le all
  | _ => decide

/-- The text that is written of what a text is read as. -/
def rewrite? {nullable : Bool} (wire : Wire nullable) (network : Network) (source : String) :
    Option String :=
  (read? wire.Value source).map fun value => (write network value).text

/-- What is written reads back where its containers may be nested. The bound is that
of the reader, and it is checked against what was written. -/
theorem read_text {nullable : Bool} (wire : Wire nullable) (network : Network) (value : wire.Value)
    (fits : (write network value).nesting ≤ Json.maxDepth) :
    read? wire.Value (write network value).text = some value := by
  rw [read_written]
  exact Faithful.reads network value Json.maxDepth fits

/-- What was accepted may be nested when it is written, unless its type is as
deep as the limit. -/
theorem read_fits {nullable : Bool} (wire : Wire nullable) (network : Network)
    (flat : wire.height + 7 ≤ Json.maxDepth) {source : String} {value : wire.Value}
    (accepted : read? wire.Value source = some value) :
    (write network value).nesting ≤ Json.maxDepth := by
  obtain ⟨json, -, isRead⟩ := Option.bind_eq_some_iff.mp accepted
  have bound := Faithful.frugal network Json.maxDepth json value isRead
  have reserve := wire.reserve_le
  omega

/-- Every value of every type reads back from its text, where its containers may be
    nested. So a text that is accepted, written in the words of the dialect, is
    accepted as the same value, and is not written in other words again. -/
theorem reads_back {nullable : Bool} (wire : Wire nullable) (network : Network) :
    (∀ value : wire.Value, (write network value).nesting ≤ Json.maxDepth →
      read? wire.Value (write network value).text = some value) ∧
    ∀ (source : String) (value : wire.Value), read? wire.Value source = some value →
      wire.height + 7 ≤ Json.maxDepth ∨ (write network value).nesting ≤ Json.maxDepth →
        read? wire.Value (write network value).text = some value ∧
          wire.rewrite? network (write network value).text = some (write network value).text := by
  refine ⟨wire.read_text network, ?_⟩
  intro source value accepted shallow
  have fits := shallow.elim (fun flat => wire.read_fits network flat accepted) id
  have again := wire.read_text network value fits
  refine ⟨again, ?_⟩
  rw [rewrite?, again, Option.map_some]

/-- A call that makes another, which fails. -/
def nestedCalls : ExecutionTrace :=
  let call : CallTrace := ⟨.id 100, .id 1000, ⟨-5⟩, 0, [0, 255], 81⟩
  .node call ⟨0, [], 0⟩ [.node call ⟨33, [7], 81⟩ []]

/-- A tree of calls reads back on both networks, and so do keys of no blocks, of
which the first was null. -/
theorem reads_back_nestedCalls :
    read? ExecutionTrace (write .mainnet nestedCalls).text = some nestedCalls ∧
      read? ExecutionTrace (write .testnet nestedCalls).text = some nestedCalls ∧
      read? (List TipsetKey) "[null,[]]" = some [.empty, .empty] ∧
      (list tipsetKey).rewrite? .mainnet "[[],[]]" = some "[[],[]]" := by
  have accepted : read? (List TipsetKey) "[null,[]]" = some [.empty, .empty] := rfl
  have words : (write .mainnet [TipsetKey.empty, .empty]).text = "[[],[]]" := rfl
  refine ⟨(executionTrace.reads_back .mainnet).1 nestedCalls (by decide),
    (executionTrace.reads_back .testnet).1 nestedCalls (by decide), accepted, ?_⟩
  have again := (((list tipsetKey).reads_back .mainnet).2 "[null,[]]" [.empty, .empty] accepted
    (.inl (by decide))).2
  rw [← words]
  exact again

end Wire

end FilecoinRosetta.LotusJson
