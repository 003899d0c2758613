import FilecoinRosetta.LotusJson.Node
import FilecoinRosetta.LotusJson.Trace
import FilecoinRosetta.Proofs.LotusJson.Containers
import FilecoinRosetta.Proofs.LotusJson.Records

/-!
# The records of the dialect are faithful

Each type of records is one of some layout. Members in a form of their own, such as
lists which are never null, are of a type which has that form.
-/

namespace FilecoinRosetta.LotusJson

open Json Layout

/-! ## Forms of members -/

/-- A list which is written as one even if it is empty. -/
def Listed (α : Type) : Type :=
  List α

instance {α : Type} [LotusJson α] : LotusJson (Listed α) where
  write network values := .arr (List.map (write network) values)
  read := Reader.list read

instance {α : Type} [LotusJson α] [Faithful α] : Faithful (Listed α) where
  reserve := around (Faithful.reserve α)
  plain network _ := arr_plain network fun value _ => Faithful.plain network value
  reads network _ _ := arr_reads network fun value _ inner _ => Faithful.reads network value inner
  frugal network _ _ _ := arr_frugal network fun inner _ => Faithful.frugal network inner

/-- An identifier without a record around it. -/
def BareCid : Type :=
  Cid

instance : LotusJson BareCid where
  write _ cid := .str (Cid.text cid)
  read := Reader.parsed fun source => (Cid.parse source).toOption

instance : Faithful BareCid :=
  .flat (fun _ _ => trivial) (fun _ _ => rfl) fun _ cid _ =>
    congrArg Except.toOption (Cid.parse_display cid)

instance : LotusJson UInt8 where
  write _ value := .nat value.toNat
  read := Reader.uint8

instance : Faithful UInt8 :=
  .flat (fun _ _ => trivial) (fun _ _ => rfl) fun _ value depth => uint8_reads depth value

instance : Faithful SyncStage :=
  .flat (fun _ _ => trivial) (fun _ _ => rfl) fun _ stage depth => by
    change (Reader.uint8 depth (.nat stage.code.toNat)).bind SyncStage.ofCode? = some stage
    rw [uint8_reads, Option.bind_some]
    cases stage <;> rfl

instance {α : Type} [LotusJson α] : NeverNull (Listed α) := ⟨fun _ _ => nofun⟩

/-! ## Identifiers and keys -/

instance : Faithful Cid :=
  .record (.required "/" .done : Layout (BareCid × Unit))
    ⟨fun (cid, ()) => cid, fun cid => (cid, ()), fun _ => rfl, fun _ => rfl⟩ (by decide)
    (fun _ _ => rfl) fun depth json => by
      change (Json.fields ["/"] depth json).bind _ = (Json.fields ["/"] depth json).bind _
      refine congrArg _ (funext fun found => ?_)
      exact (Option.bind_fun_some (found.required "/" (read (α := BareCid)))).symm

instance : NeverNull Cid := ⟨fun _ _ => nofun⟩

/-- The key of no blocks is read from null as well, but written as a list. -/
instance : Faithful TipsetKey where
  reserve := 1
  plain network key := arr_plain network fun cid _ => Faithful.plain network cid
  reads network key depth fits := by
    have present : Json.arr (key.cids.map (write network)) ≠ .null := nofun
    change
      (Reader.nullable (Reader.list read) depth (.arr (key.cids.map (write network)))).map _ = _
    have isList := arr_reads network (fun cid _ inner _ => Faithful.reads network cid inner) fits
    rw [nullable_present _ _ present, isList]
    rfl
  frugal network depth json key found := by
    obtain ⟨choice, isChoice, rfl⟩ := Option.map_eq_some_iff.mp found
    rcases nullable_found isChoice with ⟨-, rfl⟩ | ⟨cids, isList, rfl⟩
    · exact Nat.le_max_right _ _
    · have bound := arr_frugal network (fun inner _ => Faithful.frugal network inner) isList
      exact Nat.le_trans bound (max_le_max (Nat.le_refl _) (Nat.zero_le _))

/-! ## The chain -/

instance : Faithful BlockHeader :=
  .record (.required "Miner" <| .required "Parents" <| .required "Height" <|
    .required "Timestamp" .done)
    ⟨fun (miner, parents, height, timestamp, ()) => ⟨miner, parents, height, timestamp⟩,
      fun header => (header.miner, header.parents, header.height, header.timestamp, ()),
      fun _ => rfl, fun _ => rfl⟩
    (by decide) (fun _ _ => rfl) fun _ _ => rfl

instance : Faithful Tipset :=
  .record (.required "Cids" <| .required "Blocks" <| .required "Height" .done)
    ⟨fun ((key : TipsetKey), (blocks : Listed BlockHeader), (height : Int64), ()) =>
      ⟨key, blocks, height⟩,
      fun tipset => (tipset.key, tipset.blocks, tipset.height, ()), fun _ => rfl, fun _ => rfl⟩
    (by decide) (fun _ _ => rfl) fun _ _ => rfl

/-- The identifier is not written where it is not known. -/
instance : Faithful Message :=
  .record
    (.defaulted "Version" 0 (fun _ => rfl) <| .required "To" <| .required "From" <|
      .required "Nonce" <|
      .required "Value" <| .required "GasLimit" <| .required "GasFeeCap" <|
        .required "GasPremium" <|
      .required "Method" <| .defaulted "Params" [] (fun _ => rfl) <| .omitted "CID" .done)
    ⟨fun (version, receiver, sender, nonce, value, gasLimit, gasFeeCap, gasPremium, method,
          params, cid, ()) =>
        ⟨version, receiver, sender, nonce, value, gasLimit, gasFeeCap, gasPremium, method,
          params, cid⟩,
      fun message =>
        (message.version, message.receiver, message.sender, message.nonce, message.value,
        message.gasLimit, message.gasFeeCap, message.gasPremium, message.method, message.params,
        message.cid, ()),
      fun _ => rfl, fun _ => rfl⟩
    (by decide)
    (fun _ message => by rcases message with ⟨_, _, _, _, _, _, _, _, _, _, _ | _⟩ <;> rfl)
    fun _ _ => rfl

instance : Faithful Signature :=
  .record (.required "Type" <| .required "Data" .done)
    ⟨fun (type, data, ()) => ⟨type, data⟩, fun signature => (signature.type, signature.data, ()),
      fun _ => rfl, fun _ => rfl⟩
    (by decide) (fun _ _ => rfl) fun _ _ => rfl

/-- The identifier is not written where it is not known. -/
instance : Faithful SignedMessage :=
  .record (.required "Message" <| .required "Signature" <| .omitted "CID" .done)
    ⟨fun (message, signature, cid, ()) => ⟨message, signature, cid⟩,
      fun signed => (signed.message, signed.signature, signed.cid, ()), fun _ => rfl, fun _ => rfl⟩
    (by decide) (fun _ signed => by rcases signed with ⟨_, _, _ | _⟩ <;> rfl) fun _ _ => rfl

instance : NeverNull Tipset := ⟨fun _ _ => nofun⟩

instance : Faithful SyncWorker :=
  .record
    (.defaulted "WorkerID" 0 (fun _ => rfl) <| .defaulted "Base" none (fun _ => rfl) <|
      .defaulted "Target" none (fun _ => rfl) <| .required "Stage" <| .required "Height" <|
      .defaulted "Message" "" (fun _ => rfl) .done)
    ⟨fun (worker, base, target, stage, height, remark, ()) =>
      ⟨worker, base, target, stage, height, remark⟩,
      fun worker =>
        (worker.worker, worker.base, worker.target, worker.stage, worker.height, worker.remark,
        ()),
      fun _ => rfl, fun _ => rfl⟩
    (by decide) (fun _ _ => rfl) fun _ _ => rfl

instance : Faithful SyncState :=
  .record (.defaulted "ActiveSyncs" [] (fun _ => rfl) <|
    .defaulted "VMApplied" 0 (fun _ => rfl) .done)
    ⟨fun (workers, applied, ()) => ⟨workers, applied⟩,
      fun state => (state.workers, state.applied, ()), fun _ => rfl, fun _ => rfl⟩
    (by decide) (fun _ _ => rfl) fun _ _ => rfl

/-! ## Actors and peers -/

instance : Faithful ActorState :=
  .record
    (.required "Code" <| .required "Head" <| .required "Nonce" <| .required "Balance" <|
      .defaulted "DelegatedAddress" none (fun _ => rfl) .done)
    ⟨fun (code, head, nonce, balance, delegatedAddress, ()) =>
      ⟨code, head, nonce, balance, delegatedAddress⟩,
      fun state => (state.code, state.head, state.nonce, state.balance, state.delegatedAddress, ()),
      fun _ => rfl, fun _ => rfl⟩
    (by decide) (fun _ _ => rfl) fun _ _ => rfl

instance : Faithful VestingSchedule :=
  .record (.required "InitialBalance" <| .required "StartEpoch" <| .required "UnlockDuration" .done)
    ⟨fun (initialBalance, startEpoch, unlockDuration, ()) =>
      ⟨initialBalance, startEpoch, unlockDuration⟩,
      fun schedule => (schedule.initialBalance, schedule.startEpoch, schedule.unlockDuration, ()),
      fun _ => rfl, fun _ => rfl⟩
    (by decide) (fun _ _ => rfl) fun _ _ => rfl

/-- Network addresses which are known are a list, also if there are none. -/
instance : Faithful PeerInfo :=
  .record (.required "ID" <| .defaulted "Addrs" none (fun _ => rfl) .done)
    ⟨fun ((id : String), (addresses : Option (Listed String)), ()) => ⟨id, addresses⟩,
      fun peer => (peer.id, peer.addresses, ()), fun _ => rfl, fun _ => rfl⟩
    (by decide) (fun _ peer => by rcases peer with ⟨_, _ | _⟩ <;> rfl) fun _ _ => rfl

instance : Faithful NodeVersion :=
  .record (.required "Version" <| .required "APIVersion" <| .required "BlockDelay" .done)
    ⟨fun (version, apiVersion, blockDelay, ()) => ⟨version, apiVersion, blockDelay⟩,
      fun version => (version.version, version.apiVersion, version.blockDelay, ()),
      fun _ => rfl, fun _ => rfl⟩
    (by decide) (fun _ _ => rfl) fun _ _ => rfl

/-! ## Executions -/

instance : Faithful CallTrace :=
  .record
    (.required "From" <| .required "To" <| .required "Value" <| .required "Method" <|
      .defaulted "Params" [] (fun _ => rfl) <| .defaulted "ParamsCodec" 0 (fun _ => rfl) .done)
    ⟨fun (sender, receiver, value, method, params, codec, ()) =>
        ⟨sender, receiver, value, method, params, codec⟩,
      fun call =>
        (call.sender, call.receiver, call.value, call.method, call.params, call.paramsCodec, ()),
      fun _ => rfl, fun _ => rfl⟩
    (by decide) (fun _ _ => rfl) fun _ _ => rfl

instance : Faithful ReturnTrace :=
  .record
    (.required "ExitCode" <| .defaulted "Return" [] (fun _ => rfl) <|
      .defaulted "ReturnCodec" 0 (fun _ => rfl) .done)
    ⟨fun (exitCode, data, codec, ()) => ⟨exitCode, data, codec⟩,
      fun result => (result.exitCode, result.data, result.codec, ()), fun _ => rfl, fun _ => rfl⟩
    (by decide) (fun _ _ => rfl) fun _ _ => rfl

instance : Faithful Receipt :=
  .record (.required "ExitCode" <| .defaulted "Return" [] (fun _ => rfl) <|
    .required "GasUsed" .done)
    ⟨fun (exitCode, data, gasUsed, ()) => ⟨exitCode, data, gasUsed⟩,
      fun receipt => (receipt.exitCode, receipt.data, receipt.gasUsed, ()), fun _ => rfl,
      fun _ => rfl⟩
    (by decide) (fun _ _ => rfl) fun _ _ => rfl

instance : Faithful GasCost :=
  .record
    (.defaulted "Message" none (fun _ => rfl) <| .required "GasUsed" <| .required "BaseFeeBurn" <|
      .required "OverEstimationBurn" <| .required "MinerPenalty" <| .required "MinerTip" <|
      .required "Refund" <| .required "TotalCost" .done)
    ⟨fun (message, gasUsed, baseFeeBurn, overEstimationBurn, minerPenalty, minerTip, refund,
        totalCost, ()) =>
        ⟨message, gasUsed, baseFeeBurn, overEstimationBurn, minerPenalty, minerTip,
          refund, totalCost⟩,
      fun cost =>
        (cost.message, cost.gasUsed, cost.baseFeeBurn, cost.overEstimationBurn, cost.minerPenalty,
        cost.minerTip, cost.refund, cost.totalCost, ()),
      fun _ => rfl, fun _ => rfl⟩
    (by decide) (fun _ _ => rfl) fun _ _ => rfl

instance : NeverNull Receipt := ⟨fun _ _ => nofun⟩

end FilecoinRosetta.LotusJson
