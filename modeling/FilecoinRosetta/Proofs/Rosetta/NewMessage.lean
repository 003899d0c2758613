import FilecoinRosetta.Proofs.Program.Acts
import FilecoinRosetta.Proofs.Rosetta.Admission

/-!
# What a new message needs to know

Before a message is written, its sender asks for the nonce and for gas. The node is
asked for them one after another, at one head and about one message, which has the
gas in it that was told so far. The answer names what the node told, and it is given
only if the sender holds the value and the most that the gas may cost.
-/

namespace FilecoinRosetta

open Program (acts_attempt acts_seq run_attempt run_seq)

/-- An act that is no call, or a call that has an answer. -/
def Act.Succeeds : Act → Prop
  | .asked _ answer => ∃ value, answer = .ok value
  | .learned _ _ => True

namespace Rosetta

/-! ## Options -/

/-- Options describe a message. Without a receiver it goes back to the sender, and
without a value nothing moves. -/
structure Describe (options : Metadata) (draft : Draft) : Prop where
  sender : ∃ given, options.lookup Service.senderName = some given ∧ Spells given draft.sender
  receiver : match options.lookup Service.receiverName with
    | some given => Spells given draft.receiver
    | none => draft.receiver = draft.sender
  /-- A value is not negative, and of any size. -/
  value : match options.lookup Service.valueName with
    | some given => ∃ text, given = .str text ∧ TokenAmount.parse? text = some draft.value ∧
        0 ≤ draft.value.atto
    | none => draft.value = 0

/-- What is asked about the gas of a message, with the answers. Everything
    is about the same head and the same message, which has the gas in it
    that was told before. -/
def estimates (draft : Draft) (head : Tipset) (terms : MessageTerms) : List Act :=
  let bare := draft.message terms.nonce
  let limited := { bare with gasLimit := terms.gasLimit }
  let priced := { limited with gasPremium := terms.gasPremium }
  [.asked (.nextNonce draft.sender) (.ok terms.nonce),
   .asked (.estimateGasLimit bare head.key) (.ok terms.gasLimit),
   .asked (.estimateGasPremium premiumBlocks draft.sender terms.gasLimit head.key)
     (.ok terms.gasPremium),
   .asked (.estimateFeeCap priced queueBlocks head.key) (.ok terms.gasFeeCap)]

/-- What an actor holds. There is nothing where no actor is. -/
def holdings : Option ActorState → TokenAmount
  | some actor => actor.balance
  | none => 0

/-- What a client is told about a new message, from the terms that the node told and
from what the sender holds. -/
structure Promised (service : Service) (draft : Draft) (terms : MessageTerms) (held : TokenAmount)
    (response : HttpResponse) : Prop where
  /-- The request succeeds exactly if the sender holds the value and the most that
  the gas may cost. -/
  succeeds_iff : response.status = 200 ↔
    draft.value.atto + terms.gasFeeCap.atto * terms.gasLimit.toNat ≤ held.atto
  /-- Then the terms are repeated, and the fee is the most that the gas may cost. -/
  granted : response.status = 200 → response.body = .json (.obj
    [("metadata", .obj
      [("nonce", .nat terms.nonce.toNat), ("gasLimit", .nat terms.gasLimit.toNat),
       ("gasPremium", .str (Text.Integer.text terms.gasPremium.atto)),
       ("gasFeeCap", .str (Text.Integer.text terms.gasFeeCap.atto))]),
     ("suggested_fee", .arr [amountJson ⟨terms.gasFeeCap.atto * terms.gasLimit.toNat⟩])])
  /-- Otherwise the sender is told what is missing. -/
  refused : response.status ≠ 200 → response.status = 500 ∧ response.body =
    .json (ServiceError.because .insufficientBalance (service.shortOf draft held terms.maxFee)).json

/-- A value spells one address, since its text is read as one. -/
theorem Spells.unique {given : Json} {address other : Address} (spells : Spells given address)
    (others : Spells given other) : address = other := by
  obtain ⟨text, rfl, isAddress⟩ := spells
  obtain ⟨_, ⟨rfl⟩, isOther⟩ := others
  exact Except.ok.inj (isAddress.symm.trans isOther)

namespace Service

/-- An address is taken from an option that spells it, and from no
other kind of value. -/
theorem addressOption_some_iff {options : Metadata} {name : String} {address : Address} :
    addressOption options name = .ok (some address) ↔
      ∃ given, options.lookup name = some given ∧ Spells given address := by
  rcases addressOption_cases options name with ⟨missing, outcome⟩ |
    ⟨given, found, isGiven, spells, outcome⟩ |
    ⟨given, cause, isGiven, malformed, outcome⟩
  · simp [outcome, missing]
  · rw [outcome, isGiven]
    constructor
    · intro same
      obtain rfl := Option.some.inj (Except.ok.inj same)
      exact ⟨given, rfl, spells⟩
    · rintro ⟨_, ⟨rfl⟩, others⟩
      rw [spells.unique others]
  · rw [outcome, isGiven]
    constructor
    · intro same
      contradiction
    · rintro ⟨_, ⟨rfl⟩, spells⟩
      exact absurd spells (malformed address)

/-- No address is taken where there is no such option. That alone is no flaw,
except for the sender. -/
theorem addressOption_none_iff {options : Metadata} {name : String} :
    addressOption options name = .ok none ↔ options.lookup name = none := by
  rcases addressOption_cases options name with ⟨missing, outcome⟩ |
    ⟨given, found, isGiven, spells, outcome⟩ |
    ⟨given, cause, isGiven, malformed, outcome⟩
  · simp [outcome, missing]
  · simp [outcome, isGiven]
  · simp [outcome, isGiven]

/-- An amount is taken from an option that is one and is not negative. Nothing moves
where there is no such option. -/
theorem valueOption_ok_iff {options : Metadata} {value : TokenAmount} :
    valueOption options = .ok value ↔ match options.lookup valueName with
      | some given => ∃ text, given = .str text ∧ TokenAmount.parse? text = some value ∧
        0 ≤ value.atto
      | none => value = 0 := by
  unfold valueOption
  cases options.lookup valueName with
  | none => exact ⟨fun same => (Except.ok.inj same).symm, fun same => congrArg Except.ok same.symm⟩
  | some given =>
    cases given with
    | str text =>
      dsimp only
      constructor
      · intro isOk
        cases found : (TokenAmount.parse? text).filter fun amount => decide (0 ≤ amount.atto) with
        | none =>
          rw [found] at isOk
          exact nomatch isOk
        | some amount =>
          rw [found] at isOk
          obtain rfl := Except.ok.inj isOk
          obtain ⟨parsed, positive⟩ := Option.filter_eq_some_iff.mp found
          exact ⟨text, rfl, parsed, of_decide_eq_true positive⟩
      · rintro ⟨_, ⟨rfl⟩, parsed, positive⟩
        have kept : (some value).filter (fun amount => decide (0 ≤ amount.atto)) = some value :=
          Option.filter_some_pos (decide_eq_true positive)
        rw [parsed, kept]
    | _ => exact ⟨(nomatch ·), fun ⟨_, impossible, _⟩ => nomatch impossible⟩

/-- A message is described by its sender, and perhaps by a receiver and a value. -/
theorem draft_parts {options : Metadata} {written : Draft} :
    draft options = .ok written ↔
      ∃ receiver, addressOption options senderName = .ok (some written.sender) ∧
        addressOption options receiverName = .ok receiver ∧
          valueOption options = .ok written.value ∧
        written.receiver = receiver.getD written.sender := by
  rw [draft, bind_ok_iff]
  constructor
  · rintro ⟨sender, ofSender, more⟩
    cases sender with
    | none => contradiction
    | some sender =>
      obtain ⟨receiver, ofReceiver, more⟩ := bind_ok_iff.mp more
      obtain ⟨value, ofValue, same⟩ := bind_ok_iff.mp more
      obtain rfl := Except.ok.inj same
      exact ⟨receiver, ofSender, ofReceiver, ofValue, rfl⟩
  · rintro ⟨receiver, ofSender, ofReceiver, ofValue, isReceiver⟩
    refine ⟨_, ofSender, bind_ok_iff.mpr ⟨receiver, ofReceiver, bind_ok_iff.mpr ⟨_, ofValue, ?_⟩⟩⟩
    rw [← isReceiver]
    rfl

/-- The options that are taken are those that describe a message, and the message is
the one that they describe. -/
theorem draft_ok_iff {options : Metadata} {written : Draft} :
    draft options = .ok written ↔ Describe options written := by
  rw [draft_parts]
  constructor
  · rintro ⟨receiver, ofSender, ofReceiver, ofValue, isReceiver⟩
    refine ⟨addressOption_some_iff.mp ofSender, ?_, valueOption_ok_iff.mp ofValue⟩
    cases receiver with
    | none =>
      rw [addressOption_none_iff.mp ofReceiver]
      exact isReceiver
    | some receiver =>
      obtain ⟨given, isGiven, spells⟩ := addressOption_some_iff.mp ofReceiver
      rw [isGiven, isReceiver]
      exact spells
  · rintro ⟨ofSender, ofReceiver, ofValue⟩
    have found : ∃ receiver, addressOption options receiverName = .ok receiver ∧
        written.receiver = receiver.getD written.sender := by
      cases isGiven : options.lookup receiverName with
      | none =>
        rw [isGiven] at ofReceiver
        exact ⟨none, addressOption_none_iff.mpr isGiven, ofReceiver⟩
      | some given =>
        rw [isGiven] at ofReceiver
        exact ⟨some written.receiver, addressOption_some_iff.mpr ⟨given, isGiven, ofReceiver⟩, rfl⟩
    obtain ⟨receiver, ofReceiver, isReceiver⟩ := found
    exact ⟨receiver, addressOption_some_iff.mpr ofSender, ofReceiver,
      valueOption_ok_iff.mpr ofValue, isReceiver⟩

/-! ## Calls that succeed -/

/-- An attempt behind a call that succeeds goes on with the answer. -/
theorem call_succeeds {β : Type} {node : Node} {session : Session} {kind : ErrorKind}
    {call : Node.Call} {next : call.Answer → Endpoint β}
    (succeed : ∀ act ∈ (Endpoint.call kind call >>= next).run.acts node session, act.Succeeds) :
    ∃ answer, (∀ act ∈ (next answer).run.acts node (session.asked call), act.Succeeds) ∧
      (Endpoint.call kind call >>= next).run.acts node session =
        .asked call (.ok answer) :: (next answer).run.acts node (session.asked call) ∧
      (Endpoint.call kind call >>= next).run.run node session =
        (next answer).run.run node (session.asked call) := by
  have asks : (Endpoint.call kind call).run.acts node session =
      [.asked call (node.answer session.past call)] := rfl
  rw [acts_attempt, asks, Endpoint.call_run] at succeed ⊢
  obtain ⟨first, later⟩ := List.forall_mem_append.mp succeed
  obtain ⟨answer, told⟩ : (Act.asked call (node.answer session.past call)).Succeeds :=
    first _ (List.mem_singleton_self _)
  rw [told] at later ⊢
  refine ⟨answer, later, rfl, ?_⟩
  rw [run_attempt, Endpoint.call_run, told]
  rfl

/-- The gate of a synced node takes one call, for the progress of its workers, and
lets everything else through. -/
theorem requireSynced_acts {node : Node} {session : Session} {state : SyncState}
    {status : SyncStatus} (told : node.answer session.past .syncState = .ok state)
    (evaluated : SyncStatus.evaluate? state = some status) (synced : status.stage = .complete)
    (late : ErrorKind) :
    (requireSynced late).run.acts node session = [.asked .syncState (.ok state)] ∧
      (requireSynced late).run.run node session = (.ok (), session.asked .syncState) := by
  have isSynced : status.isSynced = true := beq_iff_eq.mpr synced
  have sound : status.stage ≠ .error := by
    rw [synced]
    decide
  have notErrored : ¬ status.isErrored = true := fun isErrored => sound (beq_iff_eq.mp isErrored)
  have known := syncStatus_sound node session told evaluated sound
  have asks : syncStatus.run.acts node session = [.asked .syncState (.ok state)] := by
    have first : (Endpoint.call .syncStatusUnavailable .syncState).run.acts node session =
        [.asked .syncState (node.answer session.past .syncState)] := rfl
    unfold syncStatus
    rw [acts_attempt, first, Endpoint.call_run, told]
    dsimp only [Except.mapError]
    rw [acts_attempt, (Endpoint.demand_run _ _ _ _ _).1, evaluated]
    dsimp only
    rw [if_neg notErrored]
    rfl
  unfold requireSynced
  rw [acts_attempt, run_attempt, known, asks]
  dsimp only
  rw [if_pos isSynced]
  exact ⟨rfl, rfl⟩

/-- Estimates that succeed are followed by what is made of the terms. -/
theorem estimate_succeeds {β : Type} {node : Node} {session : Session} {written : Draft}
    {head : Tipset} {next : MessageTerms → Endpoint β}
    (succeed : ∀ act ∈ (estimate written head >>= next).run.acts node session, act.Succeeds) :
    ∃ terms later, (∀ act ∈ (next terms).run.acts node later, act.Succeeds) ∧
      (estimate written head >>= next).run.acts node session =
        estimates written head terms ++ (next terms).run.acts node later ∧
      (estimate written head >>= next).run.run node session = (next terms).run.run node later := by
  unfold estimate at succeed ⊢
  simp only [bind_assoc, pure_bind] at succeed ⊢
  obtain ⟨nonce, succeed, nonceActs, nonceRun⟩ := call_succeeds succeed
  obtain ⟨limit, succeed, limitActs, limitRun⟩ := call_succeeds succeed
  obtain ⟨premium, succeed, premiumActs, premiumRun⟩ := call_succeeds succeed
  obtain ⟨feeCap, succeed, feeCapActs, feeCapRun⟩ := call_succeeds succeed
  refine ⟨⟨nonce, limit, premium, feeCap⟩, _, succeed, ?_, ?_⟩
  · rw [nonceActs, limitActs, premiumActs, feeCapActs]
    rfl
  · rw [nonceRun, limitRun, premiumRun, feeCapRun]

/-- If its calls succeed, the endpoint comes to the terms that were told, or refuses
a sender who holds too little. -/
theorem constructionMetadata_succeeds (service : Service) {node : Node} {session : Session}
    {request : Request Metadata} {identifier : NetworkIdentifier}
    (accepted : service.accept request.network = .ok identifier) {written : Draft}
    (described : draft request.wanted = .ok written) {state : SyncState} {status : SyncStatus}
    (told : node.answer session.past .syncState = .ok state)
    (evaluated : SyncStatus.evaluate? state = some status) (synced : status.stage = .complete)
    (succeed : ∀ act ∈ (service.constructionMetadata request).run.acts node session, act.Succeeds) :
    ∃ head terms actor,
      (service.constructionMetadata request).run.acts node session =
        [.asked .syncState (.ok state), .asked .chainHead (.ok head)] ++
          estimates written head terms ++
          [.asked (.actor written.sender head.key) (.ok actor)] ∧
      ((service.constructionMetadata request).run.run node session).1 =
        if (holdings actor).atto < (written.value + terms.maxFee).atto then
          .error (.because .insufficientBalance
            (service.shortOf written (holdings actor) terms.maxFee))
        else .ok terms := by
  obtain ⟨gateActs, gateRun⟩ := requireSynced_acts told evaluated synced .nodeNotSynced
  unfold constructionMetadata at succeed ⊢
  rw [accepted, Endpoint.given_ok, described, Endpoint.given_ok, acts_attempt, gateActs,
    gateRun] at succeed
  rw [accepted, Endpoint.given_ok, described, Endpoint.given_ok, acts_attempt, gateActs, gateRun,
    run_attempt, gateRun]
  dsimp only at succeed ⊢
  obtain ⟨-, succeed⟩ := List.forall_mem_append.mp succeed
  obtain ⟨head, succeed, headActs, headRun⟩ := call_succeeds succeed
  obtain ⟨terms, later, succeed, termsActs, termsRun⟩ := estimate_succeeds succeed
  obtain ⟨actor, -, actorActs, actorRun⟩ := call_succeeds succeed
  have isHoldings : (actor.map ActorState.balance).getD 0 = holdings actor := by
    cases actor <;> rfl
  refine ⟨head, terms, actor, ?_, ?_⟩
  · have nothing (held : TokenAmount) : (if held.atto < (written.value + terms.maxFee).atto then
          Endpoint.refuseBecause .insufficientBalance (service.shortOf written held terms.maxFee)
        else pure terms : Endpoint MessageTerms).run.acts node
          (later.asked (.actor written.sender head.key)) = [] := by
      split <;> rfl
    rw [headActs, termsActs, actorActs, nothing, List.append_assoc]
    rfl
  · rw [headRun, termsRun, actorRun, isHoldings]
    split <;> rfl

/-! ## Over HTTP -/

/-- What is answered once an endpoint has ended. -/
def responseTo (anyOrigin : Bool) : Except ServiceError Json → HttpResponse
  | .ok json => ⟨200, .json json, allowedOrigin anyOrigin⟩
  | .error cause => ⟨500, .json cause.json, allowedOrigin anyOrigin⟩

/-- A request that is posted to an endpoint does what the endpoint does. -/
theorem serve_eq (service : Service) (anyOrigin : Bool) {request : HttpRequest} {route : Route}
    (isPath : Route.ofPath? request.path = some route) (posted : request.Posted) :
    service.serve anyOrigin request =
      (service.answer route request.body).run >>= fun found =>
        pure (responseTo anyOrigin found) := by
  obtain ⟨isPost, short⟩ := posted
  have noOptions : ¬ (anyOrigin && request.method == "OPTIONS") = true := by
    rw [isPost, Bool.and_eq_true]
    exact fun both => absurd both.2 (by decide)
  unfold serve dispatch respond
  dsimp only
  rw [if_neg noOptions, isPath]
  dsimp only
  rw [if_neg (not_not_intro isPost), if_neg (Nat.not_lt.mpr short), bind_assoc]
  congr 1
  funext found
  cases found with
  | ok json => rfl
  | error cause => rfl

/-- A request about a new message that can be read does what the endpoint does,
and tells its terms. -/
theorem serve_constructionMetadata (service : Service) (anyOrigin : Bool) (node : Node)
    (session : Session) {request : HttpRequest}
    (isPath : Route.ofPath? request.path = some .constructionMetadata) (posted : request.Posted)
    {wanted : Request Metadata}
    (isRead : Json.readBytes? readMetadataRequest request.body = some wanted) :
    (service.serve anyOrigin request).acts node session =
        (service.constructionMetadata wanted).run.acts node session ∧
      ((service.serve anyOrigin request).run node session).1 = responseTo anyOrigin
        (((service.constructionMetadata wanted).run.run node session).1.map MessageTerms.json) := by
  have answers : service.answer .constructionMetadata request.body =
      service.constructionMetadata wanted >>= fun terms => pure terms.json := by
    unfold answer readBody
    rw [isRead]
    rfl
  rw [serve_eq service anyOrigin isPath posted, answers, acts_seq, run_seq, acts_attempt,
    run_attempt]
  rcases (service.constructionMetadata wanted).run.run node session with ⟨found, later⟩
  cases found with
  | ok terms => exact ⟨by rw [List.append_assoc]; exact List.append_nil _, rfl⟩
  | error cause => exact ⟨by rw [List.append_assoc]; exact List.append_nil _, rfl⟩

/-- A new message is promised only what its sender can pay. A good request to a
    synced node whose calls succeed makes one call after another: for the progress,
    for the head, for the nonce and for gas, each time about the same message at the
    same head with the gas in it that was told before, and for the sender at that
    head. The request succeeds exactly if the sender holds the value and the fee,
    and then repeats what the node told. -/
theorem new_message_promised (service : Service) (anyOrigin : Bool) {node : Node}
    {session : Session} {request : HttpRequest}
    (isPath : Route.ofPath? request.path = some .constructionMetadata) (posted : request.Posted)
    {wanted : Request Metadata}
    (isRead : Json.readBytes? readMetadataRequest request.body = some wanted)
    {identifier : NetworkIdentifier}
    (addressed : Addressed service (some wanted.network) identifier) {written : Draft}
    (described : Describe wanted.wanted written) {state : SyncState} {status : SyncStatus}
    (told : node.answer session.past .syncState = .ok state)
    (evaluated : SyncStatus.evaluate? state = some status) (synced : status.stage = .complete)
    (succeed : ∀ act ∈ (service.serve anyOrigin request).acts node session, act.Succeeds) :
    ∃ head terms actor,
      (service.serve anyOrigin request).acts node session =
        [.asked .syncState (.ok state), .asked .chainHead (.ok head)] ++
          estimates written head terms ++
          [.asked (.actor written.sender head.key) (.ok actor)] ∧
      Promised service written terms (holdings actor)
        ((service.serve anyOrigin request).run node session).1 := by
  obtain ⟨sameActs, response⟩ :=
    service.serve_constructionMetadata anyOrigin node session isPath posted isRead
  rw [sameActs] at succeed ⊢
  rw [response]
  obtain ⟨head, terms, actor, acts, outcome⟩ :=
    service.constructionMetadata_succeeds (accept_addressed addressed)
    (draft_ok_iff.mpr described) told evaluated synced succeed
  refine ⟨head, terms, actor, acts, ?_⟩
  have isFee : (written.value + terms.maxFee).atto =
      written.value.atto + terms.gasFeeCap.atto * terms.gasLimit.toNat := rfl
  have refused : (500 : Nat) ≠ 200 := by decide
  rw [outcome, isFee]
  by_cases short : (holdings actor).atto <
    written.value.atto + terms.gasFeeCap.atto * terms.gasLimit.toNat
  · rw [if_pos short]
    exact ⟨⟨fun isOk => absurd isOk refused, fun enough => absurd short (Int.not_lt.mpr enough)⟩,
      fun isOk => absurd isOk refused, fun _ => ⟨rfl, rfl⟩⟩
  · rw [if_neg short]
    exact ⟨⟨fun _ => Int.not_lt.mp short, fun _ => rfl⟩, fun _ => rfl,
      fun notOk => absurd rfl notOk⟩

end Service

/-! ## A sender who holds exactly what gas may cost -/

namespace Purse

/-- The service, which knows no codes. -/
def service : Service := ⟨⟨[]⟩, "calibnet", ⟨false, false⟩⟩

/-- The network of the requests. -/
def network : NetworkIdentifier := ⟨blockchainName, "calibnet", none⟩

/-- The empty code of the sample is short enough. -/
theorem cid_length_le : ([] : Bytes).length ≤ 64 := by
  decide

/-- The sender. -/
def sender : ActorState :=
    ⟨.v1 Cid.rawCodec ⟨Cid.identityCode, [], cid_length_le⟩, default, 42, ⟨200000000000⟩, none⟩

/-- The worker of a node that follows the chain. -/
def state : SyncState := ⟨[⟨1, none, some ⟨.empty, [], 0⟩, .complete, 0, ""⟩], 0⟩

/-- A synced node with the sender and no other actor. -/
def node : Node := .constant fun
  | .syncState => .ok state
  | .chainHead => .ok ⟨.empty, [], 0⟩
  | .nextNonce _ => .ok 42
  | .estimateGasLimit _ _ => .ok 1000000
  | .estimateGasPremium _ _ _ _ => .ok ⟨100000⟩
  | .estimateFeeCap _ _ _ => .ok ⟨200000⟩
  | .actor address _ => .ok (if address = .id 1001 then some sender else none)
  | _ => .error .unreachable

/-- A request for what a message from the sender to itself needs, with a
value or without one. -/
def request (value : String) : HttpRequest where
  method := "POST"
  target := "/construction/metadata"
  body := utf8 <|
    "\x7b\"network_identifier\":\x7b\"blockchain\":\"Filecoin\",\"network\":\"calibnet\"\x7d," ++
      "\"options\":\x7b\"idSender\":\"t01001\"" ++ value ++ "\x7d\x7d"

/-- The terms that the node tells. -/
def terms : MessageTerms := ⟨42, 1000000, ⟨100000⟩, ⟨200000⟩⟩

/-- The message, with a value. -/
def draft (value : TokenAmount) : Draft := ⟨.id 1001, .id 1001, value⟩

/-- What is asked, with the answers. -/
def acts (value : TokenAmount) : List Act :=
  [.asked .syncState (.ok state), .asked .chainHead (.ok ⟨.empty, [], 0⟩)] ++
    estimates (draft value) ⟨.empty, [], 0⟩ terms ++
      [.asked (.actor (.id 1001) .empty) (.ok (some sender))]

/-- All calls of the sample run succeed, whatever the value. -/
theorem acts_succeed (value : TokenAmount) : ∀ act ∈ acts value, act.Succeeds := by
  simp [acts, estimates, Act.Succeeds]

/-- The answers say what the terms and the sender are, as the calls of two equal
runs are answered alike. -/
theorem acts_tell {value : TokenAmount} {head : Tipset} {told : MessageTerms}
    {actor : Option ActorState}
    (same : acts value = [.asked .syncState (.ok state), .asked .chainHead (.ok head)] ++
      estimates (draft value) head told ++
        [.asked (.actor (draft value).sender head.key) (.ok actor)]) :
    told = terms ∧ actor = some sender := by
  obtain ⟨nonce, gasLimit, gasPremium, gasFeeCap⟩ := told
  simp only [acts, estimates, List.cons_append, List.nil_append, List.cons.injEq,
    Act.asked.injEq, heq_eq_eq, Except.ok.injEq, true_and, and_true] at same
  obtain ⟨-, rfl, ⟨-, rfl⟩, ⟨-, rfl⟩, ⟨-, rfl⟩, -, rfl⟩ := same
  exact ⟨rfl, rfl⟩

/-- The sample request is for the network that is served. -/
theorem addressed : Addressed service (some (some network)) network where
  names := rfl
  blockchain := rfl
  network := rfl
  subNetwork _ isPart := nomatch isPart

/-- The sample text spells the address with number 1001. -/
theorem spells : Spells (.str "t01001") (.id 1001) :=
  ⟨_, rfl, rfl⟩

end Purse

set_option maxRecDepth 2000 in
/-- The sender may send a message, but no value with it. -/
theorem purse_promised :
    let answer value := ((Purse.service.serve false (Purse.request value)).run Purse.node .fresh).1
    (answer "").status = 200 ∧ (answer ",\"value\":\"1\"").status = 500 := by
  intro answer
  have promised {value : String} {options : Metadata} {amount : TokenAmount}
      (isPath : Route.ofPath? (Purse.request value).path = some .constructionMetadata)
      (short : (Purse.request value).body.length ≤ maxBody)
      (isRead : Json.readBytes? readMetadataRequest (Purse.request value).body =
        some ⟨some Purse.network, options⟩)
      (described : Describe options (Purse.draft amount))
      (told : (Purse.service.constructionMetadata ⟨some Purse.network, options⟩).run.acts
        Purse.node .fresh =
        Purse.acts amount) :
      Promised Purse.service (Purse.draft amount) Purse.terms Purse.sender.balance
        (answer value) := by
    have posted : (Purse.request value).Posted := ⟨rfl, short⟩
    have known : (Purse.service.serve false (Purse.request value)).acts Purse.node .fresh =
        Purse.acts amount := by
      have served :=
        Purse.service.serve_constructionMetadata false Purse.node .fresh isPath posted isRead
      rw [served.1, told]
    obtain ⟨head, terms, actor, acts, promised⟩ :=
      Service.new_message_promised Purse.service false isPath posted isRead
      Purse.addressed described rfl rfl rfl (known ▸ Purse.acts_succeed amount)
    obtain ⟨rfl, rfl⟩ := Purse.acts_tell (known.symm.trans acts)
    exact promised
  constructor
  · have bare :=
      @promised "" [("idSender", .str "t01001")] 0 (by decide +kernel) (by decide +kernel)
      ((Json.readBytes_utf8 _ _).trans rfl)
      ⟨⟨_, rfl, Purse.spells⟩, rfl, rfl⟩ rfl
    exact bare.succeeds_iff.mpr (by decide)
  · have loaded :=
      @promised ",\"value\":\"1\"" [("idSender", .str "t01001"), ("value", .str "1")] ⟨1⟩
      (by decide +kernel) (by decide +kernel) ((Json.readBytes_utf8 _ _).trans rfl)
      ⟨⟨_, rfl, Purse.spells⟩, rfl, _, rfl, rfl, by decide⟩ rfl
    have isShort : ¬ (answer ",\"value\":\"1\"").status = 200 :=
      fun isOk => absurd (loaded.succeeds_iff.mp isOk) (by decide)
    exact (loaded.refused isShort).1

end Rosetta

end FilecoinRosetta
