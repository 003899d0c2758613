import FilecoinRosetta.LotusJson.Chain
import FilecoinRosetta.Rosetta.Service

/-!
# Endpoints about new messages

What a new message needs to know of the node, and handing in a signed one.
Everything that needs a key is left to offline tools and refused here.
-/

namespace FilecoinRosetta.Rosetta

/-- The details of a text that is not the JSON it should be. Where it went
wrong is not told. -/
def unreadableText : String := "<json>"

/-- The blocks within which a message should be included. -/
def premiumBlocks : UInt64 := 10

/-- The blocks that a message may have to wait in the queue. -/
def queueBlocks : Int64 := 20

/-- What a new message will be. -/
structure Draft where
  sender : Address
  receiver : Address
  /-- The value that moves. -/
  value : TokenAmount
  deriving DecidableEq

/-- The message of a draft, a plain transfer without any gas. -/
def Draft.message (draft : Draft) (nonce : UInt64) : Message where
  version := 0
  receiver := draft.receiver
  sender := draft.sender
  nonce := nonce
  value := draft.value
  gasLimit := 0
  gasFeeCap := 0
  gasPremium := 0
  method := 0
  params := []
  cid := none

/-- What a new message needs to know. -/
structure MessageTerms where
  nonce : UInt64
  /-- The most gas it may use. -/
  gasLimit : UInt64
  /-- The share of the price that goes to the miner. -/
  gasPremium : TokenAmount
  /-- The highest price of gas. -/
  gasFeeCap : TokenAmount
  deriving DecidableEq

/-- The most that the gas of a message may cost. -/
def MessageTerms.maxFee (terms : MessageTerms) : TokenAmount :=
  ⟨terms.gasFeeCap.atto * terms.gasLimit.toNat⟩

namespace Service

/-- The name of the sender among the options. -/
def senderName : String := "idSender"

/-- The name of the receiver among the options. -/
def receiverName : String := "idReceiver"

/-- The name of the value among the options. -/
def valueName : String := "value"

/-- An option that cannot be read, with its value. -/
def optionText (name : String) (value : Json) : String :=
  name ++ ": " ++ value.text

/-- An address among the options. -/
def addressOption (options : Metadata) (name : String) : Except ServiceError (Option Address) :=
  match options.lookup name with
  | none => .ok none
  | some (.str text) =>
      match Address.parse text with
      | .ok address => .ok (some address)
      | .error _ => .error (.because .invalidAddress (optionText name (.str text)))
  | some other => .error (.because .invalidAddress (optionText name other))

/-- The value among the options, nothing if there is none. It
may not be negative. -/
def valueOption (options : Metadata) : Except ServiceError TokenAmount :=
  match options.lookup valueName with
  | none => .ok 0
  | some (.str text) =>
      match (TokenAmount.parse? text).filter fun amount => decide (0 ≤ amount.atto) with
      | some amount => .ok amount
      | none => .error (.because .malformedValue (optionText valueName (.str text)))
  | some other => .error (.because .malformedValue (optionText valueName other))

/-- The draft that options describe. Without a receiver the message goes
back to the sender. -/
def draft (options : Metadata) : Except ServiceError Draft := do
  match ← addressOption options senderName with
  | none => .error (.because .invalidAddress (senderName ++ " is required"))
  | some sender =>
      let receiver := (← addressOption options receiverName).getD sender
      let value ← valueOption options
      return { sender, receiver, value }

/-- Estimate the gas of a draft, each estimate on top of the ones before. -/
def estimate (draft : Draft) (head : Tipset) : Endpoint MessageTerms := do
  let nonce ← Endpoint.call .nonceUnavailable (.nextNonce draft.sender)
  let bare := draft.message nonce
  let gasLimit ← Endpoint.call .gasEstimateUnavailable (.estimateGasLimit bare head.key)
  let limited := { bare with gasLimit }
  let gasPremium ← Endpoint.call .gasEstimateUnavailable
    (.estimateGasPremium premiumBlocks draft.sender gasLimit head.key)
  let priced := { limited with gasPremium }
  let gasFeeCap ← Endpoint.call .gasEstimateUnavailable
    (.estimateFeeCap priced queueBlocks head.key)
  return { nonce, gasLimit, gasPremium, gasFeeCap }

/-- What is said to a sender who cannot pay. -/
def shortOf (service : Service) (draft : Draft) (balance fee : TokenAmount) : String :=
  draft.sender.text service.directory.network ++ " holds " ++ balance.filText ++ ", needs " ++
    draft.value.filText ++ " plus up to " ++ fee.filText ++ " for gas"

/-- What a new message needs to know, if its sender can pay for it. -/
def constructionMetadata (service : Service) (request : Request Metadata) :
    Endpoint MessageTerms := do
  let _ ← service.accept request.network
  let draft ← draft request.wanted
  requireSynced .nodeNotSynced
  let head ← Endpoint.call .headUnavailable .chainHead
  let terms ← estimate draft head
  let actor ← Endpoint.call .balanceUnavailable (.actor draft.sender head.key)
  let balance := (actor.map ActorState.balance).getD 0
  if balance.atto < (draft.value + terms.maxFee).atto then
    Endpoint.refuseBecause .insufficientBalance (service.shortOf draft balance terms.maxFee)
  else return terms

/-- The message that a text holds. -/
def signedMessage (text : String) : Except ServiceError SignedMessage :=
  if text.isEmpty then .error (.because .malformedValue "empty signed transaction")
  else match LotusJson.read? SignedMessage text with
    | some message => .ok message
    | none => .error (.because .malformedTransaction unreadableText)

/-- Hand in a signed message; the answer is the identifier that the node gave it. -/
def constructionSubmit (service : Service) (request : Request String) : Endpoint Cid := do
  let _ ← service.accept request.network
  let message ← signedMessage request.wanted
  Endpoint.call .submissionFailed (.pushMessage message)

/-- Refuse an operation that needs keys, naming the path of its endpoint. -/
def constructionOffline (service : Service) (path : String) (request : Request Unit) :
    Endpoint Unit := do
  let _ ← service.accept request.network
  Endpoint.refuseBecause .notImplemented path

end Service

/-- What a new message needs to know as clients see it. -/
def MessageTerms.json (terms : MessageTerms) : Json :=
  .obj
    [("metadata", .obj
        [("nonce", .nat terms.nonce.toNat), ("gasLimit", .nat terms.gasLimit.toNat),
         ("gasPremium", .str terms.gasPremium.attoText),
         ("gasFeeCap", .str terms.gasFeeCap.attoText)]),
     ("suggested_fee", .arr [amountJson terms.maxFee])]

/-- The answer about a submitted message as clients see it. -/
def submittedJson (cid : Cid) : Json :=
  .obj [("transaction_identifier", transactionIdentifierJson cid.text)]

end FilecoinRosetta.Rosetta
