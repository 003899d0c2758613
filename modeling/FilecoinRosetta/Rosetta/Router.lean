import FilecoinRosetta.Rosetta.BalanceEndpoint
import FilecoinRosetta.Rosetta.BlockEndpoints
import FilecoinRosetta.Rosetta.ConstructionEndpoints
import FilecoinRosetta.Rosetta.MempoolEndpoints
import FilecoinRosetta.Rosetta.NetworkEndpoints

/-!
# Requests over HTTP

Every endpoint has one path and takes bytes by POST. It answers JSON, an error
of the service with status
500. If other origins are admitted, every answer says so and questions
  about it are answered everywhere.
-/

namespace FilecoinRosetta.Rosetta

/-- An endpoint. -/
inductive Route where
  /-- The networks served. -/
  | networkList
  /-- How far the node is. -/
  | networkStatus
  /-- What clients have to expect. -/
  | networkOptions
  | accountBalance
  /-- The block at a height. -/
  | block
  | blockTransaction
  /-- The identifiers of pending messages. -/
  | mempool
  /-- The transaction of a pending message. -/
  | mempoolTransaction
  /-- What a new message needs to know. -/
  | constructionMetadata
  /-- Hand in a signed message. -/
  | constructionSubmit
  /-- The address of a key; needs keys. -/
  | constructionDerive
  /-- The options of a new message; left to offline tools. -/
  | constructionPreprocess
  /-- The text to sign; left to offline tools. -/
  | constructionPayloads
  /-- A signature put to its message; left to offline tools. -/
  | constructionCombine
  /-- The meaning of a message; left to offline tools. -/
  | constructionParse
  /-- The identifier of a signed message; left to offline tools. -/
  | constructionHash
  deriving DecidableEq, Repr

namespace Route

/-- All endpoints. -/
def all : List Route :=
  [.networkList, .networkStatus, .networkOptions, .accountBalance, .block,
   .blockTransaction, .mempool, .mempoolTransaction, .constructionMetadata, .constructionSubmit,
   .constructionDerive, .constructionPreprocess, .constructionPayloads, .constructionCombine,
   .constructionParse, .constructionHash]

/-- The path of an endpoint. -/
def path : Route → String
  | networkList => "/network/list"
  | networkStatus => "/network/status"
  | networkOptions => "/network/options"
  | accountBalance => "/account/balance"
  | block => "/block"
  | blockTransaction => "/block/transaction"
  | mempool => "/mempool"
  | mempoolTransaction => "/mempool/transaction"
  | constructionMetadata => "/construction/metadata"
  | constructionSubmit => "/construction/submit"
  | constructionDerive => "/construction/derive"
  | constructionPreprocess => "/construction/preprocess"
  | constructionPayloads => "/construction/payloads"
  | constructionCombine => "/construction/combine"
  | constructionParse => "/construction/parse"
  | constructionHash => "/construction/hash"

/-- The endpoint of a path. -/
def ofPath? (path : String) : Option Route :=
  all.find? fun route => route.path == path

end Route

/-- Read the body of a request, whatever bytes it is. -/
def readBody {α : Type} (reader : Json.Reader α) (body : Bytes) : Except ServiceError α :=
  match Json.readBytes? reader body with
  | some request => .ok request
  | none => .error (.because .malformedValue unreadableText)

namespace Service

/-- Answer the body of a request to an endpoint. -/
def answer (service : Service) (route : Route) (body : Bytes) : Endpoint Json :=
  match route with
  | .networkList => do
      let _ ← readBody readListRequest body
      return service.networksJson
  | .networkStatus => do
      return (← service.networkStatus (← readBody readNetworkRequest body)).json
  | .networkOptions => do
      return service.optionsJson (← service.networkOptions (← readBody readNetworkRequest body))
  | .accountBalance => do
      return (← service.accountBalance (← readBody readBalanceRequest body)).json
  | .block => do
      return blockJson (← service.block (← readBody readBlockRequest body))
  | .blockTransaction => do
      return transactionAnswerJson
        (← service.blockTransaction (← readBody readBlockTransactionRequest body))
  | .mempool => do
      return mempoolJson (← service.mempool (← readBody readNetworkRequest body))
  | .mempoolTransaction => do
      return transactionAnswerJson
        (← service.mempoolTransaction (← readBody readPendingTransactionRequest body))
  | .constructionMetadata => do
      return (← service.constructionMetadata (← readBody readMetadataRequest body)).json
  | .constructionSubmit => do
      return submittedJson (← service.constructionSubmit (← readBody readSubmitRequest body))
  | .constructionDerive => offline
  | .constructionPreprocess => offline
  | .constructionPayloads => offline
  | .constructionCombine => offline
  | .constructionParse => offline
  | .constructionHash => offline
where
  offline : Endpoint Json := do
    service.constructionOffline route.path (← readBody readOfflineRequest body)
    return .null

end Service

/-- A request over HTTP. -/
structure HttpRequest where
  method : String
  /-- The target: a path, with a query that is not looked at. -/
  target : String
  /-- The bytes that are posted, which should be JSON in UTF-8. -/
  body : Bytes
  deriving DecidableEq

/-- The path of a request. -/
def HttpRequest.path (request : HttpRequest) : String :=
  String.ofList (request.target.toList.takeWhile fun sign => sign != '?' && sign != '#')

/-- The body of an answer. -/
inductive HttpBody where
  /-- None. -/
  | empty
  | json (value : Json)
  /-- Plain text. -/
  | text (value : String)

/-- An answer over HTTP. -/
structure HttpResponse where
  status : Nat
  body : HttpBody
  /-- The origins admitted, if other origins are admitted at all. -/
  allowOrigin : Option String

/-- The longest body that is read, in bytes. -/
def maxBody : Nat := 2 * 1024 * 1024

namespace Service

/-- Status and body of the answer of an endpoint. -/
def respond (service : Service) (route : Route) (body : Bytes) : Program (Nat × HttpBody) := do
  match ← (service.answer route body).run with
  | .ok json => return (200, .json json)
  | .error cause => return (500, .json cause.json)

/-- Status and body of the answer to a request that is not about other origins. -/
def dispatch (service : Service) (request : HttpRequest) : Program (Nat × HttpBody) :=
  match Route.ofPath? request.path with
  | none => return (404, .empty)
  | some route =>
      if request.method ≠ "POST" then return (405, .empty)
      else if maxBody < request.body.length then
        return (413, .text "Failed to buffer the request body: length limit exceeded")
      else service.respond route request.body

/-- Answer a request. If other origins are admitted, a question for options
is only about them. -/
def serve (service : Service) (anyOrigin : Bool) (request : HttpRequest) :
    Program HttpResponse := do
  let allowOrigin := if anyOrigin then some "*" else none
  if anyOrigin && request.method == "OPTIONS" then return ⟨200, .empty, allowOrigin⟩
  else
    let (status, body) ← service.dispatch request
    return { status, body, allowOrigin }

end Service

end FilecoinRosetta.Rosetta
