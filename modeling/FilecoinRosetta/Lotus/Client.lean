import FilecoinRosetta.Lotus.Endpoint
import FilecoinRosetta.Lotus.Rpc

/-!
# Clients of a node

A client knows where a node listens and which versions of its interface may be
asked. Together with something that carries requests it is a node itself.
-/

namespace FilecoinRosetta.Lotus

/-- A client of a node. -/
structure Client where
  /-- Where the node listens. -/
  endpoint : Endpoint
  /-- Whether the second version may be asked. -/
  tagged : Bool
  deriving DecidableEq, Repr

namespace Client

/-- Why there can be no client. -/
inductive ClientError where
  /-- The token may not stand in a header. -/
  | invalidToken
  /-- The scheme is not one of the web. -/
  | unknownScheme
  deriving DecidableEq, Repr

/-- The wording of what is wrong with a token. -/
def invalidTokenMessage : String :=
  "Invalid authorization token: failed to parse header value"

/-- Whether a sign may stand in a header. -/
def isHeaderSign (sign : Char) : Bool :=
  sign == '\t' || (0x20 ≤ sign.toNat && sign.toNat != 0x7F)

/-- The header that carries a token. -/
def authorization (token : String) : String :=
  "Bearer " ++ token

/-- A client of the node at an endpoint. -/
def connect (endpoint : Endpoint) (tagged : Bool) : Except ClientError Client :=
  if endpoint.token.any fun token => !token.toList.all isHeaderSign then .error .invalidToken
  else if ["http", "https"].contains endpoint.v1.scheme then .ok ⟨endpoint, tagged⟩
  else .error .unknownScheme

/-- What carries requests, after everything that happened before. -/
abbrev Transport := (past : List Node.Event) → RpcRequest → RpcReply

/-- The request that makes a call, unless the call needs a version that
may not be asked. -/
def prepare (client : Client) (network : Network) (call : Node.Call) :
    Except Node.Failure RpcRequest :=
  let request := requestOf network call
  if request.api = .v2 ∧ !client.tagged then
    .error (.other [request.method ++ " requires the v2 API, which is disabled"])
  else .ok request

/-- The node that a client reaches through a transport. -/
def node (client : Client) (network : Network) (transport : Transport) : Node where
  answer past call := do
    let request ← client.prepare network call
    answerOf call (transport past request)

/-- The URL of a version. -/
def url (client : Client) : ApiVersion → Url
  | .v1 => client.endpoint.v1
  | .v2 => client.endpoint.v2

end Client

end FilecoinRosetta.Lotus
