import FilecoinRosetta.Url.Parser

/-!
# Where a node listens

A node answers two versions of its interface at URLs that differ in the end of the
path alone. Either URL, or the common part of both, says where the node is.
-/

namespace FilecoinRosetta.Lotus

/-- Where a node listens, and the token that opens it. -/
structure Endpoint where
  /-- The URL of the first version. -/
  v1 : Url
  /-- The URL of the second version. -/
  v2 : Url
  /-- The token, which is not empty. -/
  token : Option String
  deriving DecidableEq, Repr

namespace Endpoint

/-- Why a URL says nowhere. -/
inductive EndpointError where
  /-- The text is no URL. -/
  | notUrl (source : String)
  /-- The path does not end as it should. -/
  | unknownPath (url : Url)
  deriving DecidableEq, Repr

/-- The wording of an endpoint error. -/
def EndpointError.message : EndpointError → String
  | .notUrl source => "invalid node URL " ++ source
  | .unknownPath url =>
      "unrecognized RPC endpoint " ++ url.text ++
        ", expected a path ending with /rpc, /rpc/v1 or /rpc/v2"

/-- A path without slashes at its end. -/
def trimSlashes (path : List Char) : List Char :=
  (path.reverse.dropWhile (· == '/')).reverse

/-- A text without an ending, if it has it. -/
def stripEnding? (ending : String) (text : List Char) : Option (List Char) :=
  if ending.toList.isSuffixOf text then
    some (text.take (text.length - ending.toList.length)) else none

/-- The common part of the paths of both versions, which ends in `/rpc`. -/
def commonPath? (path : String) : Option (List Char) :=
  let trimmed := trimSlashes path.toList
  if "/rpc".toList.isSuffixOf trimmed then some trimmed
  else ["/rpc/v0", "/rpc/v1", "/rpc/v2"].findSome? fun ending =>
    (stripEnding? ending trimmed).map fun base => base ++ "/rpc".toList

/-- The URL of a version. -/
def versioned (url : Url) (common : List Char) (version : String) : Url :=
  url.withPath (String.ofList (common ++ version.toList))

/-- Where the node is that a URL stands for. -/
def ofUrl (url : Url) (token : Option String) : Except EndpointError Endpoint :=
  match commonPath? url.path with
  | none => .error (.unknownPath url)
  | some common =>
      .ok ⟨versioned url common "/v1", versioned url common "/v2",
        token.filter fun text => text != ""⟩

/-- Where the node is that a text stands for. -/
def ofText (source : String) (token : Option String) : Except EndpointError Endpoint :=
  match Url.parse? source with
  | none => .error (.notUrl source)
  | some url => ofUrl url token

/-- The display form. -/
def text (endpoint : Endpoint) : String :=
  endpoint.v1.text

end Endpoint

end FilecoinRosetta.Lotus
