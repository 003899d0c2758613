import FilecoinRosetta.Configuration.LogDirectives
import FilecoinRosetta.Configuration.Sources
import FilecoinRosetta.Lotus.Client
import FilecoinRosetta.Rosetta.Service

/-!
# Start

Before anything is served, the node is asked for its version until it answers, then
for the name of its network, then for the codes of its actors. Only the first two
must be answered: without the codes the released ones are known. Tries are separated
by a fixed delay and limited in number.
-/

namespace FilecoinRosetta

/-- Why nothing is served. -/
inductive StartupError where
  /-- There are no settings. -/
  | configuration (cause : Configuration.LoadError)
  /-- What to log cannot be made out. -/
  | logDirectives (directives : String)
  /-- The settings do not say where the node is. -/
  | endpoint (cause : Lotus.Endpoint.EndpointError)
  /-- There can be no client of the node. -/
  | client (cause : Lotus.Client.ClientError)
  /-- The node did not answer. -/
  | unreachable (endpoint : Lotus.Endpoint)
  /-- The node did not name its network. -/
  | networkName
  deriving DecidableEq, Repr

/-- The wording of a start-up error. -/
def StartupError.message : StartupError → String
  | configuration _ => "Error parsing config"
  | logDirectives directives => "invalid log filters " ++ directives
  | endpoint cause => cause.message
  | client _ => "couldn't create the node client"
  | unreachable place => "couldn't reach the node at " ++ place.text
  | networkName => "couldn't get the network name"

/-- The wording of what lies behind a start-up error, where more can be told. -/
def StartupError.cause? : StartupError → Option String
  | configuration cause => some cause.message
  | client .invalidToken => some Lotus.Client.invalidTokenMessage
  | _ => none

namespace Startup

/-- The settings in effect, as far as a start needs them to be sound. -/
def settings (surroundings : Configuration.Surroundings) (options : Configuration.Options) :
    Except StartupError Configuration := do
  let loaded ← (Configuration.load surroundings options).mapError .configuration
  if loaded.configuration.log.isUsable then return loaded.configuration
  else throw (.logDirectives loaded.configuration.log.directives)

/-- The client that settings describe. -/
def client (configuration : Configuration) : Except StartupError Lotus.Client := do
  let node := configuration.node
  let endpoint ← (Lotus.Endpoint.ofText node.url node.token).mapError .endpoint
  (Lotus.Client.connect endpoint configuration.features.tagged).mapError .client

/-- Ask for the version until the node answers, up to a number of times more than
    once. The delay passes in front of every further try. -/
def reach (delay : Duration) : (retries : Nat) → Program (Option NodeVersion)
  | 0 => do
      return (← Program.call .version).toOption
  | retries + 1 => do
      match ← Program.call .version with
      | .ok version => return some version
      | .error _ => do
          Program.pause delay
          reach delay retries

/-- A call that matters only if it is answered. -/
def ask (call : Node.Call) : OptionT Program call.Answer :=
  OptionT.mk do return (← Program.call call).toOption

/-- The version of the actors on the node's network, and their codes by name. -/
def manifest : OptionT Program (UInt32 × List (String × Cid)) := do
  let head ← ask .chainHead
  let networkVersion ← ask (.networkVersion head.key)
  let version ← OptionT.mk (pure (Actor.versionFor? networkVersion))
  let codes ← ask (.actorCodes networkVersion)
  return (version, codes)

/-- The released codes, with those of the node ahead of them if it tells. -/
def registry : Program Actor.Registry := do
  match ← manifest.run with
  | some (version, codes) => return Actor.Registry.builtin.withManifest version codes
  | none => return Actor.Registry.builtin

/-- The service of a client, once the node has answered. -/
def service (configuration : Configuration) (client : Lotus.Client) :
    Program (Except StartupError Rosetta.Service) := do
  let node := configuration.node
  match ← reach node.retryDelay node.connectAttempts.toNat with
  | none => return .error (.unreachable client.endpoint)
  | some _ =>
      match ← Program.call .networkName with
      | .error _ => return .error .networkName
      | .ok networkName => do
          let registry ← registry
          let options : Rosetta.ServiceOptions :=
            ⟨client.tagged, configuration.features.safeByDefault⟩
          return .ok { registry, networkName, options }

end Startup

end FilecoinRosetta
