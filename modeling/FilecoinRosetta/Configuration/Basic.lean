import FilecoinRosetta.Duration
import FilecoinRosetta.Internet.SocketAddress

/-!
# The configuration

Everything that can be set: where the node is, where to listen, what to switch
on, and what to log.
-/

namespace FilecoinRosetta.Configuration

/-- How a node is reached. -/
structure NodeSettings where
  url : String
  /-- The token that opens it. -/
  token : Option String
  /-- The limit of every call in seconds. -/
  timeout : UInt64
  /-- How often the first call is tried again. -/
  connectAttempts : UInt64
  /-- The seconds between two tries. -/
  connectRetryDelay : UInt64
  deriving DecidableEq, Repr

/-- Where the service listens. -/
structure ServerSettings where
  listenAddress : Internet.SocketAddress
  /-- Whether other origins are admitted. -/
  anyOrigin : Bool
  deriving DecidableEq, Repr

/-- What can be switched on. -/
structure FeatureSettings where
  /-- Finality tags. -/
  tagged : Bool
  /-- Safe tipsets for requests without a tag. -/
  safeByDefault : Bool
  deriving DecidableEq, Repr

/-- How much of a part of the program is logged. -/
inductive LogLevel where
  /-- Nothing. -/
  | off
  | error
  /-- Warnings as well. -/
  | warn
  /-- What happens as well. -/
  | info
  /-- Details as well. -/
  | debug
  /-- Everything. -/
  | trace
  deriving DecidableEq, Repr

namespace LogLevel

/-- All levels. -/
def all : List LogLevel := [off, error, warn, info, debug, trace]

/-- The name of a level. -/
def name : LogLevel → String
  | off => "off"
  | error => "error"
  | warn => "warn"
  | info => "info"
  | debug => "debug"
  | trace => "trace"

/-- The level of a name. -/
def ofName? (name : String) : Option LogLevel :=
  all.find? fun level => level.name == name

end LogLevel

/-- The level of a part of the program. -/
structure LogFilter where
  /-- The part. -/
  module : String
  level : LogLevel
  deriving DecidableEq, Repr

/-- How to log. -/
structure LogSettings where
  /-- Whether lines are JSON. -/
  json : Bool
  /-- A directory for files of logs. -/
  directory : Option String
  /-- The levels of parts of the program. -/
  filters : List LogFilter
  deriving DecidableEq, Repr

end Configuration

/-- All settings. -/
structure Configuration where
  /-- How the node is reached. -/
  node : Configuration.NodeSettings
  /-- Where the service listens. -/
  server : Configuration.ServerSettings
  /-- What is switched on. -/
  features : Configuration.FeatureSettings
  /-- How to log. -/
  log : Configuration.LogSettings
  deriving DecidableEq, Repr

namespace Configuration

/-- How a node on this machine is reached. -/
def NodeSettings.standard : NodeSettings where
  url := "http://127.0.0.1:1234/rpc"
  token := none
  timeout := 60
  connectAttempts := 10
  connectRetryDelay := 5

/-- Listen on all interfaces. -/
def ServerSettings.standard : ServerSettings where
  listenAddress := .v4 .unspecified 8080
  anyOrigin := true

/-- Nothing switched on. -/
def FeatureSettings.standard : FeatureSettings := ⟨false, false⟩

/-- Plain lines, and only the more important of them from libraries. -/
def LogSettings.standard : LogSettings where
  json := false
  directory := none
  filters := [⟨"axum", .warn⟩, ⟨"hyper", .warn⟩, ⟨"jsonrpsee", .warn⟩, ⟨"tower_http", .info⟩]

/-- The settings that hold where nothing else is said. -/
def standard : Configuration where
  node := .standard
  server := .standard
  features := .standard
  log := .standard

/-- The limit of every call. -/
def NodeSettings.limit (settings : NodeSettings) : Duration :=
  Duration.seconds settings.timeout.toNat

/-- The time between two tries. -/
def NodeSettings.retryDelay (settings : NodeSettings) : Duration :=
  Duration.seconds settings.connectRetryDelay.toNat

end Configuration

end FilecoinRosetta
