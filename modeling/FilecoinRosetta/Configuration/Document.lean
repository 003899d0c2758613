import FilecoinRosetta.Configuration.Basic
import FilecoinRosetta.Toml.Basic

/-!
# The configuration as a document

Settings stand in four tables. Whatever a document leaves out has its standard
value, and what it holds beyond the settings is not looked at. A table may also
be written as a list of its values in order. What is written names every
setting, the absent ones apart.
-/

namespace FilecoinRosetta.Configuration

/-! ## Reading -/

/-- Some settings, by name or by position. -/
structure Section where
  /-- Each name with its value, if it is there. -/
  entries : List (String × Option Toml)

/-- Read a table, or a list of the values of a table in order. -/
def Section.ofValue? (names : List String) : Toml → Option Section
  | .table members => some ⟨names.map fun name => (name, members.lookup name)⟩
  | .arr items =>
      some ⟨names.zip (items.map some ++ List.replicate (names.length - items.length) none)⟩
  | _ => none

/-- The value of a name. -/
def Section.value? (section_ : Section) (name : String) : Option Toml :=
  (section_.entries.lookup name).join

/-- A setting that has a value when it is not there. -/
def Section.get? {α : Type} (section_ : Section) (name : String) (read : Toml → Option α)
    (standard : α) : Option α :=
  match section_.value? name with
  | some value => read value
  | none => some standard

/-- A setting that must be there. -/
def Section.need? {α : Type} (section_ : Section) (name : String) (read : Toml → Option α) :
    Option α :=
  (section_.value? name).bind read

/-- A string. -/
def readString : Toml → Option String
  | .str value => some value
  | _ => none

/-- A truth value. -/
def readFlag : Toml → Option Bool
  | .bool value => some value
  | _ => none

/-- A number of 64 bits. -/
def readCount : Toml → Option UInt64
  | .int value =>
      if 0 ≤ value ∧ value < UInt64.size then some (UInt64.ofNat value.toNat) else none
  | _ => none

/-- An address to listen on. -/
def readAddress (value : Toml) : Option Internet.SocketAddress :=
  (readString value).bind Internet.SocketAddress.parse?

/-- A level, by name or as the name of an empty table or list. -/
def readLevel : Toml → Option LogLevel
  | .str name => LogLevel.ofName? name
  | .table [(name, .table [])] => LogLevel.ofName? name
  | .table [(name, .arr [])] => LogLevel.ofName? name
  | _ => none

/-- A filter, both of whose parts must be there. -/
def readFilter (value : Toml) : Option LogFilter := do
  let found ← Section.ofValue? ["module", "level"] value
  let module ← found.need? "module" readString
  let level ← found.need? "level" readLevel
  some { module, level }

/-- Filters. -/
def readFilters : Toml → Option (List LogFilter)
  | .arr items => items.mapM readFilter
  | _ => none

/-- How the node is reached. -/
def readNode (value : Toml) : Option NodeSettings := do
  let found ← Section.ofValue?
    ["rpc_url", "token", "timeout", "connect_attempts", "connect_retry_delay"] value
  let standard := NodeSettings.standard
  let url ← found.get? "rpc_url" readString standard.url
  let token ← found.get? "token" (fun value => (readString value).map some) standard.token
  let timeout ← found.get? "timeout" readCount standard.timeout
  let connectAttempts ← found.get? "connect_attempts" readCount standard.connectAttempts
  let connectRetryDelay ← found.get? "connect_retry_delay" readCount standard.connectRetryDelay
  some { url, token, timeout, connectAttempts, connectRetryDelay }

/-- Where the service listens. -/
def readServer (value : Toml) : Option ServerSettings := do
  let found ← Section.ofValue? ["listen_address", "cors"] value
  let listenAddress ← found.get? "listen_address" readAddress ServerSettings.standard.listenAddress
  let anyOrigin ← found.get? "cors" readFlag ServerSettings.standard.anyOrigin
  some { listenAddress, anyOrigin }

/-- What is switched on. -/
def readFeatures (value : Toml) : Option FeatureSettings := do
  let found ← Section.ofValue? ["enable_lotus_v2_apis", "force_safe_f3_finality"] value
  let tagged ← found.get? "enable_lotus_v2_apis" readFlag FeatureSettings.standard.tagged
  let safeByDefault ← found.get? "force_safe_f3_finality" readFlag
    FeatureSettings.standard.safeByDefault
  some { tagged, safeByDefault }

/-- How to log. -/
def readLog (value : Toml) : Option LogSettings := do
  let found ← Section.ofValue? ["json", "log_dir", "filters"] value
  let json ← found.get? "json" readFlag LogSettings.standard.json
  let directory ← found.get? "log_dir" (fun value => (readString value).map some)
    LogSettings.standard.directory
  let filters ← found.get? "filters" readFilters LogSettings.standard.filters
  some { json, directory, filters }

/-- Read the settings of a document. -/
def ofDocument? (members : List (String × Toml)) : Option Configuration := do
  let found ← Section.ofValue? ["node", "server", "features", "log"] (.table members)
  let node ← found.get? "node" readNode NodeSettings.standard
  let server ← found.get? "server" readServer ServerSettings.standard
  let features ← found.get? "features" readFeatures FeatureSettings.standard
  let log ← found.get? "log" readLog LogSettings.standard
  some { node, server, features, log }

/-! ## Writing -/

/-- A member that may be missing. -/
def optionalMember (name : String) (value : Option String) : List (String × Toml) :=
  match value with
  | some text => [(name, .str text)]
  | none => []

/-- A number of 64 bits as a value. -/
def countValue (count : UInt64) : Toml :=
  .int count.toNat

/-- The table of how the node is reached. -/
def NodeSettings.members (settings : NodeSettings) : List (String × Toml) :=
  [("rpc_url", .str settings.url)] ++ optionalMember "token" settings.token ++
    [("timeout", countValue settings.timeout),
     ("connect_attempts", countValue settings.connectAttempts),
     ("connect_retry_delay", countValue settings.connectRetryDelay)]

/-- The table of where the service listens. -/
def ServerSettings.members (settings : ServerSettings) : List (String × Toml) :=
  [("listen_address", .str settings.listenAddress.text), ("cors", .bool settings.anyOrigin)]

/-- The table of what is switched on. -/
def FeatureSettings.members (settings : FeatureSettings) : List (String × Toml) :=
  [("enable_lotus_v2_apis", .bool settings.tagged),
   ("force_safe_f3_finality", .bool settings.safeByDefault)]

/-- The table of a filter. -/
def LogFilter.value (filter : LogFilter) : Toml :=
  .table [("module", .str filter.module), ("level", .str filter.level.name)]

/-- The table of how to log. -/
def LogSettings.members (settings : LogSettings) : List (String × Toml) :=
  [("json", .bool settings.json)] ++ optionalMember "log_dir" settings.directory ++
    [("filters", .arr (settings.filters.map LogFilter.value))]

/-- The settings as a document. -/
def document (configuration : Configuration) : List (String × Toml) :=
  [("node", .table configuration.node.members), ("server", .table configuration.server.members),
   ("features", .table configuration.features.members), ("log", .table configuration.log.members)]

end FilecoinRosetta.Configuration
