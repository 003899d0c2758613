import FilecoinRosetta.Configuration.Document
import FilecoinRosetta.Text.Blank
import FilecoinRosetta.Toml.Reader
import FilecoinRosetta.Toml.Writer

/-!
# Where settings come from

Settings come from the command line, the environment, one file, and the
standard, the stronger source first. The file is the one the command line names,
else the one the environment names, else the one of the user; the latter two
only if they are there.
-/

namespace FilecoinRosetta.Configuration

/-- What is found at a path. -/
inductive FileContent where
  /-- Something that is no text or may not be read. -/
  | unreadable
  | text (content : String)
  deriving DecidableEq, Repr

/-- What a program finds around it. -/
structure Surroundings where
  /-- The variables of the environment. -/
  environment? : String → Option String
  /-- What is at a path, if anything is. -/
  file? : String → Option FileContent
  /-- The path of the user's own file, if there is a place for it. -/
  userFile : Option String

/-- What the command line can set. -/
structure Options where
  /-- The file to read. -/
  file : Option String
  /-- The URL of the node. -/
  url : Option String
  listen : Option Internet.SocketAddress
  /-- Whether lines of logs are JSON. -/
  jsonLogs : Option Bool
  deriving DecidableEq, Repr

/-- A command line that sets nothing. -/
def Options.none : Options := ⟨Option.none, Option.none, Option.none, Option.none⟩

/-- The file that settings come from. -/
inductive FileSource where
  /-- The one the command line names. -/
  | commandLine (path : String)
  /-- The one the environment names. -/
  | environment (path : String)
  | user (path : String)
  deriving DecidableEq, Repr

/-- The path of the file. -/
def FileSource.path : FileSource → String
  | commandLine path => path
  | environment path => path
  | user path => path

/-- Why there are no settings. -/
inductive LoadError where
  /-- The file cannot be read. -/
  | unreadable (path : String)
  /-- The file holds no settings. -/
  | invalidFile (path : String)
  /-- A variable is no flag. -/
  | invalidFlag (name value : String)
  /-- A variable is no port. -/
  | invalidPort (name value : String)
  deriving DecidableEq, Repr

/-- The wording of a load error. -/
def LoadError.message : LoadError → String
  | unreadable path => "couldn't read " ++ path
  | invalidFile path => "invalid config file " ++ path
  | invalidFlag name value => name ++ ": expected 1, 0, true or false, got " ++ value
  | invalidPort name value => name ++ ": invalid port " ++ value

/-- The variable that names a file. -/
def fileVariable : String := "FOREST_ROSETTA_CONFIG_PATH"

/-- The variable that names the node. -/
def urlVariable : String := "LOTUS_RPC_URL"

/-- The variable that holds the node's token. -/
def tokenVariable : String := "LOTUS_RPC_TOKEN"

/-- The variable that switches finality tags. -/
def taggedVariable : String := "ENABLE_LOTUS_V2_APIS"

/-- The variable that switches safe tipsets. -/
def safeVariable : String := "FORCE_SAFE_F3_FINALITY"

/-- The variable that holds the port to listen on. -/
def portVariable : String := "ROSETTA_PORT"

/-! ## The file -/

/-- Where the user's own file belongs: among the settings of all programs, in a
    directory that a variable names by its full path, else in the usual one
    under the user's home. -/
def userPath? (environment? : String → Option String) : Option String :=
  let named := (environment? "XDG_CONFIG_HOME").filter fun path => path.toList.head? == some '/'
  let usual := ((environment? "HOME").filter fun path => path != "").map (· ++ "/.config")
  (named <|> usual).map (· ++ "/forest-rosetta/config.toml")

/-- The path of a variable, if something is there. -/
def variableFile? (surroundings : Surroundings) : Option FileSource := do
  let path ← surroundings.environment? fileVariable
  let _ ← surroundings.file? path
  some (.environment path)

/-- The user's own file, if it is there. -/
def userFile? (surroundings : Surroundings) : Option FileSource := do
  let path ← surroundings.userFile
  let _ ← surroundings.file? path
  some (.user path)

/-- The file that settings come from, if there is one. -/
def locate (surroundings : Surroundings) (options : Options) : Option FileSource :=
  match options.file with
  | some path => some (.commandLine path)
  | none => variableFile? surroundings <|> userFile? surroundings

/-- The settings of a text. -/
def ofText? (text : String) : Option Configuration :=
  (Toml.parse? text).bind ofDocument?

/-- The settings of a file. -/
def readFile (surroundings : Surroundings) (source : FileSource) : Except LoadError Configuration :=
  match surroundings.file? source.path with
  | some (.text content) =>
      match ofText? content with
      | none => .error (.invalidFile source.path)
      | some configuration => .ok configuration
  | _ => .error (.unreadable source.path)

/-- The settings of the file, or the standard ones if there is none. -/
def readSource (surroundings : Surroundings) : Option FileSource → Except LoadError Configuration
  | some source => readFile surroundings source
  | none => .ok standard

/-! ## The environment -/

/-- Read a flag. Blanks around it and its case do not count. -/
def flag? (value : String) : Option Bool :=
  let word := String.ofList ((Text.trimmed value).toList.map Char.toLower)
  if word = "1" ∨ word = "true" then some true
  else if word = "0" ∨ word = "false" then some false
  else none

/-- The flag of a variable, or the setting that was there before. -/
def flagOr (surroundings : Surroundings) (name : String) (before : Bool) : Except LoadError Bool :=
  match surroundings.environment? name with
  | none => .ok before
  | some value =>
      match flag? value with
      | some flag => .ok flag
      | none => .error (.invalidFlag name value)

/-- The address with the port of a variable, or the address
that was there before. -/
def addressOr (surroundings : Surroundings) (before : Internet.SocketAddress) :
    Except LoadError Internet.SocketAddress :=
  match surroundings.environment? portVariable with
  | none => .ok before
  | some value =>
      match Text.Integer.uint16? value with
      | some port => .ok (before.withPort port)
      | none => .error (.invalidPort portVariable value)

/-- The token of a variable, or the one that was there before. An empty
variable takes it away. -/
def tokenOr (surroundings : Surroundings) (before : Option String) : Option String :=
  match surroundings.environment? tokenVariable with
  | none => before
  | some token => if token = "" then none else some token

/-- Settings with those of the environment put over them. -/
def withEnvironment (surroundings : Surroundings) (configuration : Configuration) :
    Except LoadError Configuration := do
  let url := (surroundings.environment? urlVariable).getD configuration.node.url
  let token := tokenOr surroundings configuration.node.token
  let tagged ← flagOr surroundings taggedVariable configuration.features.tagged
  let safeByDefault ← flagOr surroundings safeVariable configuration.features.safeByDefault
  let listenAddress ← addressOr surroundings configuration.server.listenAddress
  return { configuration with
    node := { configuration.node with url, token }
    features := { tagged, safeByDefault }
    server := { configuration.server with listenAddress } }

/-! ## The command line -/

/-- Settings with those of the command line put over them. -/
def withOptions (options : Options) (configuration : Configuration) : Configuration :=
  { configuration with
    node := { configuration.node with url := options.url.getD configuration.node.url }
    server := { configuration.server with
      listenAddress := options.listen.getD configuration.server.listenAddress }
    log := { configuration.log with json := options.jsonLogs.getD configuration.log.json } }

/-- Settings with the file they come from. -/
structure Loaded where
  source : Option FileSource
  /-- The settings. -/
  configuration : Configuration
  deriving DecidableEq, Repr

/-- The settings in effect. -/
def load (surroundings : Surroundings) (options : Options) : Except LoadError Loaded := do
  let source := locate surroundings options
  let fromFile ← readSource surroundings source
  let fromEnvironment ← withEnvironment surroundings fromFile
  return ⟨source, withOptions options fromEnvironment⟩

/-- The settings as a text that can be read again. -/
def text (configuration : Configuration) : String :=
  Toml.write configuration.document

end FilecoinRosetta.Configuration
