import FilecoinRosetta.Proofs.CommandLine
import FilecoinRosetta.Proofs.Configuration.Document

/-!
# Settings in effect

Every setting comes from the strongest source that says something of it, whatever
the other settings are. There are no settings only if the file cannot be read or
reads as none, or if a flag or the port of the environment means nothing. Settings
that are printed and loaded again, with nothing else around, are the same.
-/

namespace FilecoinRosetta

namespace Configuration

/-! ## What the sources say -/

/-- The file says these things. Without a file nothing is said. -/
inductive FileStates (surroundings : Surroundings) : Option FileSource → Said → Prop where
  | nothing : FileStates surroundings none
      ⟨none, none, none, none, none, none, none, none, none, none, none, none⟩
  | file {source : FileSource} {content : String} {members : List (String × Toml)} {said : Said}
      (isText : surroundings.file? source.path = some (.text content))
      (isDocument : Toml.parse? content = some members) (states : States members said) :
      FileStates surroundings (some source) said

/-- What the environment says of the settings. -/
structure EnvironmentSaid where
  url : Option String
  /-- The token, or that there is none. -/
  token : Option (Option String)
  tagged : Option Bool
  safeByDefault : Option Bool
  /-- The port to listen on, of whatever address. -/
  port : Option UInt16

/-- The environment says these things, and its flags and its port can be read. An
empty token is none. -/
structure EnvironmentStates (surroundings : Surroundings) (said : EnvironmentSaid) : Prop where
  url : said.url = surroundings.environment? urlVariable
  token : said.token = (surroundings.environment? tokenVariable).map fun token =>
    if token = "" then none else some token
  tagged : Means flag? (surroundings.environment? taggedVariable) said.tagged
  safeByDefault : Means flag? (surroundings.environment? safeVariable) said.safeByDefault
  port : Means Text.Integer.uint16? (surroundings.environment? portVariable) said.port

/-- What the first of some sources says that says anything, else
what is standard. -/
def strongest {α : Type} (sources : List (Option α)) (standard : α) : α :=
  sources.foldr Option.getD standard

/-- A setting that is absent unless something is said of it. -/
theorem strongest_optional {α : Type} (said : Option α) :
    strongest [said.map some] none = said := by
  cases said <;> rfl

/-- Every setting has the value of the strongest source that says something of it:
    the command line, the environment, the file, the standard. The port of the
    environment is put into the address of the file or the standard one. -/
structure InEffect (options : Options) (environment : EnvironmentSaid) (file : Said)
    (configuration : Configuration) : Prop where
  url : configuration.node.url =
    strongest [options.url, environment.url, file.url] NodeSettings.standard.url
  token : configuration.node.token =
    strongest [environment.token, file.token.map some] NodeSettings.standard.token
  timeout : configuration.node.timeout = strongest [file.timeout] NodeSettings.standard.timeout
  connectAttempts : configuration.node.connectAttempts =
    strongest [file.connectAttempts] NodeSettings.standard.connectAttempts
  connectRetryDelay : configuration.node.connectRetryDelay =
    strongest [file.connectRetryDelay] NodeSettings.standard.connectRetryDelay
  listenAddress : configuration.server.listenAddress =
    strongest [options.listen,
      environment.port.map
        (strongest [file.listenAddress] ServerSettings.standard.listenAddress).withPort,
      file.listenAddress] ServerSettings.standard.listenAddress
  anyOrigin : configuration.server.anyOrigin =
    strongest [file.anyOrigin] ServerSettings.standard.anyOrigin
  tagged : configuration.features.tagged =
    strongest [environment.tagged, file.tagged] FeatureSettings.standard.tagged
  safeByDefault : configuration.features.safeByDefault =
    strongest [environment.safeByDefault, file.safeByDefault] FeatureSettings.standard.safeByDefault
  json : configuration.log.json = strongest [options.jsonLogs, file.json] LogSettings.standard.json
  directory : configuration.log.directory =
    strongest [file.directory.map some] LogSettings.standard.directory
  filters : configuration.log.filters = strongest [file.filters] LogSettings.standard.filters

/-- Why there are no settings. -/
inductive Fails (surroundings : Surroundings) (source : Option FileSource) : Prop where
  /-- The file holds no text, or is not there. -/
  | unreadable {file : FileSource} (isSource : source = some file)
      (noText : ∀ content, surroundings.file? file.path ≠ some (.text content))
  /-- The file reads as no configuration. -/
  | invalidFile {file : FileSource} {content : String} (isSource : source = some file)
      (isText : surroundings.file? file.path = some (.text content))
      (noSettings : ofText? content = none)
  /-- A flag means nothing. -/
  | invalidFlag {name value : String} (isFlag : name = taggedVariable ∨ name = safeVariable)
      (isValue : surroundings.environment? name = some value) (noFlag : flag? value = none)
  /-- The port is none. -/
  | invalidPort {value : String} (isValue : surroundings.environment? portVariable = some value)
      (noPort : Text.Integer.uint16? value = none)

/-! ## Source by source -/

/-- A text reads as the settings of its document, if it is a document and each of
its values means something. -/
theorem ofText_iff {content : String} {configuration : Configuration} :
    ofText? content = some configuration ↔
      ∃ members said, Toml.parse? content = some members ∧ States members said ∧
        configuration = said.configuration := by
  rw [ofText?, Option.bind_eq_some_iff]
  constructor
  · rintro ⟨members, isDocument, isRead⟩
    obtain ⟨said, states, whole⟩ := ofDocument_iff.mp isRead
    exact ⟨members, said, isDocument, states, whole⟩
  · rintro ⟨members, said, isDocument, states, whole⟩
    exact ⟨members, isDocument, ofDocument_iff.mpr ⟨said, states, whole⟩⟩

section

variable {surroundings : Surroundings}

/-- The file gives what it says, and what is standard elsewhere. Without a
file everything is standard. -/
theorem readSource_ok_iff {source : Option FileSource} {configuration : Configuration} :
    readSource surroundings source = .ok configuration ↔
      ∃ said, FileStates surroundings source said ∧ configuration = said.configuration := by
  cases source with
  | none =>
    constructor
    · intro read
      exact ⟨_, .nothing, (Except.ok.inj read).symm⟩
    · rintro ⟨said, states, rfl⟩
      cases states
      rfl
  | some source =>
    rw [readSource, readFile]
    constructor
    · intro read
      split at read
      · rename_i content isText
        split at read
        · contradiction
        · rename_i isRead
          obtain rfl := Except.ok.inj read
          obtain ⟨members, said, isDocument, states, whole⟩ := ofText_iff.mp isRead
          exact ⟨said, .file isText isDocument states, whole⟩
      · contradiction
    · rintro ⟨said, states, rfl⟩
      cases states with
      | file isText isDocument states =>
        have isRead := ofText_iff.mpr ⟨_, said, isDocument, states, rfl⟩
        simp only [isText, isRead]

/-- A flag of the environment replaces the one from before, if it is
set and means something. -/
theorem flagOr_ok_iff {name : String} {before flag : Bool} :
    flagOr surroundings name before = .ok flag ↔
      ∃ said, Means flag? (surroundings.environment? name) said ∧ flag = said.getD before := by
  rw [flagOr]
  cases surroundings.environment? name with
  | none => simp [means_none_iff, eq_comm]
  | some value =>
    cases isFlag : flag? value with
    | none => simp [means_some_iff, isFlag]
    | some meant => simp [means_some_iff, isFlag, eq_comm]

/-- The port of the environment replaces the port of the address from before. -/
theorem addressOr_ok_iff {before address : Internet.SocketAddress} :
    addressOr surroundings before = .ok address ↔
      ∃ port, Means Text.Integer.uint16? (surroundings.environment? portVariable) port ∧
        address = (port.map before.withPort).getD before := by
  rw [addressOr]
  cases surroundings.environment? portVariable with
  | none => simp [means_none_iff, eq_comm]
  | some value =>
    cases isPort : Text.Integer.uint16? value with
    | none => simp [means_some_iff, isPort]
    | some port => simp [means_some_iff, isPort, eq_comm]

/-- The token of the environment replaces the one from before. An empty
one takes it away. -/
theorem tokenOr_eq (before : Option String) :
    tokenOr surroundings before =
      strongest [(surroundings.environment? tokenVariable).map fun token =>
        if token = "" then none else some token, before.map some] none := by
  rw [tokenOr]
  cases surroundings.environment? tokenVariable with
  | none => cases before <;> rfl
  | some token => rfl

/-- Settings with what the environment says put over them. -/
def EnvironmentSaid.over (said : EnvironmentSaid) (configuration : Configuration) : Configuration :=
  { configuration with
    node := { configuration.node with
      url := said.url.getD configuration.node.url
      token := strongest [said.token, configuration.node.token.map some] none }
    features := ⟨said.tagged.getD configuration.features.tagged,
      said.safeByDefault.getD configuration.features.safeByDefault⟩
    server := { configuration.server with
      listenAddress := (said.port.map configuration.server.listenAddress.withPort).getD
        configuration.server.listenAddress } }

/-- The environment gives what it says, and the settings from before elsewhere. -/
theorem withEnvironment_ok_iff {before after : Configuration} :
    withEnvironment surroundings before = .ok after ↔
      ∃ said, EnvironmentStates surroundings said ∧ after = said.over before := by
  simp only [withEnvironment, bind_ok_iff, flagOr_ok_iff, addressOr_ok_iff, tokenOr_eq]
  constructor
  · rintro ⟨_, ⟨tagged, isTagged, rfl⟩, _, ⟨safe, isSafe, rfl⟩, _, ⟨port, isPort, rfl⟩, whole⟩
    exact ⟨⟨_, _, tagged, safe, port⟩, ⟨rfl, rfl, isTagged, isSafe, isPort⟩,
      (Except.ok.inj whole).symm⟩
  · rintro ⟨⟨url, token, tagged, safe, port⟩, ⟨rfl, rfl, isTagged, isSafe, isPort⟩, rfl⟩
    exact ⟨_, ⟨tagged, isTagged, rfl⟩, _, ⟨safe, isSafe, rfl⟩, _, ⟨port, isPort, rfl⟩, rfl⟩

/-- What the command line leaves of what the environment leaves of the settings of a
file is in effect. -/
theorem layers_in_effect (options : Options) (environment : EnvironmentSaid) (file : Said) :
    InEffect options environment file
      (withOptions options (environment.over file.configuration)) := by
  exact {
    url := rfl
    token := rfl
    timeout := rfl
    connectAttempts := rfl
    connectRetryDelay := rfl
    listenAddress := rfl
    anyOrigin := rfl
    tagged := rfl
    safeByDefault := rfl
    json := rfl
    directory := (strongest_optional file.directory).symm
    filters := rfl }

/-- Settings are loaded from what the sources say. This is the whole of it: which
source is taken, what it states and what is in effect. -/
theorem load_ok_iff {options : Options} {loaded : Loaded} :
    load surroundings options = .ok loaded ↔
      loaded.source = locate surroundings options ∧
        ∃ file environment, FileStates surroundings loaded.source file ∧
          EnvironmentStates surroundings environment ∧
          loaded.configuration = withOptions options (environment.over file.configuration) := by
  simp only [load, bind_ok_iff, readSource_ok_iff, withEnvironment_ok_iff]
  constructor
  · rintro ⟨_, ⟨file, fileStates, rfl⟩, _, ⟨environment, environmentStates, rfl⟩, whole⟩
    obtain rfl := Except.ok.inj whole
    exact ⟨rfl, file, environment, fileStates, environmentStates, rfl⟩
  · obtain ⟨source, configuration⟩ := loaded
    rintro ⟨rfl, file, environment, fileStates, environmentStates, rfl⟩
    exact ⟨_, ⟨file, fileStates, rfl⟩, _, ⟨environment, environmentStates, rfl⟩, rfl⟩

/-- The file can be read unless it holds no text or no settings. -/
theorem fileStates_or_fails (source : Option FileSource) :
    (∃ said, FileStates surroundings source said) ∨ Fails surroundings source := by
  cases source with
  | none => exact .inl ⟨_, .nothing⟩
  | some file =>
    by_cases isText : ∃ content, surroundings.file? file.path = some (.text content)
    · obtain ⟨content, isText⟩ := isText
      cases isRead : ofText? content with
      | none => exact .inr (.invalidFile rfl isText isRead)
      | some configuration =>
        obtain ⟨members, said, isDocument, states, -⟩ := ofText_iff.mp isRead
        exact .inl ⟨said, .file isText isDocument states⟩
    · exact .inr (.unreadable rfl (not_exists.mp isText))

/-- The environment can be read unless a flag or the port means nothing. -/
theorem environmentStates_or_fails (source : Option FileSource) :
    (∃ said, EnvironmentStates surroundings said) ∨ Fails surroundings source := by
  by_contra neither
  obtain ⟨noStates, noFailure⟩ := not_or.mp neither
  obtain ⟨tagged, isTagged⟩ := means_iff.mpr fun value isValue noFlag =>
    noFailure (.invalidFlag (.inl rfl) isValue noFlag)
  obtain ⟨safe, isSafe⟩ := means_iff.mpr fun value isValue noFlag =>
    noFailure (.invalidFlag (.inr rfl) isValue noFlag)
  obtain ⟨port, isPort⟩ := means_iff.mpr fun value isValue noPort =>
    noFailure (.invalidPort isValue noPort)
  exact noStates ⟨⟨_, _, tagged, safe, port⟩, rfl, rfl, isTagged, isSafe, isPort⟩

/-- Where loading has reason to fail, the file or the environment cannot be read. -/
theorem Fails.unstated {source : Option FileSource} (fails : Fails surroundings source)
    {file : Said} {environment : EnvironmentSaid}
    (fileStates : FileStates surroundings source file)
    (environmentStates : EnvironmentStates surroundings environment) : False := by
  cases fails with
  | unreadable isSource noText =>
    subst isSource
    cases fileStates with
    | file isText => exact noText _ isText
  | invalidFile isSource isText noSettings =>
    subst isSource
    cases fileStates with
    | file isOther isDocument states =>
      obtain rfl := FileContent.text.inj (Option.some.inj (isText.symm.trans isOther))
      rw [ofText_iff.mpr ⟨_, file, isDocument, states, rfl⟩] at noSettings
      contradiction
  | invalidFlag isFlag isValue noFlag =>
    rcases isFlag with rfl | rfl
    · exact means_iff.mp ⟨_, environmentStates.tagged⟩ _ isValue noFlag
    · exact means_iff.mp ⟨_, environmentStates.safeByDefault⟩ _ isValue noFlag
  | invalidPort isValue noPort => exact means_iff.mp ⟨_, environmentStates.port⟩ _ isValue noPort

/-- Loading fails exactly if it has reason to: a file that is missing, cannot be
read or says no settings, or a variable that does not mean anything. -/
theorem load_fails_iff {options : Options} :
    (∃ error, load surroundings options = .error error) ↔
      Fails surroundings (locate surroundings options) := by
  constructor
  · rintro ⟨error, isError⟩
    rcases fileStates_or_fails (locate surroundings options) with ⟨file, fileStates⟩ | fails
    · rcases environmentStates_or_fails (locate surroundings options) with
        ⟨environment, environmentStates⟩ | fails
      · have isLoaded : load surroundings options = .ok ⟨locate surroundings options,
            withOptions options (environment.over file.configuration)⟩ :=
          load_ok_iff.mpr ⟨rfl, file, environment, fileStates, environmentStates, rfl⟩
        rw [isError] at isLoaded
        contradiction
      · exact fails
    · exact fails
  · intro fails
    cases result : load surroundings options with
    | error error => exact ⟨error, rfl⟩
    | ok loaded =>
      obtain ⟨isSource, file, environment, fileStates, environmentStates, -⟩ :=
        load_ok_iff.mp result
      exact (fails.unstated (isSource ▸ fileStates) environmentStates).elim

/-! ## Printed and loaded again -/

/-- Variables that set something. -/
def settingVariables : List String :=
  [urlVariable, tokenVariable, taggedVariable, safeVariable, portVariable]

/-- Nothing but a file says anything: no variable is set, and no option but the
one for a file. -/
structure Silent (surroundings : Surroundings) (options : Options) : Prop where
  unset : ∀ name ∈ settingVariables, surroundings.environment? name = none
  url : options.url = none
  listen : options.listen = none
  jsonLogs : options.jsonLogs = none

/-- An address that a document gives can be one, since it was read from a text. -/
theorem States.real {members : List (String × Toml)} {said : Said} (states : States members said) :
    said.configuration.server.listenAddress.Real := by
  have means := states.listenAddress
  have standardReal : ServerSettings.standard.listenAddress.Real := trivial
  cases isSaid : said.listenAddress with
  | none => simpa [Said.configuration, isSaid] using standardReal
  | some address =>
    rw [isSaid] at means
    obtain ⟨value, -, isRead⟩ := Option.map_eq_some_iff.mp means
    obtain ⟨text, -, isAddress⟩ := Option.bind_eq_some_iff.mp isRead
    simpa [Said.configuration, isSaid] using Internet.SocketAddress.parse_real isAddress

/-- Whatever address is listened on can be, if the one of the command line can. -/
theorem load_real {options : Options} (real : CommandLine.RealListen options) {loaded : Loaded}
    (isLoaded : load surroundings options = .ok loaded) :
    loaded.configuration.server.listenAddress.Real := by
  obtain ⟨-, file, environment, fileStates, -, whole⟩ := load_ok_iff.mp isLoaded
  have fileReal : file.configuration.server.listenAddress.Real := by
    generalize loaded.source = source at fileStates
    cases fileStates with
    | nothing => trivial
    | file _ _ states => exact states.real
  have environmentReal : (environment.over file.configuration).server.listenAddress.Real := by
    cases isPort : environment.port with
    | none => simpa [EnvironmentSaid.over, isPort] using fileReal
    | some port => simpa [EnvironmentSaid.over, isPort] using fileReal.withPort port
  rw [whole]
  cases isListen : options.listen with
  | none => simpa [withOptions, isListen] using environmentReal
  | some address => simpa [withOptions, isListen] using real address isListen

/-- Settings that were printed are loaded again just as they were, if
nothing else says anything. -/
theorem load_text {configuration : Configuration} (real : configuration.server.listenAddress.Real)
    {options : Options} (silent : Silent surroundings options) {source : FileSource}
    (located : locate surroundings options = some source)
    (printed : surroundings.file? source.path = some (.text configuration.text)) :
    load surroundings options = .ok ⟨some source, configuration⟩ := by
  have unset (name : String) (isSetting : name ∈ settingVariables) :
      surroundings.environment? name = none :=
    silent.unset name isSetting
  have fileStates : FileStates surroundings (some source) configuration.everything :=
    .file printed configuration.parse_text (configuration.states_document real)
  have environmentStates : EnvironmentStates surroundings ⟨none, none, none, none, none⟩ := by
    constructor
    · rw [unset urlVariable (by decide)]
    · rw [unset tokenVariable (by decide)]
      rfl
    · rw [unset taggedVariable (by decide)]
      rfl
    · rw [unset safeVariable (by decide)]
      rfl
    · rw [unset portVariable (by decide)]
      rfl
  have unchanged :
      EnvironmentSaid.over ⟨none, none, none, none, none⟩ configuration = configuration := by
    simp only [EnvironmentSaid.over, Option.getD_none, Option.map_none]
    have token :
        strongest [none, configuration.node.token.map some] none = configuration.node.token :=
      strongest_optional _
    rw [token]
  have same : withOptions options configuration = configuration := by
    simp only [withOptions, silent.url, silent.listen, silent.jsonLogs, Option.getD_none]
  refine load_ok_iff.mpr ⟨located.symm, configuration.everything, _, fileStates,
    environmentStates, ?_⟩
  rw [show configuration.everything.configuration = configuration from rfl, unchanged, same]

end

/-- For every file, environment and command line, loading fails exactly if it
has reason to; otherwise every setting is that of its strongest source. Settings
that are printed and loaded again, with nothing else that says anything, are the
same. The last part rests on the text of a configuration being read back,
whatever its settings are. -/
theorem settings_in_effect (surroundings : Surroundings) {arguments : List String}
    {request : CommandLine.Request} (given : CommandLine.parse arguments = .ok request) :
    ((∃ error, load surroundings request.options = .error error) ↔
      Fails surroundings (locate surroundings request.options)) ∧
    ∀ loaded, load surroundings request.options = .ok loaded →
      loaded.source = locate surroundings request.options ∧
      (∃ file environment, FileStates surroundings loaded.source file ∧
        EnvironmentStates surroundings environment ∧
        InEffect request.options environment file loaded.configuration) ∧
      ∀ later options source, Silent later options → locate later options = some source →
        later.file? source.path = some (.text loaded.configuration.text) →
        load later options = .ok ⟨some source, loaded.configuration⟩ := by
  refine ⟨load_fails_iff, ?_⟩
  intro loaded isLoaded
  obtain ⟨isSource, file, environment, fileStates, environmentStates, whole⟩ :=
    load_ok_iff.mp isLoaded
  have real := load_real (CommandLine.parse_real given) isLoaded
  refine ⟨isSource, ⟨file, environment, fileStates, environmentStates, ?_⟩, ?_⟩
  · rw [whole]
    exact layers_in_effect request.options environment file
  · intro later options source silent located printed
    exact load_text real silent located printed

/-! ### Settings that every source has a part in -/

namespace Workshop

/-- A file with a token, an address and no filters. -/
def content : String :=
  "[node]\ntoken = \"secret\"\n\n[server]\nlisten_address = \"127.0.0.1:2345\"\n\n[log]\nfilters = []\n"

/-- An environment that takes the token away and names a port. -/
def environment? (name : String) : Option String :=
  if name = tokenVariable then some "" else if name = portVariable then some "9000" else none

/-- One file, which only the command line names. -/
def surroundings : Surroundings where
  environment? := environment?
  file? path := if path = "rosetta.toml" then some (.text content) else none
  userFile := none

/-- A command line that names the file and asks for logs in JSON. -/
def arguments : List String := ["--config", "rosetta.toml", "--log-format=json"]

/-- What the command line asks for. -/
def request : CommandLine.Request := ⟨none, ⟨some "rosetta.toml", none, none, some true⟩⟩

/-- The settings in effect. -/
def configuration : Configuration :=
  { standard with
    server := { ServerSettings.standard with listenAddress := .v4 ⟨0x7F000001⟩ 9000 }
    log := ⟨true, none, []⟩ }

/-- What was printed as the user's own file, and nothing else. -/
def printed : Surroundings where
  environment? _ := none
  file? path := if path = "config.toml" then some (.text configuration.text) else none
  userFile := some "config.toml"

end Workshop

/-- The address of the file has the port of the environment, the token is gone, no
    standard filters come back, and what is printed is loaded again. -/
theorem workshop_in_effect :
    CommandLine.parse Workshop.arguments = .ok Workshop.request ∧
      load Workshop.surroundings Workshop.request.options =
        .ok ⟨some (.commandLine "rosetta.toml"), Workshop.configuration⟩ ∧
      load Workshop.printed .none = .ok ⟨some (.user "config.toml"), Workshop.configuration⟩ := by
  have given : CommandLine.parse Workshop.arguments = .ok Workshop.request := by decide +kernel
  have isLoaded : load Workshop.surroundings Workshop.request.options =
      .ok ⟨some (.commandLine "rosetta.toml"), Workshop.configuration⟩ := by decide +kernel
  obtain ⟨-, -, again⟩ := (settings_in_effect Workshop.surroundings given).2 _ isLoaded
  have silent : Silent Workshop.printed .none := ⟨fun _ _ => rfl, rfl, rfl, rfl⟩
  exact ⟨given, isLoaded,
    again Workshop.printed .none (.user "config.toml") silent (by decide +kernel) rfl⟩

end Configuration

end FilecoinRosetta
