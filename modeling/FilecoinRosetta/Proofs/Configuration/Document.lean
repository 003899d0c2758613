import FilecoinRosetta.Configuration.Sources
import FilecoinRosetta.Proofs.Internet.SocketAddress
import FilecoinRosetta.Proofs.Toml.Document

/-!
# Configurations written and read back

What a document says of a setting stands under the setting's name in the setting's
table, or at its place in a list. A document reads as a configuration if
everything it says can be read, and what it does not say is standard. A
configuration that is written says everything, its empty lists and absent settings
included, and reads as itself.
-/

namespace FilecoinRosetta.Configuration

/-! ## What a document says -/

/-- What a table holds under a name, or a list at the place of the name. -/
def held? (names : List String) (name : String) : Toml → Option Toml
  | .table members => members.lookup name
  | .arr items => (names.idxOf? name).bind (items[·]?)
  | _ => none

/-- The names of settings in the order of a list. -/
def nodeNames : List String :=
    ["rpc_url", "token", "timeout", "connect_attempts", "connect_retry_delay"]

/-- The names of settings in the order of a list. -/
def serverNames : List String := ["listen_address", "cors"]

/-- The names of settings in the order of a list. -/
def featureNames : List String := ["enable_lotus_v2_apis", "force_safe_f3_finality"]

/-- The names of settings in the order of a list. -/
def logNames : List String := ["json", "log_dir", "filters"]

/-- A name that is looked for is found among the members of a table as it stands
there, if it is there at all. -/
theorem lookup_named {names : List String} {name : String} (known : name ∈ names)
    (members : List (String × Toml)) :
    ((names.map fun name => (name, members.lookup name)).lookup name).join =
      members.lookup name := by
  induction names with
  | nil => simp at known
  | cons first rest ih =>
    rw [List.map_cons, List.lookup_cons]
    by_cases same : name = first
    · simp [same]
    · simpa [beq_eq_false_iff_ne.mpr same] using ih ((List.mem_cons.mp known).resolve_left same)

/-- A name that is looked for is found among the items of a list at the place that it
has among the names, if the list is long enough. -/
theorem lookup_listed {names : List String} {name : String} (known : name ∈ names)
    (items : List Toml) :
    ((names.zip (items.map some ++ List.replicate (names.length - items.length) none)).lookup
        name).join =
      (names.idxOf? name).bind (items[·]?) := by
  induction names generalizing items with
  | nil => simp at known
  | cons first rest ih =>
    -- The place of a name counts in the list as it does among the names.
    by_cases same : name = first
    · cases items with
      | nil => simp [same, List.replicate_succ, List.idxOf?_cons]
      | cons item more => simp [same, List.idxOf?_cons]
    · have apart : (name == first) = false := beq_eq_false_iff_ne.mpr same
      have apart' : (first == name) = false := beq_eq_false_iff_ne.mpr (Ne.symm same)
      have later := ih ((List.mem_cons.mp known).resolve_left same)
      cases items with
      | nil =>
        have rest' := later []
        simp only [List.map_nil, List.nil_append, List.length_nil, Nat.sub_zero] at rest'
        simp [List.replicate_succ, List.idxOf?_cons, List.lookup_cons, apart, apart', rest']
      | cons item more =>
        simp [List.idxOf?_cons, List.lookup_cons, apart, apart', later more, Option.bind_map]

/-- What is known of a name among some settings is what is held under it, be they a
table or a list. -/
theorem value_ofValue {names : List String} {value : Toml} {found : Section}
    (isSection : Section.ofValue? names value = some found) {name : String} (known : name ∈ names) :
    found.value? name = held? names name value := by
  cases value with
  | table members =>
    obtain rfl := Option.some.inj isSection
    exact lookup_named known members
  | arr items =>
    obtain rfl := Option.some.inj isSection
    exact lookup_listed known items
  | _ => contradiction

/-- A table, or a list in its place. -/
def IsSection : Toml → Prop
  | .table _ => True
  | .arr _ => True
  | _ => False

/-- Tables and lists, and nothing else, are read as settings. A list gives its
values to the names in their order. -/
theorem ofValue_isSome_iff (names : List String) (value : Toml) :
    (∃ found, Section.ofValue? names value = some found) ↔ IsSection value := by
  cases value <;> simp [Section.ofValue?, IsSection]

/-- What is said of a setting is what its value means. Without a value nothing is
    said, and a value that means nothing cannot be read. -/
def Means {α β : Type} (read : β → Option α) (value : Option β) (said : Option α) : Prop :=
  value.map read = said.map some

section

variable {α β : Type} {read : β → Option α} {said : Option α}

/-- Nothing is said without a value, and that is the only thing said then. -/
theorem means_none_iff : Means read none said ↔ said = none := by
  cases said <;> simp [Means]

/-- Of a value, what it means is said. If it means nothing, nothing can be said
of it at all. -/
theorem means_some_iff {value : β} :
    Means read (some value) said ↔ ∃ meant, read value = some meant ∧ said = some meant := by
  cases said <;> simp [Means, eq_comm]

/-- Something is said exactly if every value means something. Absent values never
stand in the way. -/
theorem means_iff {value : Option β} :
    (∃ said, Means read value said) ↔ ∀ one, value = some one → read one ≠ none := by
  cases value with
  | none => simp [means_none_iff]
  | some one => simp [means_some_iff, Option.ne_none_iff_exists']

end

/-- A setting has the value that is said of it, else the standard one. -/
theorem get_eq_some_iff {α : Type} {found : Section} {name : String} {read : Toml → Option α}
    {standard setting : α} :
    found.get? name read standard = some setting ↔
      ∃ said, Means read (found.value? name) said ∧ setting = said.getD standard := by
  rw [Section.get?]
  cases found.value? name with
  | none => simp [means_none_iff, eq_comm]
  | some value => simp [means_some_iff]

/-- A setting that may be absent has the value that is said of it, if any. -/
theorem get_optional_iff {α : Type} {found : Section} {name : String} {read : Toml → Option α}
    {setting : Option α} :
    found.get? name (fun value => (read value).map some) none = some setting ↔
      Means read (found.value? name) setting := by
  rw [Section.get?]
  cases found.value? name with
  | none => simp [means_none_iff, eq_comm]
  | some value => simp [means_some_iff, eq_comm]

/-- What a document says of the settings. -/
structure Said where
  url : Option String
  token : Option String
  timeout : Option UInt64
  connectAttempts : Option UInt64
  connectRetryDelay : Option UInt64
  listenAddress : Option Internet.SocketAddress
  anyOrigin : Option Bool
  tagged : Option Bool
  safeByDefault : Option Bool
  json : Option Bool
  directory : Option String
  filters : Option (List LogFilter)

/-- The settings of a document that says something, standard wherever
it says nothing. -/
def Said.configuration (said : Said) : Configuration where
  node := ⟨said.url.getD NodeSettings.standard.url, said.token,
    said.timeout.getD NodeSettings.standard.timeout,
    said.connectAttempts.getD NodeSettings.standard.connectAttempts,
    said.connectRetryDelay.getD NodeSettings.standard.connectRetryDelay⟩
  server := ⟨said.listenAddress.getD ServerSettings.standard.listenAddress,
    said.anyOrigin.getD ServerSettings.standard.anyOrigin⟩
  features := ⟨said.tagged.getD FeatureSettings.standard.tagged,
    said.safeByDefault.getD FeatureSettings.standard.safeByDefault⟩
  log := ⟨said.json.getD LogSettings.standard.json, said.directory,
    said.filters.getD LogSettings.standard.filters⟩

/-- What a document holds for a setting. -/
def setting? (members : List (String × Toml)) (table : String) (names : List String)
    (name : String) :
    Option Toml :=
  (members.lookup table).bind (held? names name)

/-- A document says these things, and all of them can be read. -/
structure States (members : List (String × Toml)) (said : Said) : Prop where
  sections : ∀ table ∈ ["node", "server", "features", "log"],
    ∀ value, members.lookup table = some value → IsSection value
  url : Means readString (setting? members "node" nodeNames "rpc_url") said.url
  token : Means readString (setting? members "node" nodeNames "token") said.token
  timeout : Means readCount (setting? members "node" nodeNames "timeout") said.timeout
  connectAttempts :
    Means readCount (setting? members "node" nodeNames "connect_attempts") said.connectAttempts
  connectRetryDelay :
    Means readCount (setting? members "node" nodeNames "connect_retry_delay") said.connectRetryDelay
  listenAddress :
    Means readAddress (setting? members "server" serverNames "listen_address") said.listenAddress
  anyOrigin : Means readFlag (setting? members "server" serverNames "cors") said.anyOrigin
  tagged : Means readFlag (setting? members "features" featureNames "enable_lotus_v2_apis")
    said.tagged
  safeByDefault :
    Means readFlag (setting? members "features" featureNames "force_safe_f3_finality")
      said.safeByDefault
  json : Means readFlag (setting? members "log" logNames "json") said.json
  directory : Means readString (setting? members "log" logNames "log_dir") said.directory
  filters : Means readFilters (setting? members "log" logNames "filters") said.filters

/-! ### Table by table -/

/-- The settings of a table that may be left out. -/
def sectionOf? (names : List String) : Option Toml → Option Section
  | none => some ⟨[]⟩
  | some value => Section.ofValue? names value

variable {names : List String} {table : Option Toml} {found inner : Section}

/-- A table that is left out is read as one that says nothing. -/
theorem get_table {α : Type} {name : String} {standard : α} {body : Section → Option α}
    (isTable : found.value? name = table) (isStandard : body ⟨[]⟩ = some standard) :
    found.get? name (fun value => (Section.ofValue? names value).bind body) standard =
      (sectionOf? names table).bind body := by
  rw [Section.get?, isTable]
  cases table with
  | none => exact isStandard.symm
  | some value => rfl

/-- What is known of a name in a table that may be left out. -/
theorem value_sectionOf (isSection : sectionOf? names table = some inner) {name : String}
    (known : name ∈ names) :
    inner.value? name = table.bind (held? names name) := by
  cases table with
  | none =>
    obtain rfl := Option.some.inj isSection
    rfl
  | some value => exact value_ofValue isSection known

/-- What is left out, or a table or a list, is read as settings. -/
theorem sectionOf_isSome_iff (names : List String) :
    (∃ inner, sectionOf? names table = some inner) ↔
      ∀ value, table = some value → IsSection value := by
  cases table with
  | none => simp [sectionOf?]
  | some value => simp [sectionOf?, ofValue_isSome_iff]

/-- How the node is reached, as far as it is said. What is not said is standard, and
the token may be absent. -/
theorem node_iff {node : NodeSettings} (isTable : found.value? "node" = table) :
    found.get? "node" readNode NodeSettings.standard = some node ↔
      (∀ value, table = some value → IsSection value) ∧
        ∃ url token timeout attempts delay,
          Means readString (table.bind (held? nodeNames "rpc_url")) url ∧
          Means readString (table.bind (held? nodeNames "token")) token ∧
          Means readCount (table.bind (held? nodeNames "timeout")) timeout ∧
          Means readCount (table.bind (held? nodeNames "connect_attempts")) attempts ∧
          Means readCount (table.bind (held? nodeNames "connect_retry_delay")) delay ∧
          node = ⟨url.getD NodeSettings.standard.url, token,
            timeout.getD NodeSettings.standard.timeout,
            attempts.getD NodeSettings.standard.connectAttempts,
            delay.getD NodeSettings.standard.connectRetryDelay⟩ := by
  have isRead :
      found.get? "node" readNode NodeSettings.standard = (sectionOf? nodeNames table).bind _ :=
    get_table isTable rfl
  have noToken : NodeSettings.standard.token = none := rfl
  rw [← sectionOf_isSome_iff nodeNames, isRead]
  cases isInner : sectionOf? nodeNames table with
  | none => simp
  | some inner =>
    have value {name : String} (known : name ∈ nodeNames) := value_sectionOf isInner known
    rw [← value (by decide), ← value (by decide), ← value (by decide), ← value (by decide),
      ← value (by decide)]
    simp only [Option.bind_some, Option.bind_eq_bind, Option.bind_eq_some_iff, noToken,
      get_optional_iff]
    simp only [get_eq_some_iff]
    constructor
    · rintro ⟨_, ⟨url, isUrl, rfl⟩, token, isToken, _, ⟨timeout, isTimeout, rfl⟩, _,
        ⟨attempts, isAttempts, rfl⟩, _, ⟨delay, isDelay, rfl⟩, whole⟩
      exact ⟨⟨inner, rfl⟩, url, token, timeout, attempts, delay, isUrl, isToken, isTimeout,
        isAttempts, isDelay, (Option.some.inj whole).symm⟩
    · rintro ⟨-, url, token, timeout, attempts, delay, isUrl, isToken, isTimeout, isAttempts,
        isDelay, rfl⟩
      exact ⟨_, ⟨url, isUrl, rfl⟩, token, isToken, _, ⟨timeout, isTimeout, rfl⟩, _,
        ⟨attempts, isAttempts, rfl⟩, _, ⟨delay, isDelay, rfl⟩, rfl⟩

/-- Where the service listens, as far as it is said. -/
theorem server_iff {server : ServerSettings} (isTable : found.value? "server" = table) :
    found.get? "server" readServer ServerSettings.standard = some server ↔
      (∀ value, table = some value → IsSection value) ∧
        ∃ address origin,
          Means readAddress (table.bind (held? serverNames "listen_address")) address ∧
          Means readFlag (table.bind (held? serverNames "cors")) origin ∧
          server = ⟨address.getD ServerSettings.standard.listenAddress,
            origin.getD ServerSettings.standard.anyOrigin⟩ := by
  have isRead :
      found.get? "server" readServer ServerSettings.standard =
        (sectionOf? serverNames table).bind _ :=
    get_table isTable rfl
  rw [← sectionOf_isSome_iff serverNames, isRead]
  cases isInner : sectionOf? serverNames table with
  | none => simp
  | some inner =>
    have value {name : String} (known : name ∈ serverNames) := value_sectionOf isInner known
    rw [← value (by decide), ← value (by decide)]
    simp only [Option.bind_some, Option.bind_eq_bind, Option.bind_eq_some_iff, get_eq_some_iff]
    constructor
    · rintro ⟨_, ⟨address, isAddress, rfl⟩, _, ⟨origin, isOrigin, rfl⟩, whole⟩
      exact ⟨⟨inner, rfl⟩, address, origin, isAddress, isOrigin, (Option.some.inj whole).symm⟩
    · rintro ⟨-, address, origin, isAddress, isOrigin, rfl⟩
      exact ⟨_, ⟨address, isAddress, rfl⟩, _, ⟨origin, isOrigin, rfl⟩, rfl⟩

/-- What is switched on, as far as it is said. -/
theorem features_iff {features : FeatureSettings} (isTable : found.value? "features" = table) :
    found.get? "features" readFeatures FeatureSettings.standard = some features ↔
      (∀ value, table = some value → IsSection value) ∧
        ∃ tagged safeByDefault,
          Means readFlag (table.bind (held? featureNames "enable_lotus_v2_apis")) tagged ∧
          Means readFlag (table.bind (held? featureNames "force_safe_f3_finality")) safeByDefault ∧
          features = ⟨tagged.getD FeatureSettings.standard.tagged,
            safeByDefault.getD FeatureSettings.standard.safeByDefault⟩ := by
  have isRead : found.get? "features" readFeatures FeatureSettings.standard =
      (sectionOf? featureNames table).bind _ := get_table isTable rfl
  rw [← sectionOf_isSome_iff featureNames, isRead]
  cases isInner : sectionOf? featureNames table with
  | none => simp
  | some inner =>
    have value {name : String} (known : name ∈ featureNames) := value_sectionOf isInner known
    rw [← value (by decide), ← value (by decide)]
    simp only [Option.bind_some, Option.bind_eq_bind, Option.bind_eq_some_iff, get_eq_some_iff]
    constructor
    · rintro ⟨_, ⟨tagged, isTagged, rfl⟩, _, ⟨safe, isSafe, rfl⟩, whole⟩
      exact ⟨⟨inner, rfl⟩, tagged, safe, isTagged, isSafe, (Option.some.inj whole).symm⟩
    · rintro ⟨-, tagged, safe, isTagged, isSafe, rfl⟩
      exact ⟨_, ⟨tagged, isTagged, rfl⟩, _, ⟨safe, isSafe, rfl⟩, rfl⟩

/-- How to log, as far as it is said: each setting that is absent
has its standard value. -/
theorem log_iff {log : LogSettings} (isTable : found.value? "log" = table) :
    found.get? "log" readLog LogSettings.standard = some log ↔
      (∀ value, table = some value → IsSection value) ∧
        ∃ json directory filters,
          Means readFlag (table.bind (held? logNames "json")) json ∧
          Means readString (table.bind (held? logNames "log_dir")) directory ∧
          Means readFilters (table.bind (held? logNames "filters")) filters ∧
          log = ⟨json.getD LogSettings.standard.json, directory,
            filters.getD LogSettings.standard.filters⟩ := by
  have isRead :
      found.get? "log" readLog LogSettings.standard = (sectionOf? logNames table).bind _ :=
    get_table isTable rfl
  have noDirectory : LogSettings.standard.directory = none := rfl
  rw [← sectionOf_isSome_iff logNames, isRead]
  cases isInner : sectionOf? logNames table with
  | none => simp
  | some inner =>
    have value {name : String} (known : name ∈ logNames) := value_sectionOf isInner known
    rw [← value (by decide), ← value (by decide), ← value (by decide)]
    simp only [Option.bind_some, Option.bind_eq_bind, Option.bind_eq_some_iff, noDirectory,
      get_optional_iff]
    simp only [get_eq_some_iff]
    constructor
    · rintro ⟨_, ⟨json, isJson, rfl⟩, directory, isDirectory, _, ⟨filters, isFilters, rfl⟩, whole⟩
      exact ⟨⟨inner, rfl⟩, json, directory, filters, isJson, isDirectory, isFilters,
        (Option.some.inj whole).symm⟩
    · rintro ⟨-, json, directory, filters, isJson, isDirectory, isFilters, rfl⟩
      exact ⟨_, ⟨json, isJson, rfl⟩, directory, isDirectory, _, ⟨filters, isFilters, rfl⟩, rfl⟩

/-- A document reads as a configuration exactly if all that it says can be read, and
    then as that, standard wherever it says nothing. -/
theorem ofDocument_iff {members : List (String × Toml)} {configuration : Configuration} :
    ofDocument? members = some configuration ↔
      ∃ said, States members said ∧ configuration = said.configuration := by
  have isDocument : Section.ofValue? ["node", "server", "features", "log"] (.table members) =
      some ⟨["node", "server", "features", "log"].map fun name => (name, members.lookup name)⟩ :=
        rfl
  have value {name : String} (known : name ∈ ["node", "server", "features", "log"]) :=
    value_ofValue isDocument known
  simp only [ofDocument?, isDocument, Option.bind_eq_bind, Option.bind_some,
    Option.bind_eq_some_iff, node_iff (value (by decide)), server_iff (value (by decide)),
    features_iff (value (by decide)), log_iff (value (by decide))]
  constructor
  · rintro ⟨
      _, ⟨nodeSection, url, token, timeout, attempts, delay,
        isUrl, isToken, isTimeout, isAttempts, isDelay, rfl⟩,
      _, ⟨serverSection, address, origin, isAddress, isOrigin, rfl⟩,
      _, ⟨featureSection, tagged, safe, isTagged, isSafe, rfl⟩,
      _, ⟨logSection, json, directory, filters, isJson, isDirectory, isFilters, rfl⟩, whole⟩
    refine
      ⟨⟨url, token, timeout, attempts, delay, address, origin, tagged, safe, json, directory,
        filters⟩, ⟨?_, isUrl, isToken, isTimeout, isAttempts, isDelay, isAddress, isOrigin,
        isTagged, isSafe, isJson, isDirectory, isFilters⟩, (Option.some.inj whole).symm⟩
    simpa only [List.forall_mem_cons, List.not_mem_nil, false_implies, implies_true, and_true] using
      ⟨nodeSection, serverSection, featureSection, logSection⟩
  · rintro ⟨said, states, rfl⟩
    have sections := states.sections
    simp only [List.forall_mem_cons, List.not_mem_nil, false_implies, implies_true,
      and_true] at sections
    obtain ⟨nodeSection, serverSection, featureSection, logSection⟩ := sections
    exact ⟨
      _, ⟨nodeSection, said.url, said.token, said.timeout, said.connectAttempts,
        said.connectRetryDelay, states.url, states.token, states.timeout, states.connectAttempts,
        states.connectRetryDelay, rfl⟩,
      _, ⟨serverSection, said.listenAddress, said.anyOrigin, states.listenAddress,
        states.anyOrigin, rfl⟩,
      _, ⟨featureSection, said.tagged, said.safeByDefault, states.tagged, states.safeByDefault,
        rfl⟩,
      _, ⟨logSection, said.json, said.directory, said.filters, states.json, states.directory,
        states.filters, rfl⟩,
      rfl⟩

/-! ## What is written -/

open Toml (Chapter Plain PlainTable)

/-- The members of the table of a filter. -/
def LogFilter.members (filter : LogFilter) : List (String × Toml) :=
  [("module", .str filter.module), ("level", .str filter.level.name)]

/-- Filters that are no list of tables: none. -/
def plainFilters : List LogFilter → List (String × Toml)
  | [] => [("filters", .arr [])]
  | _ => []

/-- Filters that are a list of tables: some. -/
def listedFilters : List LogFilter → List (String × List (List (String × Toml)))
  | [] => []
  | filters => [("filters", filters.map LogFilter.members)]

/-- The tables of a configuration. -/
def chapters (configuration : Configuration) : List Chapter :=
  [⟨"node", configuration.node.members, []⟩, ⟨"server", configuration.server.members, []⟩,
   ⟨"features", configuration.features.members, []⟩,
   ⟨"log", [("json", .bool configuration.log.json)] ++
     optionalMember "log_dir" configuration.log.directory ++
      plainFilters configuration.log.filters, listedFilters configuration.log.filters⟩]

/-- A configuration is written table by table, in the order of its sections. -/
theorem document_chapters (configuration : Configuration) :
    configuration.document = configuration.chapters.map Chapter.entry := by
  have filters : [("filters", Toml.arr (configuration.log.filters.map LogFilter.value))] =
      plainFilters configuration.log.filters ++
        Chapter.listed (listedFilters configuration.log.filters) := by
    cases configuration.log.filters with
    | nil => rfl
    | cons first rest =>
      simp only [plainFilters, listedFilters, Chapter.listed, List.map_cons, List.map_nil,
        List.nil_append, List.map_map]
      rfl
  simp [document, chapters, Chapter.entry, LogSettings.members, filters, Chapter.listed]

/-- How the node is reached is written in plain values. -/
theorem NodeSettings.members_plain (settings : NodeSettings) : PlainTable settings.members := by
  have counts : PlainTable [("timeout", countValue settings.timeout),
      ("connect_attempts", countValue settings.connectAttempts),
      ("connect_retry_delay", countValue settings.connectRetryDelay)] :=
    .cons (by decide) (.int _) (by simp) <| .cons (by decide) (.int _) (by simp) <|
      .cons (by decide) (.int _) (by simp) .nil
  rw [NodeSettings.members]
  cases settings.token with
  | none => exact .cons (by decide) (.str _) (by simp [optionalMember]) counts
  | some token =>
    exact .cons (by decide) (.str _) (by simp [optionalMember]) <|
      .cons (by decide) (.str _) (by simp) counts

/-- How to log is written in plain values, apart from filters. -/
theorem log_plain (settings : LogSettings) :
    PlainTable ([("json", .bool settings.json)] ++ optionalMember "log_dir" settings.directory ++
      plainFilters settings.filters) := by
  have filters : PlainTable (plainFilters settings.filters) := by
    cases settings.filters with
    | nil => exact .cons (by decide) .empty (by simp) .nil
    | cons => exact .nil
  have names : ∀ name ∈ (plainFilters settings.filters).map Prod.fst, name = "filters" := by
    cases settings.filters with
    | nil => simp [plainFilters]
    | cons => simp [plainFilters]
  have new (name : String) (other : name ≠ "filters") :
      name ∉ (plainFilters settings.filters).map Prod.fst :=
    fun isName => other (names name isName)
  cases settings.directory with
  | none => exact .cons (by decide) (.bool _) (new "json" (by decide)) filters
  | some directory =>
    refine .cons (by decide) (.bool _) ?_ <|
      .cons (by decide) (.str _) (new "log_dir" (by decide)) filters
    simpa [optionalMember] using new "json" (by decide)

/-- Every table of a configuration is read back, as its names are bare, its values
plain and no name occurs twice. -/
theorem chapters_sound (configuration : Configuration) :
    ∀ chapter ∈ configuration.chapters, chapter.Sound := by
  have plain {name : String} {members : List (String × Toml)} (bare : Toml.Bare name)
      (isPlain : PlainTable members) : Chapter.Sound ⟨name, members, []⟩ :=
    ⟨bare, isPlain, by simp, by simpa using isPlain.distinct⟩
  have server : PlainTable configuration.server.members :=
    .cons (by decide) (.str _) (by simp) <| .cons (by decide) (.bool _) (by simp) .nil
  have features : PlainTable configuration.features.members :=
    .cons (by decide) (.bool _) (by simp) <| .cons (by decide) (.bool _) (by simp) .nil
  have filter (filter : LogFilter) : PlainTable filter.members :=
    .cons (by decide) (.str _) (by simp) <| .cons (by decide) (.str _) (by simp) .nil
  have logPlain := log_plain configuration.log
  simp only [chapters, List.forall_mem_cons, List.not_mem_nil, false_implies,
    implies_true, and_true]
  refine ⟨plain (by decide) configuration.node.members_plain, plain (by decide) server,
    plain (by decide) features, ?_⟩
  revert logPlain
  cases configuration.log.filters with
  | nil =>
    intro logPlain
    exact plain (by decide) logPlain
  | cons first rest =>
    intro logPlain
    refine ⟨(by decide : Toml.Bare "log"), logPlain, ?_, ?_⟩
    · simp only [listedFilters, List.forall_mem_cons, List.not_mem_nil, false_implies,
        implies_true, and_true]
      refine ⟨by decide, by simp, ?_⟩
      intro table isTable
      obtain ⟨one, -, rfl⟩ := List.mem_map.mp isTable
      exact filter one
    · cases configuration.log.directory <;> simp [optionalMember, plainFilters, listedFilters]

/-- The text of a configuration is read as its document, member by member and
in the same order. -/
theorem parse_text (configuration : Configuration) :
    Toml.parse? configuration.text = some configuration.document := by
  have distinct : (configuration.chapters.map Chapter.name).Nodup := by
    simp only [chapters, List.map_cons, List.map_nil]
    decide
  rw [text, document_chapters]
  exact Toml.parse_write configuration.chapters_sound distinct

/-! ## What is read of it -/

/-- A filter is read as it is written, as a table of a module and a level. -/
theorem readFilter_value (filter : LogFilter) : readFilter filter.value = some filter := by
  obtain ⟨module, level⟩ := filter
  cases level <;> rfl

/-- A number is read as it is written, up to the largest of 64 bits. -/
theorem readCount_value (count : UInt64) : readCount (countValue count) = some count := by
  have bounded : 0 ≤ (count.toNat : Int) ∧ (count.toNat : Int) < UInt64.size :=
    ⟨Int.natCast_nonneg _, Int.ofNat_lt.mpr count.toNat_lt⟩
  have value : countValue count = .int count.toNat := rfl
  rw [value, readCount, if_pos bounded, Int.toNat_natCast, UInt64.ofNat_toNat]

/-- What the document of a configuration says: every setting, and nothing of
those that are absent. -/
def everything (configuration : Configuration) : Said where
  url := some configuration.node.url
  token := configuration.node.token
  timeout := some configuration.node.timeout
  connectAttempts := some configuration.node.connectAttempts
  connectRetryDelay := some configuration.node.connectRetryDelay
  listenAddress := some configuration.server.listenAddress
  anyOrigin := some configuration.server.anyOrigin
  tagged := some configuration.features.tagged
  safeByDefault := some configuration.features.safeByDefault
  json := some configuration.log.json
  directory := configuration.log.directory
  filters := some configuration.log.filters

/-- The document of a configuration says everything that the configuration does, so
nothing is left to the standard when it is read again. -/
theorem states_document (configuration : Configuration)
    (real : configuration.server.listenAddress.Real) :
    States configuration.document configuration.everything := by
  have node (name : String) : setting? configuration.document "node" nodeNames name =
      configuration.node.members.lookup name := rfl
  have server (name : String) : setting? configuration.document "server" serverNames name =
      configuration.server.members.lookup name := rfl
  have features (name : String) : setting? configuration.document "features" featureNames name =
      configuration.features.members.lookup name := rfl
  have log (name : String) : setting? configuration.document "log" logNames name =
      configuration.log.members.lookup name := rfl
  have optional (name : String) (value : Option String) (before behind : List (String × Toml))
      (new : before.lookup name = none) (last : behind.lookup name = none) :
      (before ++ optionalMember name value ++ behind).lookup name = value.map .str := by
    cases value <;> simp [optionalMember, List.lookup_append, new, last]
  have count (value : UInt64) : Means readCount (some (countValue value)) (some value) :=
    congrArg some (readCount_value value)
  have text (value : Option String) : Means readString (value.map .str) value := by
    cases value <;> rfl
  have address : readAddress (.str configuration.server.listenAddress.text) =
      some configuration.server.listenAddress := Internet.SocketAddress.parse_text _ real
  have filters : readFilters (.arr (configuration.log.filters.map LogFilter.value)) =
      some configuration.log.filters := Text.mapM_written fun filter _ => readFilter_value filter
  constructor
  case sections =>
    simp only [List.forall_mem_cons, List.not_mem_nil, false_implies, implies_true, and_true]
    refine ⟨?_, ?_, ?_, ?_⟩
    all_goals
      intro value isTable
      obtain rfl := Option.some.inj isTable
      trivial
  case url =>
    rw [node]
    rfl
  case token =>
    rw [node, NodeSettings.members, optional "token" _ _ _ rfl rfl]
    exact text _
  case timeout =>
    rw [node, NodeSettings.members]
    cases configuration.node.token <;> exact count _
  case connectAttempts =>
    rw [node, NodeSettings.members]
    cases configuration.node.token <;> exact count _
  case connectRetryDelay =>
    rw [node, NodeSettings.members]
    cases configuration.node.token <;> exact count _
  case listenAddress =>
    rw [server]
    exact congrArg some address
  case anyOrigin =>
    rw [server]
    rfl
  case tagged =>
    rw [features]
    rfl
  case safeByDefault =>
    rw [features]
    rfl
  case json =>
    rw [log]
    rfl
  case directory =>
    rw [log, LogSettings.members, optional "log_dir" _ _ _ rfl rfl]
    exact text _
  case filters =>
    rw [log, LogSettings.members]
    cases configuration.log.directory <;> exact congrArg some filters

end FilecoinRosetta.Configuration
