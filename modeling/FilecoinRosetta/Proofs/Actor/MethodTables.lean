import FilecoinRosetta.Proofs.Actor.Precedence

/-!
# Tables of methods

An actor is asked for a method in two ways: by a number, where the first of its
methods counts that has it, or by a table of all its methods, where a later entry
replaces an earlier one. Both say the same, as no two methods of an actor share a
number. A table is that of the newest version that any manifest with a known actor
has, in whatever order the manifests were registered.
-/

namespace FilecoinRosetta.Actor

/-! ## Tables -/

/-- The table of some methods by number, where a later one replaces an earlier one
of the same number. -/
def table (methods : List Method) : List (UInt64 × String) :=
  methods.foldl (fun table method => Registry.insertMethod method.number method.name table) []

/-- The numbers of a table ascend, so that each of them has one entry. -/
def Ascending (table : List (UInt64 × String)) : Prop :=
  table.Pairwise fun entry later => entry.1 < later.1

namespace Registry

/-- The first entry of a table is found under its number, and
the others under theirs. -/
theorem lookup_first (number : UInt64) (name : String) (rest : List (UInt64 × String))
    (wanted : UInt64) :
    ((number, name) :: rest).lookup wanted = if wanted =
      number then some name else rest.lookup wanted := by
  by_cases same : wanted = number
  · simp [same]
  · simp [List.lookup_cons, beq_false_of_ne same, same]

/-- An entry changes what is found under its number, and nothing else. -/
theorem lookup_insertMethod (number : UInt64) (name : String) (table : List (UInt64 × String))
    (wanted : UInt64) :
    (insertMethod number name table).lookup wanted = if wanted =
      number then some name else table.lookup wanted := by
  induction table with
  | nil => simp [insertMethod, lookup_first]
  | cons entry rest ih =>
    obtain ⟨other, old⟩ := entry
    by_cases before : number < other
    · simp [insertMethod, before, lookup_first]
    · by_cases replaced : number = other
      · subst replaced
        by_cases same : wanted = number <;> simp [insertMethod, lookup_first, same]
      · simp only [insertMethod, before, replaced, if_false, lookup_first, ih]
        by_cases same : wanted = number
        · simp [same, replaced]
        · simp [same]

/-- What stands in a table afterwards is the entry, or stood there before. -/
theorem mem_insertMethod {number : UInt64} {name : String} {table : List (UInt64 × String)}
    {entry : UInt64 × String} (member : entry ∈ insertMethod number name table) :
    entry = (number, name) ∨ entry ∈ table := by
  induction table with
  | nil => simpa [insertMethod] using member
  | cons first rest ih =>
    obtain ⟨other, old⟩ := first
    simp only [insertMethod] at member
    split at member
    · simpa using member
    · split at member
      · rcases List.mem_cons.mp member with isNew | later
        · exact .inl isNew
        · exact .inr (List.mem_cons_of_mem _ later)
      · rcases List.mem_cons.mp member with isFirst | later
        · exact .inr (isFirst ▸ List.mem_cons_self)
        · exact (ih later).imp_right (List.mem_cons_of_mem _)

/-- An entry is put where its number belongs, so a table in order stays in order.
One with the same number is replaced. -/
theorem insertMethod_ascending (number : UInt64) (name : String) {table : List (UInt64 × String)}
    (ascending : Ascending table) : Ascending (insertMethod number name table) := by
  induction table with
  | nil => exact List.pairwise_singleton _ _
  | cons first rest ih =>
    obtain ⟨other, old⟩ := first
    obtain ⟨below, restAscending⟩ := List.pairwise_cons.mp ascending
    simp only [insertMethod]
    split
    · rename_i before
      refine List.pairwise_cons.mpr ⟨fun entry member => ?_, ascending⟩
      rcases List.mem_cons.mp member with rfl | later
      · exact before
      · exact UInt64.lt_trans before (below entry later)
    · rename_i notBefore
      split
      · rename_i same
        subst same
        exact List.pairwise_cons.mpr ⟨below, restAscending⟩
      · rename_i different
        have behind : other < number :=
          UInt64.lt_of_le_of_ne (UInt64.not_lt.mp notBefore) (Ne.symm different)
        refine List.pairwise_cons.mpr ⟨fun entry member => ?_, ih restAscending⟩
        rcases mem_insertMethod member with rfl | later
        · exact behind
        · exact below entry later

end Registry

/-- The table of methods with distinct numbers finds the first method
of a number. -/
theorem table_lookup {methods : List Method} (distinct : (methods.map Method.number).Nodup)
    (number : UInt64) :
    (table methods).lookup number = (methods.find? (·.number == number)).map Method.name := by
  -- What is in the table already counts only if no method has the number.
  have behind (start : List (UInt64 × String)) :
      (methods.foldl (fun table method => Registry.insertMethod method.number method.name table)
        start).lookup number =
        ((methods.find? (·.number == number)).map Method.name).or (start.lookup number) := by
    induction methods generalizing start with
    | nil => simp
    | cons method rest ih =>
      obtain ⟨fresh, restDistinct⟩ := List.nodup_cons.mp distinct
      rw [List.foldl_cons, ih restDistinct, Registry.lookup_insertMethod]
      by_cases same : number = method.number
      · have none : rest.find? (·.number == number) = none := by
          rw [List.find?_eq_none]
          intro other member isNumber
          exact fresh (List.mem_map.mpr ⟨other, member, (beq_iff_eq.mp isNumber).trans same⟩)
        have first : (method :: rest).find? (·.number == number) = some method :=
          List.find?_cons_of_pos (beq_iff_eq.mpr same.symm)
        rw [none, first, if_pos same]
        rfl
      · have first : (method :: rest).find? (·.number == number) =
          rest.find? (·.number == number) :=
          List.find?_cons_of_neg (by simpa using Ne.symm same)
        rw [first, if_neg same]
  simpa [table] using behind []

/-- The table that is announced for a list of methods lists them by their numbers,
each number once, as the sort that builds it leaves them. -/
theorem table_ascending (methods : List Method) : Ascending (table methods) := by
  have kept (start : List (UInt64 × String)) (ascending : Ascending start) :
      Ascending (methods.foldl
        (fun table method => Registry.insertMethod method.number method.name table) start) := by
    induction methods generalizing start with
    | nil => exact ascending
    | cons method rest ih =>
      exact ih _ (Registry.insertMethod_ascending method.number method.name ascending)
  exact kept [] List.Pairwise.nil

/-! ## Numbers of methods -/

/-- No number was ever given to two methods of an actor, not
even in different versions. -/
theorem methodsOf_numbers_distinct (kind : ActorKind) :
    ((methodsOf kind).map Method.number).Nodup := by
  cases kind <;> decide +kernel

/-- No two methods of one version of an actor have the same number, so a call names
at most one of them. All kinds and all versions are gone through. -/
theorem versionMethods_numbers_distinct (kind : ActorKind) (version : UInt32) :
    (((methodsOf kind).filter (·.existsIn version)).map Method.number).Nodup :=
  (methodsOf_numbers_distinct kind).sublist (List.filter_sublist.map Method.number)

/-- The table of an actor's methods and the search among them find the same. -/
theorem Descriptor.table_methods (descriptor : Descriptor) (number : UInt64) :
    (table descriptor.methods).lookup number = descriptor.methodName? number :=
  table_lookup (versionMethods_numbers_distinct descriptor.kind descriptor.version) number

/-! ## The newest version -/

/-- A version is that of a manifest, released or registered, that
lists a known actor. -/
inductive Listed (registrations : List Registration) : UInt32 → Prop where
  /-- It was released. -/
  | released {bundle : Bundle} (isReleased : bundle ∈ bundles) (lists : bundle.programs ≠ []) :
      Listed registrations bundle.version
  /-- It was registered. -/
  | registered {registration : Registration} {name : String} {code : Cid} {kind : ActorKind}
      (isRegistered : registration ∈ registrations) (lists : (name, code) ∈ registration.names)
      (known : ActorKind.ofName? name = some kind) : Listed registrations registration.version

/-- The highest version of all manifests that list a known actor. -/
structure Newest (registrations : List Registration) (version : UInt32) : Prop where
  /-- Some manifest has it. -/
  listed : Listed registrations version
  /-- None has a higher one. -/
  highest : ∀ other, Listed registrations other → other ≤ version

/-- There is one newest version, and it depends on the registrations but
not on their order. -/
theorem Newest.unique {registrations others : List Registration} {version other : UInt32}
    (newest : Newest registrations version) (otherNewest : Newest others other)
    (same : ∀ registration, registration ∈ registrations ↔ registration ∈ others) :
    version = other := by
  have moved {first second : List Registration}
      (within : ∀ registration ∈ first, registration ∈ second)
      {given : UInt32} (listed : Listed first given) : Listed second given := by
    cases listed with
    | released isReleased lists => exact .released isReleased lists
    | registered isRegistered lists known => exact .registered (within _ isRegistered) lists known
  apply UInt32.le_antisymm
  · exact otherNewest.highest version (moved (fun _ => (same _).mp) newest.listed)
  · exact newest.highest other (moved (fun _ => (same _).mpr) otherNewest.listed)

namespace Registry

/-- The manifests of a registry, the latest first: those that were registered, and
those that were released. -/
theorem manifests_register (registry : Registry) (registrations : List Registration) :
    (registry.register registrations).manifests =
      (registrations.reverse.map fun registration =>
        Manifest.ofNames registration.version registration.names) ++
        registry.manifests := by
  induction registrations generalizing registry with
  | nil => rfl
  | cons first rest ih =>
    have step : registry.register (first :: rest) =
        (registry.withManifest first.version first.names).register rest := rfl
    rw [step, ih]
    simp [manifests, withManifest]

/-- A manifest of names has a version if one of the names is that
of a known actor. -/
theorem ofNames_version_iff {version given : UInt32} {names : List (String × Cid)} :
    (Manifest.ofNames version names).version? = some given ↔
      version = given ∧ ∃ name code kind, (name, code) ∈ names ∧
        ActorKind.ofName? name = some kind := by
  have lists : (Manifest.ofNames version names).codes.isEmpty = false ↔
      ∃ name code kind, (name, code) ∈ names ∧ ActorKind.ofName? name = some kind := by
    rw [← Bool.not_eq_true, List.isEmpty_iff, Manifest.ofNames, List.filterMap_eq_nil_iff]
    simp [Option.eq_none_iff_forall_ne_some]
  rw [← lists]
  cases isEmpty : (Manifest.ofNames version names).codes.isEmpty with
  | true => simp [Manifest.version?, isEmpty]
  | false =>
    have isVersion : (Manifest.ofNames version names).version? = some version := by
      rw [Manifest.version?, isEmpty]
      rfl
    simp [isVersion]

/-- The manifest of a bundle is used for the version of the bundle, and only if the
bundle lists a program at all. -/
theorem bundle_version_iff {bundle : Bundle} {given : UInt32} :
    bundle.manifest.version? = some given ↔ bundle.version = given ∧ bundle.programs ≠ [] := by
  unfold Manifest.version? Bundle.manifest
  cases bundle.programs <;> simp

/-- The versions of the manifests of a registry are those that are listed. -/
theorem version_listed_iff (registrations : List Registration) (version : UInt32) :
    version ∈ (builtin.register registrations).manifests.filterMap Manifest.version? ↔
      Listed registrations version := by
  rw [List.mem_filterMap, manifests_register]
  constructor
  · rintro ⟨manifest, member, isVersion⟩
    rcases List.mem_append.mp member with isRegistered | isReleased
    · obtain ⟨registration, given, rfl⟩ := List.mem_map.mp isRegistered
      obtain ⟨rfl, name, code, kind, lists, known⟩ := ofNames_version_iff.mp isVersion
      exact .registered (List.mem_reverse.mp given) lists known
    · obtain ⟨bundle, isBundle, rfl⟩ := List.mem_map.mp isReleased
      obtain ⟨rfl, lists⟩ := bundle_version_iff.mp isVersion
      exact .released isBundle lists
  · intro listed
    cases listed with
    | @released bundle isReleased lists =>
      refine ⟨bundle.manifest, List.mem_append_right _ ?_, bundle_version_iff.mpr ⟨rfl, lists⟩⟩
      exact List.mem_map_of_mem isReleased
    | @registered registration name code kind isRegistered lists known =>
      refine ⟨_, List.mem_append_left _ ?_,
        ofNames_version_iff.mpr ⟨rfl, name, code, kind, lists, known⟩⟩
      exact List.mem_map_of_mem (List.mem_reverse.mpr isRegistered)

/-- The highest of some versions and a lowest one: no less than any of them, and
one of them itself. -/
theorem highest_exact (versions : List UInt32) (lowest : UInt32) :
    let highest := versions.foldl
      (fun newest version => if newest < version then version else newest) lowest
    (highest = lowest ∨ highest ∈ versions) ∧ lowest ≤ highest ∧
      ∀ version ∈ versions, version ≤ highest := by
  induction versions generalizing lowest with
  | nil => simp
  | cons version rest ih =>
    rw [List.foldl_cons]
    obtain ⟨isOne, above, restAbove⟩ := ih (if lowest < version then version else lowest)
    by_cases higher : lowest < version
    · rw [if_pos higher] at isOne above restAbove ⊢
      refine ⟨.inr (List.mem_cons.mpr isOne), UInt32.le_trans (UInt32.le_of_lt higher) above, ?_⟩
      exact List.forall_mem_cons.mpr ⟨above, restAbove⟩
    · rw [if_neg higher] at isOne above restAbove ⊢
      refine ⟨isOne.imp_right (List.mem_cons_of_mem version), above, ?_⟩
      exact List.forall_mem_cons.mpr ⟨UInt32.le_trans (UInt32.not_lt.mp higher) above, restAbove⟩

/-- The newest version of a registry is the highest one that is listed. Some version
was released, so there is one. -/
theorem newestVersion_newest (registrations : List Registration) :
    Newest registrations (builtin.register registrations).newestVersion := by
  obtain ⟨isOne, -, above⟩ :=
    highest_exact ((builtin.register registrations).manifests.filterMap Manifest.version?) 0
  have listed (version : UInt32) (isListed : Listed registrations version) :
      version ≤ (builtin.register registrations).newestVersion :=
    above version ((version_listed_iff registrations version).mpr isListed)
  refine ⟨?_, listed⟩
  rcases isOne with isLowest | member
  · have released : Listed registrations bundle10.version :=
      .released List.mem_cons_self (by decide)
    have positive := listed _ released
    rw [newestVersion, isLowest] at positive
    exact absurd positive (by decide)
  · exact (version_listed_iff registrations _).mp member

/-- The table of a known actor is that of its methods in the newest version. There
is none under another name. -/
theorem methodTable_eq (registry : Registry) (actor : String) (code : Cid) :
    registry.methodTable? actor = (ActorKind.ofName? actor).map fun kind =>
      table (Descriptor.methods ⟨code, registry.newestVersion, kind⟩) :=
  rfl

/-- Tables of methods agree with the search for a method. Whatever was registered,
the table of an actor's name has under each number what an actor of that kind
finds in the newest version, and the newest version is the highest of all
manifests that list a known actor, in whatever order they were registered. In
every version the table of an actor's methods agrees with the search, as no two of
them have the same number. -/
theorem tables_agree :
    (∀ registrations, Newest registrations (builtin.register registrations).newestVersion) ∧
    (∀ registrations others : List Registration, registrations.Perm others →
      (builtin.register registrations).newestVersion = (builtin.register others).newestVersion) ∧
    (∀ registrations actor code,
      let registry := builtin.register registrations
      match ActorKind.ofName? actor with
      | none => registry.methodTable? actor = none
      | some kind => ∃ table, registry.methodTable? actor = some table ∧ Ascending table ∧
        ∀ number name,
          table.lookup number = some name ↔
            Descriptor.methodName? ⟨code, registry.newestVersion, kind⟩ number = some name) ∧
    ∀ descriptor : Descriptor, (descriptor.methods.map Method.number).Nodup ∧
      Ascending (table descriptor.methods) ∧
      ∀ number, (table descriptor.methods).lookup number = descriptor.methodName? number := by
  refine ⟨newestVersion_newest, ?_, ?_, ?_⟩
  · intro registrations others permuted
    exact (newestVersion_newest registrations).unique (newestVersion_newest others) fun _ =>
      permuted.mem_iff
  · intro registrations actor code registry
    cases known : ActorKind.ofName? actor with
    | none => simp [methodTable_eq registry actor code, known]
    | some kind =>
      refine ⟨_, by rw [methodTable_eq registry actor code, known]; rfl, table_ascending _, ?_⟩
      intro number name
      rw [Descriptor.table_methods]
  · intro descriptor
    refine ⟨versionMethods_numbers_distinct descriptor.kind descriptor.version,
      table_ascending _, ?_⟩
    exact descriptor.table_methods

/-! ## Two registrations in both orders -/

namespace Reordered

/-- A version that lists no known actor. -/
def stranger : Registration := ⟨99, [("brand-new-actor", .default)]⟩

/-- A version that does. -/
def accounts : Registration := ⟨12, [("account", .default)]⟩

end Reordered

/-- The version of unknown actors does not count, and neither does the order. -/
theorem reordered_tables_agree :
    (builtin.register [Reordered.stranger, Reordered.accounts]).newestVersion = 12 ∧
      (builtin.register [Reordered.accounts, Reordered.stranger]).newestVersion = 12 ∧
      ((builtin.register [Reordered.accounts, Reordered.stranger]).methodTable? "account").bind
      (·.lookup 3) = none ∧
      ((builtin.register [Reordered.accounts, Reordered.stranger]).methodTable? "account").bind
        (·.lookup 2643134072) = some "AuthenticateMessageExported" := by
  obtain ⟨-, reordered, tables, -⟩ := tables_agree
  have newest : (builtin.register [Reordered.stranger, Reordered.accounts]).newestVersion =
      12 := by decide
  have otherNewest :
      (builtin.register [Reordered.accounts, Reordered.stranger]).newestVersion = 12 :=
    (reordered _ _ (List.Perm.swap ..)).symm.trans newest
  obtain ⟨table, isTable, -, finds⟩ :=
    tables [Reordered.accounts, Reordered.stranger] "account" .default
  rw [otherNewest] at finds
  refine ⟨newest, otherNewest, ?_, ?_⟩
  · rw [isTable, Option.bind_some, Option.eq_none_iff_forall_ne_some]
    intro name found
    have none : Descriptor.methodName? ⟨.default, 12, .account⟩ 3 = none := by decide
    exact nomatch none.symm.trans ((finds 3 name).mp found)
  · rw [isTable, Option.bind_some, finds]
    decide

end Registry

end FilecoinRosetta.Actor
