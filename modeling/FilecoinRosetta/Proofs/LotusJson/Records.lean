import FilecoinRosetta.Proofs.LotusJson.Faithful

/-!
# Records of faithful members

A layout lists the members of a record, in the order in which they are written and
read, and says what happens to those that may be missing. Where the names differ
every record of a layout reads back, since each member is found under its own name.
So a record type is faithful as soon as it is one of some layout.
-/

namespace FilecoinRosetta.LotusJson

open Json

/-! ## Members by name -/

/-- A record that is written with some members, of which a type knows some names. -/
def written (names : List String) (members : List (String × Json)) (inner : Nat) : Fields :=
  ⟨false, inner, names.map fun name => (name, members.lookup name)⟩

/-- A name that no member has finds none, whatever the others are. -/
theorem lookup_absent {members : List (String × Json)} {name : String}
    (absent : name ∉ members.map Prod.fst) : members.lookup name = none := by
  rw [List.lookup_eq_none_iff]
  rintro ⟨other, value⟩ isMember
  have differs : name ≠ other := by
    rintro rfl
    exact absent (List.mem_map.mpr ⟨_, isMember, rfl⟩)
  simpa using differs

/-- Different names do not repeat any known one, so a record that was written is
not refused for that. -/
theorem repeatsKnown_distinct (names : List String) {members : List (String × Json)}
    (distinct : (members.map Prod.fst).Nodup) : repeatsKnown names members = false := by
  induction members with
  | nil => rfl
  | cons member rest ih =>
    obtain ⟨name, value⟩ := member
    rw [List.map_cons, List.nodup_cons] at distinct
    simp [repeatsKnown, lookup_absent distinct.1, ih distinct.2]

/-- Members of different names are the members of a record, so each is
found under its name. -/
theorem fields_written (names : List String) {members : List (String × Json)} (inner : Nat)
    (distinct : (members.map Prod.fst).Nodup) :
    Json.fields names (inner + 1) (.obj members) = some (written names members inner) := by
  change Json.namedFields names (inner + 1) (.obj members) = _
  rw [namedFields, repeatsKnown_distinct names distinct]
  rfl

/-- The members of a record have one container less around them. -/
theorem fields_found {names : List String} {depth : Nat} {json : Json} {found : Fields}
    (isFound : Json.fields names depth json = some found) : depth = found.depth + 1 := by
  cases depth with
  | zero => cases json <;> cases isFound
  | succ inner =>
    cases json with
    | arr items =>
      rw [Json.fields] at isFound
      split at isFound
      · cases isFound
      · obtain rfl := Option.some.inj isFound
        rfl
    | obj members =>
      change Json.namedFields names (inner + 1) (.obj members) = some found at isFound
      rw [namedFields] at isFound
      split at isFound
      · cases isFound
      · obtain rfl := Option.some.inj isFound
        rfl
    | _ => cases isFound

/-- What is found of a written record are the members that were written. -/
theorem fields_of_written {names : List String} {members : List (String × Json)} {depth : Nat}
    {found : Fields} (distinct : (members.map Prod.fst).Nodup)
    (isFound : Json.fields names depth (.obj members) = some found) :
    ∃ inner, depth = inner + 1 ∧ found = written names members inner := by
  obtain ⟨inner, rfl⟩ : ∃ inner, depth = inner + 1 := ⟨_, fields_found isFound⟩
  rw [fields_written names inner distinct] at isFound
  exact ⟨inner, rfl, (Option.some.inj isFound).symm⟩

/-- A known name has the value of the member of that name. -/
theorem value_written {names : List String} {name : String} (known : name ∈ names)
    (members : List (String × Json)) (inner : Nat) :
    (written names members inner).value? name = members.lookup name := by
  have found : (names.map fun name => (name, members.lookup name)).lookup name =
      some (members.lookup name) := by
    induction names with
    | nil => exact absurd known List.not_mem_nil
    | cons first rest ih =>
      by_cases same : name = first
      · subst same
        simp
      · have differs : (name == first) = false := beq_eq_false_iff_ne.mpr same
        have later := ih ((List.mem_cons.mp known).resolve_left same)
        simpa only [List.map_cons, List.lookup_cons, differs] using later
  rw [Fields.value?, written, found]
  rfl

section

variable {α : Type} {found : Fields} {name : String} {reader : Reader α} {json : Json} {value : α}

/-- A member that must be there reads back if it is there and can be read. -/
theorem required_present (isMember : found.value? name = some json)
    (isRead : reader found.depth json = some value) : found.required name reader = some value := by
  rw [Fields.required, isMember, Option.bind_some]
  exact isRead

/-- A member that need not be there reads back where it is. -/
theorem defaulted_present (default : α) (isMember : found.value? name = some json)
    (isRead : reader found.depth json = some value) :
    found.defaulted name reader default = some value := by
  rw [Fields.defaulted, isMember]
  exact isRead

/-- A member that need not be there has its default where it is missing. -/
theorem defaulted_absent (default : α) (isMissing : found.value? name = none) :
    found.defaulted name reader default = some default := by
  rw [Fields.defaulted, isMissing]

/-- What a member is was read from a value, unless it is the default. -/
theorem defaulted_found {default : α} (isFound : found.defaulted name reader default = some value) :
    value = default ∨ ∃ json, reader found.depth json = some value := by
  rw [Fields.defaulted] at isFound
  split at isFound
  · exact .inr ⟨_, isFound⟩
  · exact .inl (Option.some.inj isFound).symm

/-- What a member that must be there is was read from a value. -/
theorem required_found (isFound : found.required name reader = some value) :
    ∃ json, reader found.depth json = some value := by
  obtain ⟨json, -, isRead⟩ := Option.bind_eq_some_iff.mp isFound
  exact ⟨json, isRead⟩

/-- A member of a written record is read from what was written under its name. -/
theorem required_written {names : List String} {members : List (String × Json)} {inner : Nat}
    (known : name ∈ names) (isMember : members.lookup name = some json)
    (isRead : (written names members inner).required name reader = some value) :
    reader inner json = some value := by
  rw [Fields.required, value_written known, isMember, Option.bind_some] at isRead
  exact isRead

/-- A member of a written record is read from what was written under its name,
whatever its default is. -/
theorem defaulted_written {names : List String} {members : List (String × Json)} {inner : Nat}
    {default : α} (known : name ∈ names) (isMember : members.lookup name = some json)
    (isRead : (written names members inner).defaulted name reader default = some value) :
    reader inner json = some value := by
  rw [Fields.defaulted, value_written known, isMember] at isRead
  exact isRead

end

/-- Members that fit have one container less around them, as the record is one. -/
theorem obj_fits {members : List (String × Json)} {depth : Nat}
    (fits : (Json.obj members).nesting ≤ depth) :
    ∃ inner, depth = inner + 1 ∧ ∀ member ∈ members, member.2.nesting ≤ inner := by
  rw [nesting] at fits
  cases depth with
  | zero => exact absurd fits (Nat.not_succ_le_zero _)
  | succ inner => exact ⟨inner, rfl, membersNesting_le.mp (Nat.le_of_succ_le_succ fits)⟩

/-- Members within a bound have one container more around them. -/
theorem obj_bound {members : List (String × Json)} {inner reserve : Nat}
    (bound : ∀ member ∈ members, member.2.nesting ≤ max inner reserve) :
    (Json.obj members).nesting ≤ max (inner + 1) (around reserve) := by
  rw [nesting]
  exact around_bound (membersNesting_le.mpr bound)

/-! ## Layouts -/

/-- The members of a record in their order. The index is the type
of what they hold. -/
inductive Layout : Type → Type 1 where
  /-- No members are left. -/
  | done : Layout Unit
  /-- A member that must be there. -/
  | required {α κ : Type} [LotusJson α] [Faithful α] (name : String) (rest : Layout κ) :
      Layout (α × κ)
  /-- A member with a default, which takes no containers. It is always written. -/
  | defaulted {α κ : Type} [LotusJson α] [Faithful α] (name : String) (default : α)
      (light : ∀ network, (write network default).nesting = 0) (rest : Layout κ) : Layout (α × κ)
  /-- A member that is not written where there is no value. -/
  | omitted {α κ : Type} [LotusJson α] [Faithful α] [NeverNull α] (name : String)
      (rest : Layout κ) :
      Layout (Option α × κ)

namespace Layout

/-- The names of the members. -/
def names : {κ : Type} → Layout κ → List String
  | _, done => []
  | _, required name rest => name :: rest.names
  | _, defaulted name _ _ rest => name :: rest.names
  | _, omitted name rest => name :: rest.names

/-- The members as they are written. -/
def members (network : Network) : {κ : Type} → Layout κ → κ → List (String × Json)
  | _, done, _ => []
  | _, required name rest, (value, values) =>
    (name, write network value) :: rest.members network values
  | _, defaulted name _ _ rest, (value, values) =>
      (name, write network value) :: rest.members network values
  | _, omitted _ rest, (none, values) => rest.members network values
  | _, omitted name rest, (some value, values) =>
      (name, write network value) :: rest.members network values

/-- Read the members one after the other and make something of what they hold. -/
def read {ρ : Type} (found : Fields) : {κ : Type} → Layout κ → (κ → Option ρ) → Option ρ
  | _, done, make => make ()
  | _, required name rest, make =>
      (found.required name LotusJson.read).bind fun value => rest.read found fun values =>
        make (value, values)
  | _, defaulted name default _ rest, make =>
      (found.defaulted name LotusJson.read default).bind fun value =>
        rest.read found fun values => make (value, values)
  | _, omitted name rest, make =>
      (found.defaulted name LotusJson.read none).bind fun value =>
        rest.read found fun values => make (value, values)

/-- The number of containers that a member may take although fewer were read. -/
def reserve : {κ : Type} → Layout κ → Nat
  | _, done => 0
  | _, @required α _ _ _ _ rest => max (Faithful.reserve α) rest.reserve
  | _, @defaulted α _ _ _ _ _ _ rest => max (Faithful.reserve α) rest.reserve
  | _, @omitted α _ _ _ _ _ rest => max (Faithful.reserve α) rest.reserve

/-- The members of a record have plain values, by induction on its layout. -/
theorem members_plain (network : Network) : {κ : Type} → (layout : Layout κ) → (values : κ) →
    ∀ member ∈ layout.members network values, member.2.Plain
  | _, done, _ => nofun
  | _, required _ rest, (value, values) =>
    List.forall_mem_cons.mpr ⟨Faithful.plain network value, rest.members_plain network values⟩
  | _, defaulted _ _ _ rest, (value, values) =>
    List.forall_mem_cons.mpr ⟨Faithful.plain network value, rest.members_plain network values⟩
  | _, omitted _ rest, (none, values) => rest.members_plain network values
  | _, omitted _ rest, (some value, values) =>
    List.forall_mem_cons.mpr ⟨Faithful.plain network value, rest.members_plain network values⟩

/-- What is written is some of the members in their order. -/
theorem members_sublist (network : Network) : {κ : Type} → (layout : Layout κ) → (values : κ) →
    ((layout.members network values).map Prod.fst).Sublist layout.names
  | _, done, _ => .slnil
  | _, required _ rest, (_, values) => (rest.members_sublist network values).cons_cons _
  | _, defaulted _ _ _ rest, (_, values) => (rest.members_sublist network values).cons_cons _
  | _, omitted _ rest, (none, values) => (rest.members_sublist network values).cons _
  | _, omitted _ rest, (some _, values) => (rest.members_sublist network values).cons_cons _

/-- Each of some names has the value in a record that it has among some members. -/
def Answers (found : Fields) (members : List (String × Json)) (names : List String) : Prop :=
  ∀ name ∈ names, found.value? name = members.lookup name

/-- Behind a member of another name the answers are those of the rest. -/
theorem Answers.rest {found : Fields} {members : List (String × Json)} {names : List String}
    {name : String} {json : Json}
    (answers : Answers found ((name, json) :: members) (name :: names)) (fresh : name ∉ names) :
    Answers found members names := by
  intro other isOther
  have differs : (other == name) = false := by
    rw [beq_eq_false_iff_ne]
    rintro rfl
    exact fresh isOther
  rw [answers other (List.mem_cons_of_mem _ isOther), List.lookup_cons, differs]

/-- The first member answers under its name, and the others under
theirs as before. -/
theorem Answers.first {found : Fields} {members : List (String × Json)} {names : List String}
    {name : String} {json : Json}
    (answers : Answers found ((name, json) :: members) (name :: names)) :
    found.value? name = some json := by
  rw [answers name List.mem_cons_self, List.lookup_cons_self]

/-- Where a record answers with the members of some values, these are read. -/
theorem read_answered {ρ : Type} (network : Network) (found : Fields) :
    {κ : Type} → (layout : Layout κ) →
    (values : κ) → layout.names.Nodup → Answers found (layout.members network values) layout.names →
    (∀ member ∈ layout.members network values, member.2.nesting ≤ found.depth) →
    (make : κ → Option ρ) → layout.read found make = make values
  | _, done, (), _, _, _, _ => rfl
  | _, required name rest, (value, values), distinct, answers, fits, make => by
    obtain ⟨fresh, distinct⟩ := List.nodup_cons.mp distinct
    obtain ⟨fitsFirst, fitsRest⟩ := List.forall_mem_cons.mp fits
    have isFirst := required_present answers.first
        (Faithful.reads network value found.depth fitsFirst)
    rw [read, isFirst]
    exact read_answered network found rest values distinct (answers.rest fresh) fitsRest _
  | _, defaulted name default _ rest, (value, values), distinct, answers, fits, make => by
    obtain ⟨fresh, distinct⟩ := List.nodup_cons.mp distinct
    obtain ⟨fitsFirst, fitsRest⟩ := List.forall_mem_cons.mp fits
    have isFirst := defaulted_present default answers.first
      (Faithful.reads network value found.depth fitsFirst)
    rw [read, isFirst]
    exact read_answered network found rest values distinct (answers.rest fresh) fitsRest _
  | _, @omitted α _ _ _ _ name rest, (none, values), distinct, answers, fits, make => by
    obtain ⟨fresh, distinct⟩ := List.nodup_cons.mp distinct
    -- No later member answers in place of the missing one, since none has its name.
    have unwritten : name ∉ (rest.members network values).map Prod.fst := fun isName =>
      fresh ((rest.members_sublist network values).subset isName)
    have isMissing := (answers name List.mem_cons_self).trans (lookup_absent unwritten)
    have isFirst : found.defaulted name LotusJson.read (none : Option α) = some none :=
      defaulted_absent none isMissing
    rw [read, isFirst]
    exact read_answered network found rest values distinct
      (fun other isOther => answers other (List.mem_cons_of_mem _ isOther)) fits _
  | _, omitted name rest, (some value, values), distinct, answers, fits, make => by
    obtain ⟨fresh, distinct⟩ := List.nodup_cons.mp distinct
    obtain ⟨fitsFirst, fitsRest⟩ := List.forall_mem_cons.mp fits
    have isFirst := defaulted_present none answers.first
      (Faithful.reads network (some value) found.depth fitsFirst)
    rw [read, isFirst]
    exact read_answered network found rest values distinct (answers.rest fresh) fitsRest _

/-- A member in front of others is within what allows for both. -/
theorem bound_cons {name : String} {json : Json} {members : List (String × Json)}
    {depth first later : Nat} (isFirst : json.nesting ≤ max depth first)
    (isLater : ∀ member ∈ members, member.2.nesting ≤ max depth later) :
    ∀ member ∈ (name, json) :: members, member.2.nesting ≤ max depth (max first later) := by
  refine List.forall_mem_cons.mpr ⟨?_, ?_⟩
  · exact Nat.le_trans isFirst (max_le_max (Nat.le_refl _) (Nat.le_max_left _ _))
  · intro member isMember
    exact Nat.le_trans (isLater member isMember) (max_le_max (Nat.le_refl _) (Nat.le_max_right _ _))

/-- What is read of a record is made of values which are within the
allowance of the layout. -/
theorem read_frugal {ρ : Type} (network : Network) (found : Fields) {result : ρ} : {κ : Type} →
    (layout : Layout κ) → (make : κ → Option ρ) → layout.read found make = some result →
    ∃ values, make values = some result ∧
      ∀ member ∈ layout.members network values, member.2.nesting ≤ max found.depth layout.reserve
  | _, done, make, isRead => ⟨(), isRead, nofun⟩
  | _, required name rest, make, isRead => by
    obtain ⟨value, isFirst, isRead⟩ := Option.bind_eq_some_iff.mp isRead
    obtain ⟨values, isMade, bound⟩ := rest.read_frugal network found _ isRead
    obtain ⟨json, isFound⟩ := required_found isFirst
    exact ⟨(value, values), isMade, bound_cons (Faithful.frugal network _ json value isFound) bound⟩
  | _, defaulted name default light rest, make, isRead => by
    obtain ⟨value, isFirst, isRead⟩ := Option.bind_eq_some_iff.mp isRead
    obtain ⟨values, isMade, bound⟩ := rest.read_frugal network found _ isRead
    refine ⟨(value, values), isMade, bound_cons ?_ bound⟩
    rcases defaulted_found isFirst with rfl | ⟨json, isFound⟩
    · rw [light network]
      exact Nat.zero_le _
    · exact Faithful.frugal network _ json value isFound
  | _, @omitted α _ _ _ _ name rest, make, isRead => by
    obtain ⟨value, isFirst, isRead⟩ := Option.bind_eq_some_iff.mp isRead
    obtain ⟨values, isMade, bound⟩ := rest.read_frugal network found _ isRead
    refine ⟨(value, values), isMade, ?_⟩
    cases value with
    | none =>
      intro member isMember
      exact Nat.le_trans (bound member isMember) (max_le_max (Nat.le_refl _) (Nat.le_max_right _ _))
    | some value =>
      obtain ⟨json, isFound⟩ := (defaulted_found isFirst).resolve_left nofun
      exact bound_cons (Faithful.frugal network _ json (some value) isFound) bound

/-- The record of some values reads back, by induction on its layout: each field
finds its own member. -/
theorem fields_read {ρ : Type} (network : Network) {κ : Type} (layout : Layout κ)
    (distinct : layout.names.Nodup) (values : κ) (make : κ → Option ρ) {depth : Nat}
    (fits : (Json.obj (layout.members network values)).nesting ≤ depth) :
    ((Json.fields layout.names depth (.obj (layout.members network values))).bind fun found =>
      layout.read found make) = make values := by
  obtain ⟨inner, rfl, fit⟩ := obj_fits fits
  have different := distinct.sublist (layout.members_sublist network values)
  rw [fields_written layout.names inner different, Option.bind_some]
  exact layout.read_answered network _ values distinct
    (fun name known => value_written known _ inner) fit make

end Layout

/-- A type of records with a layout. -/
@[reducible]
def Faithful.record {ρ κ : Type} [LotusJson ρ] (layout : Layout κ) (parts : κ ≃ ρ)
    (distinct : layout.names.Nodup)
    (writes : ∀ network record, write network record =
      .obj (layout.members network (parts.symm record)))
    (reads : ∀ depth json, read depth json = (Json.fields layout.names depth json).bind fun found =>
      layout.read found fun values => some (parts values)) :
    Faithful ρ where
  reserve := around layout.reserve
  plain network record := by
    rw [writes]
    exact plainMembers_iff.mpr (layout.members_plain network (parts.symm record))
  reads network record depth fits := by
    rw [writes] at fits
    rw [writes, reads, layout.fields_read network distinct _ _ fits, Equiv.apply_symm_apply]
  frugal network depth json record found := by
    rw [reads] at found
    obtain ⟨fields, isFound, found⟩ := Option.bind_eq_some_iff.mp found
    obtain ⟨values, isMade, bound⟩ := layout.read_frugal network fields _ found
    obtain rfl := Option.some.inj isMade
    rw [writes, Equiv.symm_apply_apply, fields_found isFound]
    exact obj_bound bound

end FilecoinRosetta.LotusJson
