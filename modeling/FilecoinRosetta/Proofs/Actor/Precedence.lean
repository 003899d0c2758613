import FilecoinRosetta.Actor.Registry
import Mathlib.Data.List.Nodup

/-!
# Precedence of manifests

A registry is asked from its latest manifest to its oldest, and within a manifest
from the last entry to the first. So a code means what the latest registration makes
of it that lists it under the name of a known actor; where there is none, what it
was released as; and where it was never released, what it spells out.
-/

namespace FilecoinRosetta

/-- The first hit in a list that is gone through from its end is the last one of the
list: nothing is found behind it. -/
theorem reverse_findSome_eq_some {α β : Type} (find : α → Option β) (items : List α) (value : β) :
    items.reverse.findSome? find = some value ↔
      ∃ before item after, items = before ++ item :: after ∧ find item = some value ∧
        ∀ later ∈ after, find later = none := by
  rw [List.findSome?_eq_some_iff]
  constructor
  · rintro ⟨before, item, after, split, found, none⟩
    refine ⟨after.reverse, item, before.reverse, ?_, found, by simpa using none⟩
    simpa using congrArg List.reverse split
  · rintro ⟨before, item, after, rfl, found, none⟩
    exact ⟨after.reverse, item, before.reverse, by simp, found, by simpa using none⟩

namespace Actor

/-! ## One list of names -/

/-- What an entry of a list makes of a code. -/
def given? (version : UInt32) (code : Cid) (entry : String × Cid) : Option Descriptor :=
  if entry.2 = code then (ActorKind.ofName? entry.1).map fun kind => ⟨code, version, kind⟩ else none

/-- No entry gives the code the name of a known actor. -/
def Omits (names : List (String × Cid)) (code : Cid) : Prop :=
  ∀ name, (name, code) ∈ names → ActorKind.ofName? name = none

/-- The last entry that gives the code the name of a known actor names this kind. -/
def Lists (names : List (String × Cid)) (code : Cid) (kind : ActorKind) : Prop :=
  ∃ before name after, names = before ++ (name, code) :: after ∧
    ActorKind.ofName? name = some kind ∧ Omits after code

/-- An entry of a manifest gives a descriptor for a code exactly if it is for that
code and its name is that of a kind of actors. The descriptor says just that. -/
theorem given_eq_some (version : UInt32) (code : Cid) (entry : String × Cid)
    (descriptor : Descriptor) :
    given? version code entry = some descriptor ↔
      ∃ kind, entry.2 = code ∧ ActorKind.ofName? entry.1 = some kind ∧
        descriptor = ⟨code, version, kind⟩ := by
  unfold given?
  split
  case isTrue same =>
    rw [Option.map_eq_some_iff]
    simp [same, eq_comm]
  case isFalse other => simp [other]

/-- An entry gives nothing for a code exactly if it is for another code
or names no kind. -/
theorem given_eq_none (version : UInt32) (code : Cid) (entry : String × Cid) :
    given? version code entry = none ↔ (entry.2 = code → ActorKind.ofName? entry.1 = none) := by
  unfold given?
  split
  case isTrue same => simp [same]
  case isFalse other => simp [other]

/-- A list of names omits a code exactly if none of its entries gives a descriptor
for it, whatever version they are read for. -/
theorem omits_iff (version : UInt32) (names : List (String × Cid)) (code : Cid) :
    Omits names code ↔ ∀ entry ∈ names, given? version code entry = none := by
  simp only [given_eq_none]
  constructor
  · rintro omits ⟨name, listed⟩ member rfl
    exact omits name member
  · intro none name member
    exact none _ member rfl

namespace Manifest

/-- A manifest of names is asked from its last entry to its first. -/
theorem ofNames_resolve (version : UInt32) (names : List (String × Cid)) (code : Cid) :
    (ofNames version names).resolve? code = names.reverse.findSome? (given? version code) := by
  rw [resolve?, ofNames, ← List.filterMap_reverse]
  induction names.reverse with
  | nil => rfl
  | cons entry rest ih =>
    obtain ⟨name, listed⟩ := entry
    rw [List.findSome?_cons, ← ih]
    by_cases same : listed = code
    · cases known : ActorKind.ofName? name with
      | none => simp [given?, known]
      | some kind => simp [given?, known, same]
    · have other : (code == listed) = false := beq_false_of_ne (Ne.symm same)
      cases known : ActorKind.ofName? name with
      | none => simp [given?, known]
      | some kind => simp [given?, known, same, List.lookup_cons, other]

/-- A manifest of names finds a descriptor for a code exactly if its list names a
kind for the code. Where several entries do, the last one counts, and the descriptor
is of the version that was given.
-/
theorem ofNames_resolve_some (version : UInt32) (names : List (String × Cid)) (code : Cid)
    (descriptor : Descriptor) :
    (ofNames version names).resolve? code = some descriptor ↔
      ∃ kind, Lists names code kind ∧ descriptor = ⟨code, version, kind⟩ := by
  rw [ofNames_resolve, reverse_findSome_eq_some]
  constructor
  · rintro ⟨before, ⟨name, listed⟩, after, split, found, none⟩
    obtain ⟨kind, rfl, known, rfl⟩ := (given_eq_some ..).mp found
    exact ⟨kind, ⟨before, name, after, split, known, (omits_iff version ..).mpr none⟩, rfl⟩
  · rintro ⟨kind, ⟨before, name, after, split, known, omits⟩, rfl⟩
    exact ⟨before, (name, code), after, split, (given_eq_some ..).mpr ⟨kind, rfl, known, rfl⟩,
      (omits_iff version ..).mp omits⟩

/-- A manifest of names finds nothing for a code exactly if its
list omits the code. -/
theorem ofNames_resolve_none (version : UInt32) (names : List (String × Cid)) (code : Cid) :
    (ofNames version names).resolve? code = none ↔ Omits names code := by
  rw [ofNames_resolve, List.findSome?_eq_none_iff, omits_iff version]
  simp

/-- An entry under an unknown name is as good as none: the list without
it finds the same. -/
theorem ofNames_unknown (version : UInt32) (before after : List (String × Cid)) {name : String}
    (code : Cid) (unknown : ActorKind.ofName? name = none) :
    ofNames version (before ++ (name, code) :: after) = ofNames version (before ++ after) := by
  simp [ofNames, unknown]

/-- What a manifest finds for a code is a descriptor of that code. -/
theorem resolve_code {manifest : Manifest} {code : Cid} {descriptor : Descriptor}
    (resolved : manifest.resolve? code = some descriptor) : descriptor.code = code := by
  rw [resolve?, Option.map_eq_some_iff] at resolved
  obtain ⟨kind, -, rfl⟩ := resolved
  rfl

end Manifest

/-! ## The released bundles -/

/-- Every actor that was released. -/
def releasedActors : List Descriptor :=
  bundles.flatMap fun bundle => bundle.programs.map fun (kind, digest) =>
    ⟨programCode digest, bundle.version, kind⟩

/-- No two of them have the same code, so the order in which they are
asked does not matter. -/
theorem released_codes_distinct : (releasedActors.map Descriptor.code).Nodup := by
  decide +kernel

/-- What one of the released manifests finds for a code is the descriptor of a
released actor with that code. -/
theorem released_resolve_member {code : Cid} {descriptor : Descriptor}
    (resolved : released.findSome? (·.resolve? code) = some descriptor) :
    descriptor ∈ releasedActors ∧ descriptor.code = code := by
  obtain ⟨manifest, member, found⟩ := List.exists_of_findSome?_eq_some resolved
  obtain ⟨bundle, isBundle, rfl⟩ := List.mem_map.mp member
  refine ⟨?_, Manifest.resolve_code found⟩
  rw [Manifest.resolve?, Option.map_eq_some_iff] at found
  obtain ⟨kind, listed, rfl⟩ := found
  obtain ⟨before, after, split, -⟩ := List.lookup_eq_some_iff.mp listed
  have entry : (code, kind) ∈ bundle.manifest.codes := by
    rw [← List.mem_reverse, split]
    simp
  obtain ⟨program, isProgram, same⟩ := List.mem_map.mp entry
  cases same
  exact List.mem_flatMap.mpr ⟨bundle, isBundle, List.mem_map_of_mem isProgram⟩

/-- Every released actor is found by its code, as no other release has the same code
for another actor. All of them are gone through. -/
theorem released_resolve {descriptor : Descriptor} (member : descriptor ∈ releasedActors) :
    (released.findSome? (·.resolve? descriptor.code)).isSome := by
  obtain ⟨bundle, isBundle, isActor⟩ := List.mem_flatMap.mp member
  obtain ⟨program, isProgram, rfl⟩ := List.mem_map.mp isActor
  rw [List.findSome?_isSome_iff]
  refine ⟨bundle.manifest, List.mem_map_of_mem isBundle, ?_⟩
  rw [Manifest.resolve?, Option.isSome_map, List.lookup_isSome_iff]
  refine ⟨(programCode program.2, program.1), ?_, beq_self_eq_true _⟩
  rw [List.mem_reverse]
  exact List.mem_map.mpr ⟨program, isProgram, rfl⟩

/-- The released manifests find a descriptor for a code exactly if it is that of a
released actor with the code. No code belongs to two of them, so the order of the
releases does not matter here. -/
theorem released_resolve_iff (code : Cid) (descriptor : Descriptor) :
    released.findSome? (·.resolve? code) = some descriptor ↔
      descriptor ∈ releasedActors ∧ descriptor.code = code := by
  constructor
  · exact released_resolve_member
  · rintro ⟨member, rfl⟩
    obtain ⟨found, isFound⟩ := Option.isSome_iff_exists.mp (released_resolve member)
    obtain ⟨isReleased, same⟩ := released_resolve_member isFound
    rw [isFound, List.inj_on_of_nodup_map released_codes_distinct isReleased member same]

/-- The released manifests find nothing for a code exactly if no
released actor has it. -/
theorem released_resolve_none (code : Cid) :
    released.findSome? (·.resolve? code) = none ↔
      ∀ descriptor ∈ releasedActors, descriptor.code ≠ code := by
  rw [← Option.not_isSome_iff_eq_none, Option.isSome_iff_exists]
  simp [released_resolve_iff]

/-- A code that spells out an actor stands for it. -/
theorem resolveLegacy_code {code : Cid} {descriptor : Descriptor}
    (spelled : resolveLegacy? code = some descriptor) :
    descriptor.code = code := by
  unfold resolveLegacy? at spelled
  split at spelled
  · cases spelled
  · obtain ⟨path, -, read⟩ := Option.bind_eq_some_iff.mp spelled
    split at read
    · split at read
      · cases read
      · obtain ⟨number, -, named⟩ := Option.bind_eq_some_iff.mp read
        obtain ⟨kind, -, same⟩ := Option.bind_eq_some_iff.mp named
        cases same
        rfl
    · cases read

/-! ## Registrations -/

/-- A registration of the codes of a bundle. -/
structure Registration where
  /-- The version of the actors. -/
  version : UInt32
  /-- The names with their codes. -/
  names : List (String × Cid)

/-- What a code means after some registrations, the latest of which
stands at the end. -/
inductive Means (registrations : List Registration) (code : Cid) : Descriptor → Prop where
  /-- It is listed, and not by any later registration. -/
  | registered {before : List Registration} {registration : Registration}
      {after : List Registration} {kind : ActorKind}
      (split : registrations = before ++ registration :: after)
      (listed : Lists registration.names code kind)
      (latest : ∀ later ∈ after, Omits later.names code) :
      Means registrations code ⟨code, registration.version, kind⟩
  /-- It is not listed, but was released. -/
  | released {descriptor : Descriptor}
      (unlisted : ∀ registration ∈ registrations, Omits registration.names code)
      (member : descriptor ∈ releasedActors) (same : descriptor.code = code) :
      Means registrations code descriptor
  /-- It is neither listed nor released, but spells out what it stands for. -/
  | legacy {descriptor : Descriptor}
      (unlisted : ∀ registration ∈ registrations, Omits registration.names code)
      (unreleased : ∀ other ∈ releasedActors, other.code ≠ code)
      (spelled : resolveLegacy? code = some descriptor) :
      Means registrations code descriptor

namespace Registry

/-- Make some registrations, one after the other. -/
def register (registry : Registry) (registrations : List Registration) : Registry :=
  registrations.foldl
    (fun registry registration => registry.withManifest registration.version registration.names)
      registry

/-- A registry looks a code up in its manifests in their order, and among the legacy
codes if none of them lists it. -/
theorem resolve_eq (registry : Registry) (code : Cid) :
    registry.resolve? code = (registry.manifests.findSome? (·.resolve? code)).or
      (resolveLegacy? code) := by
  unfold resolve?
  cases registry.manifests.findSome? (·.resolve? code) <;> rfl

/-- One registration is asked ahead of everything else. The others are asked as
before if it omits the code. -/
theorem resolve_withManifest (registry : Registry) (version : UInt32)
    (names : List (String × Cid)) (code : Cid) :
    (registry.withManifest version names).resolve? code =
      ((Manifest.ofNames version names).resolve? code).or (registry.resolve? code) := by
  simp only [resolve_eq, manifests, withManifest, List.cons_append, List.findSome?_cons]
  cases (Manifest.ofNames version names).resolve? code <;> simp

/-- Registrations are asked from the last one to the first, and then
what was known before. -/
theorem resolve_register (registry : Registry) (registrations : List Registration) (code : Cid) :
    (registry.register registrations).resolve? code =
      (registrations.reverse.findSome? fun registration =>
        (Manifest.ofNames registration.version registration.names).resolve? code).or
          (registry.resolve? code) := by
  induction registrations generalizing registry with
  | nil => rfl
  | cons first rest ih =>
    have step : registry.register (first :: rest) =
        (registry.withManifest first.version first.names).register rest := rfl
    rw [step, ih, resolve_withManifest, List.reverse_cons, List.findSome?_append, Option.or_assoc,
      List.findSome?_singleton]

/-- A registry without manifests of its own looks a code up among the released
actors, then among the legacy codes. -/
theorem resolve_builtin (code : Cid) :
    builtin.resolve? code = (released.findSome? (·.resolve? code)).or (resolveLegacy? code) :=
  resolve_eq builtin code

/-- A registry without manifests of its own finds a released actor, and a legacy
actor only under codes that no released actor has. -/
theorem resolve_builtin_some (code : Cid) (descriptor : Descriptor) :
    builtin.resolve? code = some descriptor ↔
      (descriptor ∈ releasedActors ∧ descriptor.code = code) ∨
        (∀ other ∈ releasedActors, other.code ≠ code) ∧ resolveLegacy? code = some descriptor := by
  rw [resolve_builtin, Option.or_eq_some_iff, released_resolve_iff, released_resolve_none]

/-- A registry resolves a code to what it means: registrations first, the latest of
them ahead, then the released actors, then the legacy codes. -/
theorem resolve_means (registrations : List Registration) (code : Cid) (descriptor : Descriptor) :
    (builtin.register registrations).resolve? code = some descriptor ↔
      Means registrations code descriptor := by
  have unlisted : (registrations.reverse.findSome? fun registration =>
      (Manifest.ofNames registration.version registration.names).resolve? code) = none ↔
        ∀ registration ∈ registrations, Omits registration.names code := by
    simp [Manifest.ofNames_resolve_none]
  rw [resolve_register, Option.or_eq_some_iff, unlisted, reverse_findSome_eq_some,
    resolve_builtin_some]
  constructor
  · rintro (⟨before, registration, after, split, found, latest⟩ |
      ⟨omits, ⟨member, same⟩ | ⟨unreleased, spelled⟩⟩)
    · obtain ⟨kind, listed, rfl⟩ := (Manifest.ofNames_resolve_some ..).mp found
      exact .registered split listed fun later isLater =>
        (Manifest.ofNames_resolve_none ..).mp (latest later isLater)
    · exact .released omits member same
    · exact .legacy omits unreleased spelled
  · intro means
    cases means with
    | @registered before registration after kind split listed latest =>
      exact .inl ⟨before, registration, after, split,
        (Manifest.ofNames_resolve_some ..).mpr ⟨kind, listed, rfl⟩, fun later isLater =>
          (Manifest.ofNames_resolve_none ..).mpr (latest later isLater)⟩
    | released omits member same => exact .inr ⟨omits, .inl ⟨member, same⟩⟩
    | legacy omits unreleased spelled => exact .inr ⟨omits, .inr ⟨unreleased, spelled⟩⟩

/-- A registration changes nothing about the codes that it does not list under the
name of a known actor. -/
theorem resolve_omitted (registry : Registry) (version : UInt32) {names : List (String × Cid)}
    {code : Cid} (omits : Omits names code) :
    (registry.withManifest version names).resolve? code = registry.resolve? code := by
  rw [resolve_withManifest, (Manifest.ofNames_resolve_none ..).mpr omits, Option.none_or]

/-- What a registry finds for a code is a descriptor of that code, from whichever of
its sources it comes. -/
theorem resolve_code {registry : Registry} {code : Cid} {descriptor : Descriptor}
    (resolved : registry.resolve? code = some descriptor) : descriptor.code = code := by
  rw [resolve_eq, Option.or_eq_some_iff] at resolved
  rcases resolved with found | ⟨-, spelled⟩
  · obtain ⟨manifest, -, isFound⟩ := List.exists_of_findSome?_eq_some found
    exact Manifest.resolve_code isFound
  · exact resolveLegacy_code spelled

/-- A code means what the latest registration makes of it that lists it under a
known name, else what it was released as, else what it spells out, and what it means
carries the code. So no registration changes what it does not list, and an entry
under an unknown name is as good as none. -/
theorem resolve_precedence :
    (∀ registrations code descriptor,
      (builtin.register registrations).resolve? code = some descriptor ↔
        Means registrations code descriptor) ∧
    (∀ (registry : Registry) (version : UInt32) (names : List (String × Cid)) (code : Cid),
      Omits names code →
      (registry.withManifest version names).resolve? code = registry.resolve? code) ∧
    (∀ (registry : Registry) (version : UInt32) (before after : List (String × Cid))
        (name : String) (code : Cid), ActorKind.ofName? name = none →
        registry.withManifest version (before ++ (name, code) :: after) =
          registry.withManifest version (before ++ after)) ∧
    ∀ (registry : Registry) (code : Cid) (descriptor : Descriptor),
      registry.resolve? code = some descriptor → descriptor.code = code := by
  refine ⟨resolve_means, fun registry version _ _ => resolve_omitted registry version, ?_,
    fun _ _ _ => resolve_code⟩
  intro registry version before after name code unknown
  rw [withManifest, withManifest, Manifest.ofNames_unknown version before after code unknown]

/-! ## An account of version 7 that is listed again -/

namespace Relisted

/-- The code that spells out `fil/7/account`. -/
def code : Cid :=
  .v1 Cid.rawCodec ⟨Cid.identityCode,
    [102, 105, 108, 47, 55, 47, 97, 99, 99, 111, 117, 110, 116], by decide⟩

/-- It is listed under two known names and an unknown one. -/
def listing : Registration :=
    ⟨16, [("account", code), ("multisig", code), ("brand-new-actor", code)]⟩

/-- It is listed under the unknown name alone. -/
def stranger : Registration := ⟨17, [("brand-new-actor", code)]⟩

end Relisted

/-- The code stands for what it spells out, until it is listed under a known name:
then the last one counts, whatever an unknown name is given to later. -/
theorem relisted_precedence :
    builtin.resolve? Relisted.code = some ⟨Relisted.code, 7, .account⟩ ∧
      (builtin.register [Relisted.listing, Relisted.stranger]).resolve? Relisted.code =
        some ⟨Relisted.code, 16, .multisig⟩ ∧
      (builtin.withManifest 17 Relisted.stranger.names).resolve? Relisted.code =
        builtin.resolve? Relisted.code ∧
      builtin.withManifest 16 Relisted.listing.names =
        builtin.withManifest 16 [("account", Relisted.code), ("multisig", Relisted.code)] ∧
      (⟨Relisted.code, 7, .account⟩ : Descriptor).code = Relisted.code := by
  obtain ⟨means, omitted, unknown, carried⟩ := resolve_precedence
  have isUnknown : ActorKind.ofName? "brand-new-actor" = none := by decide
  have omits : Omits Relisted.stranger.names Relisted.code := by
    intro name member
    cases List.mem_singleton.mp member
    exact isUnknown
  have spelled : builtin.resolve? Relisted.code = some ⟨Relisted.code, 7, .account⟩ :=
    (means [] _ _).mpr (.legacy (by simp) (by decide +kernel) (by decide +kernel))
  refine ⟨spelled, ?_, omitted builtin 17 _ _ omits, ?_, carried builtin _ _ spelled⟩
  · have listed : Lists Relisted.listing.names Relisted.code .multisig := by
      exact ⟨[("account", Relisted.code)], "multisig", [("brand-new-actor", Relisted.code)],
        rfl, by decide, omits⟩
    have split : [Relisted.listing, Relisted.stranger] =
        [] ++ Relisted.listing :: [Relisted.stranger] := rfl
    refine (means _ _ _).mpr (.registered split listed ?_)
    intro later isLater
    cases List.mem_singleton.mp isLater
    exact omits
  · exact unknown builtin 16 [("account", Relisted.code), ("multisig", Relisted.code)] []
      _ _ isUnknown

end Registry

end Actor

end FilecoinRosetta
