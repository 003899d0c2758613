import FilecoinRosetta.Actor.Bundles
import FilecoinRosetta.Actor.Method
import FilecoinRosetta.Text.Integer
import FilecoinRosetta.Text.Segments

/-!
# From codes to actors

A code is looked up in the registered manifests, the latest first, then in the
released bundles, and is at last read as one of the codes used before bundles
existed, which spell out version and name.
-/

namespace FilecoinRosetta.Actor

/-- What is reported for codes and methods that are not known. -/
def unknownName : String := "Unknown"

/-- What a code stands for. -/
structure Descriptor where
  code : Cid
  /-- The version of the actor. -/
  version : UInt32
  kind : ActorKind
  deriving DecidableEq

namespace Descriptor

/-- The methods of the actor in its version. -/
def methods (descriptor : Descriptor) : List Method :=
  (methodsOf descriptor.kind).filter (·.existsIn descriptor.version)

/-- The name of a method of the actor. -/
def methodName? (descriptor : Descriptor) (number : UInt64) : Option String :=
  (descriptor.methods.find? (·.number == number)).map Method.name

end Descriptor

/-- The codes of one bundle, as far as their names are known. -/
structure Manifest where
  /-- The version of the actors. -/
  version : UInt32
  /-- The codes in the order given; the last entry of a code counts. -/
  codes : List (Cid × ActorKind)

namespace Manifest

/-- The known entries of a list of names and codes. -/
def ofNames (version : UInt32) (names : List (String × Cid)) : Manifest :=
  ⟨version, names.filterMap fun (name, code) => (ActorKind.ofName? name).map fun kind =>
    (code, kind)⟩

/-- The meaning of a code. -/
def resolve? (manifest : Manifest) (code : Cid) : Option Descriptor :=
  (manifest.codes.reverse.lookup code).map fun kind => ⟨code, manifest.version, kind⟩

/-- The version, unless no known actor is listed. -/
def version? (manifest : Manifest) : Option UInt32 :=
  if manifest.codes.isEmpty then none else some manifest.version

end Manifest

/-- The codes of a released bundle as a manifest. -/
def Bundle.manifest (bundle : Bundle) : Manifest :=
  ⟨bundle.version, bundle.programs.map fun (kind, digest) => (programCode digest, kind)⟩

/-- The released bundles as manifests. -/
def released : List Manifest :=
  bundles.map Bundle.manifest

/-- The meaning of a code used before bundles existed: raw bytes under the identity
    hash which read `fil/version/name`. Version 0 went by the number 1. -/
def resolveLegacy? (code : Cid) : Option Descriptor :=
  if code.codec ≠ Cid.rawCodec ∨ code.hashCode ≠ Cid.identityCode then none
  else do
    let path ← utf8Text? code.digest
    match Text.segments '/' path.toList with
    | [scheme, version, name] =>
        if String.ofList scheme ≠ "fil" then none
        else do
          let number ← Text.Integer.uint32? (String.ofList version)
          let kind ← ActorKind.ofName? (String.ofList name)
          some ⟨code, if number = 1 then 0 else number, kind⟩
    | _ => none

/-- The registered manifests, the latest first. -/
structure Registry where
  registered : List Manifest

namespace Registry

/-- The registry of the released bundles alone. -/
def builtin : Registry := ⟨[]⟩

/-- Register the codes of a bundle ahead of everything known. -/
def withManifest (registry : Registry) (version : UInt32) (names : List (String × Cid)) :
    Registry :=
  ⟨Manifest.ofNames version names :: registry.registered⟩

/-- All manifests in the order they are asked. -/
def manifests (registry : Registry) : List Manifest :=
  registry.registered ++ released

/-- The meaning of a code. -/
def resolve? (registry : Registry) (code : Cid) : Option Descriptor :=
  match registry.manifests.findSome? (·.resolve? code) with
  | some descriptor => some descriptor
  | none => resolveLegacy? code

/-- The name of the actor a code stands for. -/
def resolveName (registry : Registry) (code : Cid) : String :=
  ((registry.resolve? code).map fun descriptor => descriptor.kind.name).getD unknownName

/-- The highest version of all manifests that list a known actor. -/
def newestVersion (registry : Registry) : UInt32 :=
  (registry.manifests.filterMap Manifest.version?).foldl
    (fun newest version => if newest < version then version else newest) 0

/-- Put a method into a table sorted by number; a later one of the same
number replaces the earlier. -/
def insertMethod (number : UInt64) (name : String) : List (UInt64 × String) → List (UInt64 × String)
  | [] => [(number, name)]
  | (other, old) :: rest =>
      if number < other then (number, name) :: (other, old) :: rest
      else if number = other then (number, name) :: rest
      else (other, old) :: insertMethod number name rest

/-- The methods of the newest version of a named actor, sorted by number. -/
def methodTable? (registry : Registry) (actor : String) : Option (List (UInt64 × String)) :=
  (ActorKind.ofName? actor).map fun kind =>
    ((methodsOf kind).filter (·.existsIn registry.newestVersion)).foldl
      (fun table method => insertMethod method.number method.name table) []

/-- The name of a method in the first actor that ever had its number. -/
def findMethod? (number : UInt64) : Option String :=
  ((ActorKind.all.flatMap methodsOf).find? (·.number == number)).map Method.name

end Registry

/-- The version of the actors on a network of a given version. Before
bundles there were none. -/
def versionFor? (networkVersion : UInt32) : Option UInt32 :=
  match networkVersion.toNat with
  | 16 => some 8
  | 17 => some 9
  | 18 => some 10
  | 19 => some 11
  | 20 => some 11
  | 21 => some 12
  | 22 => some 13
  | 23 => some 14
  | 24 => some 15
  | later => if 25 ≤ later then some 16 else none

end FilecoinRosetta.Actor
