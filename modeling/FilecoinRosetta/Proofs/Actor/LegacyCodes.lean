import FilecoinRosetta.Actor.Registry
import FilecoinRosetta.Proofs.Address.Text
import FilecoinRosetta.Proofs.Text.Decimal
import FilecoinRosetta.Proofs.Text.Segments

/-!
# Codes that spell out an actor

Before bundles existed, the code of an actor was its version and its name in plain
text. Such a code is read from exactly the raw bytes that spell one out, whatever
the spelling of the number, and version 0 went by the number 1.
-/

namespace FilecoinRosetta

namespace ActorKind

/-- A kind goes by its name alone: no other text is read as the kind,
and its name is. -/
theorem ofName_some_iff {name : String} {kind : ActorKind} :
    ofName? name = some kind ↔ name = kind.name := by
  constructor
  · intro found
    have same := List.find?_some found
    exact (beq_iff_eq.mp same).symm
  · rintro rfl
    cases kind <;> decide

/-- The sign between segments is in no name, so the last segment of a code
is the whole name. -/
theorem name_free (kind : ActorKind) : '/' ∉ kind.name.toList := by
  cases kind <;> decide

end ActorKind

namespace Actor

/-- The number that stands for a version. Nothing was ever called version 0: it went
by the number 1. -/
def versionOf (number : UInt32) : UInt32 :=
  if number = 1 then 0 else number

/-- A code spells out a number and an actor. -/
structure SpellsOut (code : Cid) (number : UInt32) (kind : ActorKind) : Prop where
  /-- Its content is raw bytes. -/
  raw : code.codec = Cid.rawCodec
  /-- The digest is the content itself. -/
  identity : code.hashCode = Cid.identityCode
  /-- The content is a text of three segments: the scheme, the number in decimal
  digits, and the name. -/
  spelled : ∃ digits, Text.Integer.WordText digits number.toNat ∧
    code.digest = utf8 (String.ofList ("fil/".toList ++ digits ++ '/' :: kind.name.toList))

/-- Neither digits nor a plus sign are the sign between segments. -/
theorem wordText_free {text : List Char} {number : Nat}
    (isWord : Text.Integer.WordText text number) :
    '/' ∉ text := by
  have free {digits : List Char} (isDigits : Text.Integer.Digits digits number) : '/' ∉ digits :=
    fun member => absurd (isDigits.digits '/' member) (by decide)
  rcases isWord with digits | ⟨digits, rfl, isDigits⟩
  · exact free digits
  · simpa using free isDigits

/-- A text has the three segments of a code exactly if it is spelled out as one. -/
theorem segments_path_iff {path digits : List Char} (kind : ActorKind) (free : '/' ∉ digits) :
    Text.segments '/' path = ["fil".toList, digits, kind.name.toList] ↔
      path = "fil/".toList ++ digits ++ '/' :: kind.name.toList := by
  have parts : ∀ part ∈ ["fil".toList, digits, kind.name.toList], '/' ∉ part := by
    simp [free, kind.name_free]
  have joined : ['/'].intercalate ["fil".toList, digits, kind.name.toList] =
      "fil/".toList ++ digits ++ '/' :: kind.name.toList := by
    simp [List.intercalate_cons_cons]
  rw [Text.segments_eq_iff, joined]
  exact ⟨fun ⟨_, _, same⟩ => same, fun same => ⟨List.cons_ne_nil _ _, parts, same⟩⟩

/-- A code that spells out an actor is read as a descriptor of that actor, with the
version that its number stands for. -/
theorem SpellsOut.read {code : Cid} {number : UInt32} {kind : ActorKind}
    (spells : SpellsOut code number kind) :
    resolveLegacy? code = some ⟨code, versionOf number, kind⟩ := by
  obtain ⟨raw, identity, digits, isWord, spelled⟩ := spells
  have same : ¬ (code.codec ≠ Cid.rawCodec ∨ code.hashCode ≠ Cid.identityCode) :=
    not_or.mpr ⟨not_not_intro raw, not_not_intro identity⟩
  have isText := utf8_text_iff.mpr spelled.symm
  have cut := (segments_path_iff kind (wordText_free isWord)).mpr rfl
  have isNumber : Text.Integer.uint32? (String.ofList digits) = some number := by
    rw [Text.Integer.uint32_some_iff, String.toList_ofList]
    exact isWord
  have isKind : ActorKind.ofName? kind.name = some kind := ActorKind.ofName_some_iff.mpr rfl
  rw [resolveLegacy?, if_neg same, isText]
  simp only [Option.bind_eq_bind, Option.bind_some, String.toList_ofList, cut, String.ofList_toList,
    isNumber, isKind]
  rfl

/-- Whatever is read spells out an actor. Both directions together say
which codes are read. -/
theorem spellsOut_of_read {code : Cid} {descriptor : Descriptor}
    (read : resolveLegacy? code = some descriptor) :
    ∃ number, SpellsOut code number descriptor.kind ∧
      descriptor = ⟨code, versionOf number, descriptor.kind⟩ := by
  unfold resolveLegacy? at read
  split at read
  · contradiction
  · rename_i same
    obtain ⟨raw, identity⟩ := not_or.mp same
    obtain ⟨path, isText, named⟩ := Option.bind_eq_some_iff.mp read
    split at named
    · rename_i scheme digits name cut
      split at named
      · contradiction
      · rename_i isScheme
        obtain ⟨number, isNumber, isNamed⟩ := Option.bind_eq_some_iff.mp named
        obtain ⟨kind, isKind, made⟩ := Option.bind_eq_some_iff.mp isNamed
        obtain rfl := Option.some.inj made
        have isWord := Text.Integer.uint32_some_iff.mp isNumber
        have ofScheme := congrArg String.toList (not_not.mp isScheme)
        have ofName := congrArg String.toList (ActorKind.ofName_some_iff.mp isKind)
        rw [String.toList_ofList] at isWord ofScheme ofName
        rw [ofScheme, ofName, segments_path_iff kind (wordText_free isWord)] at cut
        refine ⟨number, ⟨not_not.mp raw, not_not.mp identity, digits, isWord, ?_⟩, rfl⟩
        rw [← cut, String.ofList_toList]
        exact (utf8_text_iff.mp isText).symm
    · contradiction

/-- A code is read exactly if it spells out an actor. What is read carries the code
and the version that the number stands for. -/
theorem resolveLegacy_iff (code : Cid) (descriptor : Descriptor) :
    resolveLegacy? code = some descriptor ↔
      ∃ number, SpellsOut code number descriptor.kind ∧
        descriptor = ⟨code, versionOf number, descriptor.kind⟩ := by
  constructor
  · exact spellsOut_of_read
  · rintro ⟨number, spells, made⟩
    rw [made]
    exact spells.read

/-! ## Spelling out an actor -/

/-- The text that spells out a version and an actor. -/
def legacyPath (version : UInt32) (kind : ActorKind) : String :=
  "fil/" ++ toString version.toNat ++ "/" ++ kind.name

/-- Digits take one byte each, so the length that a code carries is their number. -/
theorem digits_byteSize {digits : List Char} (isDigits : ∀ sign ∈ digits, sign.isDigit = true) :
    (String.ofList digits).utf8ByteSize = digits.length := by
  induction digits with
  | nil => rfl
  | cons sign rest ih =>
    obtain ⟨isDigit, restDigits⟩ := List.forall_mem_cons.mp isDigits
    simp [String.ofList_cons, ih restDigits, Address.digit_size sign isDigit, Nat.add_comm]

/-- Every version leaves the digest within its limit: it takes ten
digits at most. -/
theorem legacyPath_fits (version : UInt32) (kind : ActorKind) :
    (utf8 (legacyPath version kind)).length ≤ 64 := by
  have written : toString version.toNat = String.ofList (Nat.toDigits 10 version.toNat) :=
    String.toList_injective (by simp [Nat.toList_repr])
  have number : (toString version.toNat).utf8ByteSize ≤ 10 := by
    rw [written, digits_byteSize (Text.Integer.decimal_digits version.toNat),
      Nat.length_toDigits_le_iff (by decide) (by decide)]
    exact Nat.lt_of_lt_of_le version.toNat_lt (by decide)
  have name : kind.name.utf8ByteSize ≤ 16 := by cases kind <;> decide
  have scheme : "fil/".utf8ByteSize = 4 := by decide
  have slash : "/".utf8ByteSize = 1 := by decide
  have size :
      (utf8 (legacyPath version kind)).length =
        (legacyPath version kind).utf8ByteSize := by simp [utf8]
  rw [size, legacyPath]
  simp only [String.utf8ByteSize_append, scheme, slash]
  omega

/-- The code that spells out a version and an actor. -/
def legacyCode (version : UInt32) (kind : ActorKind) : Cid :=
  .v1 Cid.rawCodec ⟨Cid.identityCode, utf8 (legacyPath version kind), legacyPath_fits version kind⟩

/-- The canonical digits of a version spell it out. Others may as well,
with zeros in front. -/
theorem legacyCode_spellsOut (version : UInt32) (kind : ActorKind) :
    SpellsOut (legacyCode version kind) version kind := by
  have digits : Text.Integer.Digits (Nat.toDigits 10 version.toNat) version.toNat :=
    Text.Integer.natural_some_iff.mp (Text.Integer.natural_digits version.toNat)
  refine ⟨rfl, rfl, Nat.toDigits 10 version.toNat, .inl digits,
    congrArg utf8 (String.toList_injective ?_)⟩
  simp [legacyPath, Nat.toList_repr]

/-- Codes that spell out an actor are read exactly. A code is read if it is raw
bytes under the identity hash which are a text of three segments: the scheme, a
number that fits, in decimal digits with zeros or one plus sign in front, and the
name of a known actor. It stands for the actor of that name in the version of that
number, which is the number itself unless that is 1, which stands for 0. So the code
made from a version other than 1 and an actor stands for them. -/
theorem legacy_codes_exact :
    (∀ code descriptor, resolveLegacy? code = some descriptor ↔
      ∃ number kind, SpellsOut code number kind ∧
        descriptor = ⟨code, if number = 1 then 0 else number, kind⟩) ∧
    ∀ version kind, version ≠ 1 →
      resolveLegacy? (legacyCode version kind) = some ⟨legacyCode version kind, version, kind⟩ := by
  have read (code : Cid) (descriptor : Descriptor) : resolveLegacy? code = some descriptor ↔
      ∃ number kind, SpellsOut code number kind ∧
        descriptor = ⟨code, if number = 1 then 0 else number, kind⟩ := by
    rw [resolveLegacy_iff]
    constructor
    · rintro ⟨number, spells, made⟩
      exact ⟨number, descriptor.kind, spells, made⟩
    · rintro ⟨number, kind, spells, rfl⟩
      exact ⟨number, spells, rfl⟩
  refine ⟨read, fun version kind other =>
    (read ..).mpr ⟨version, kind, legacyCode_spellsOut version kind, ?_⟩⟩
  rw [if_neg other]

/-- The highest version is read, and number 1 as version 0. -/
theorem legacy_codes_bounded :
    resolveLegacy? (legacyCode 4294967295 .verifiedRegistry) =
        some ⟨legacyCode 4294967295 .verifiedRegistry, 4294967295, .verifiedRegistry⟩ ∧
      resolveLegacy? (legacyCode 1 .multisig) = some ⟨legacyCode 1 .multisig, 0, .multisig⟩ := by
  obtain ⟨read, ofVersion⟩ := legacy_codes_exact
  have first := (read (legacyCode 1 .multisig) ⟨_, 0, .multisig⟩).mpr
    ⟨1, .multisig, legacyCode_spellsOut 1 .multisig, rfl⟩
  exact ⟨ofVersion 4294967295 .verifiedRegistry (by decide), first⟩

end Actor

end FilecoinRosetta
