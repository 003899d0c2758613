import FilecoinRosetta.LotusJson.Basic
import FilecoinRosetta.Proofs.Cid.Text
import FilecoinRosetta.Proofs.Json.RoundTrip
import FilecoinRosetta.Proofs.Text.Base64

/-!
# Types that read back what they write

A type of the dialect is faithful if every written value reads back as that value
wherever its containers fit. How many containers a value takes when it is written
may differ from how many it took when it was read, since there are several ways to
write some values. Only the key of no blocks takes more, a list where null was read;
so what is written of an accepted value takes no more containers than were allowed,
or no more than the type itself has around such keys.
-/

namespace FilecoinRosetta

namespace Json

mutual

/-- The number of containers that are nested in a value. -/
def nesting : Json → Nat
  | .arr items => itemsNesting items + 1
  | .obj members => membersNesting members + 1
  | _ => 0

/-- The number of containers that are nested in any of some items. -/
def itemsNesting : List Json → Nat
  | [] => 0
  | item :: rest => max (nesting item) (itemsNesting rest)

/-- The number of containers that are nested in any of some members. -/
def membersNesting : List (String × Json) → Nat
  | [] => 0
  | (_, value) :: rest => max (nesting value) (membersNesting rest)

end

/-- Items nest no deeper than a bound exactly if each of them does not. -/
theorem itemsNesting_le {items : List Json} {bound : Nat} :
    itemsNesting items ≤ bound ↔ ∀ item ∈ items, nesting item ≤ bound := by
  induction items with
  | nil => simp [itemsNesting]
  | cons item rest ih => rw [itemsNesting, Nat.max_le, ih, List.forall_mem_cons]

/-- Members nest no deeper than a bound exactly if the value of each
of them does not. -/
theorem membersNesting_le {members : List (String × Json)} {bound : Nat} :
    membersNesting members ≤ bound ↔ ∀ member ∈ members, nesting member.2 ≤ bound := by
  induction members with
  | nil => simp [membersNesting]
  | cons member rest ih => rw [membersNesting, Nat.max_le, ih, List.forall_mem_cons]

/-- Items are plain together exactly if each of them is plain. -/
theorem plainItems_iff {items : List Json} : PlainItems items ↔ ∀ item ∈ items, Plain item := by
  induction items with
  | nil => simp [PlainItems]
  | cons item rest ih => rw [PlainItems, ih, List.forall_mem_cons]

/-- Members are plain exactly if the value of each of them is. -/
theorem plainMembers_iff {members : List (String × Json)} :
    PlainMembers members ↔ ∀ member ∈ members, Plain member.2 := by
  induction members with
  | nil => simp [PlainMembers]
  | cons member rest ih => rw [PlainMembers, ih, List.forall_mem_cons]

end Json

namespace LotusJson

open Json

/-! ## Faithful types -/

/-- A type that reads back what it writes. -/
class Faithful (α : Type) [LotusJson α] where
  /-- The number of containers that a value may take although fewer were read. -/
  reserve : Nat
  /-- What is written has a text of its own. -/
  plain : ∀ network (value : α), (write network value).Plain
  /-- Where its containers fit a value reads back. -/
  reads : ∀ network (value : α) depth, (write network value).nesting ≤ depth →
    read depth (write network value) = some value
  /-- What was read takes no more containers when it is written than were
  allowed, or its reserve. -/
  frugal : ∀ network depth json (value : α), read depth json = some value →
    (write network value).nesting ≤ max depth reserve

/-- The text of a value is read as the value that was written. -/
theorem read_written {α : Type} [LotusJson α] [Faithful α] (network : Network) (value : α) :
    read? α (write network value).text = read Json.maxDepth (write network value) := by
  rw [read?, Json.read?, Json.parse_text _ (Faithful.plain network value), Option.bind_some]

/-- A type none of whose values is written as null. -/
class NeverNull (α : Type) [LotusJson α] : Prop where
  never : ∀ network (value : α), write network value ≠ .null

/-- The reserve of a container around values: none if they need none. -/
def around : Nat → Nat
  | 0 => 0
  | reserve + 1 => reserve + 2

/-- A container around values takes one more than they do, of the depth as well as
of what is kept in reserve. -/
theorem around_bound {taken depth reserve : Nat} (bound : taken ≤ max depth reserve) :
    taken + 1 ≤ max (depth + 1) (around reserve) := by
  cases reserve with
  | zero =>
    rw [Nat.max_zero] at bound
    exact Nat.le_trans (Nat.succ_le_succ bound) (Nat.le_max_left _ _)
  | succ reserve =>
    rw [around]
    omega

/-- Values without containers. -/
@[reducible]
def Faithful.flat {α : Type} [LotusJson α]
    (plain : ∀ network (value : α), (write network value).Plain)
    (empty : ∀ network (value : α), (write network value).nesting = 0)
    (reads : ∀ network (value : α) depth, read depth (write network value) = some value) :
    Faithful α where
  reserve := 0
  plain := plain
  reads network value depth _ := reads network value depth
  frugal network depth json value _ := by
    rw [empty]
    exact Nat.zero_le _

/-! ## Words and strings -/

/-- A number between two bounds is the integer of its literal. -/
theorem integerBetween_int {low high value : Int} (above : low ≤ value) (below : value < high) :
    integerBetween? low high (.int value) = some value := by
  rw [integerBetween?, if_pos ⟨above, below⟩]

instance : Faithful Bool :=
  .flat (fun _ _ => trivial) (fun _ _ => rfl) fun _ _ _ => rfl

instance : Faithful String :=
  .flat (fun _ _ => trivial) (fun _ _ => rfl) fun _ _ _ => rfl

/-- A byte is read back from the number it is written as. -/
theorem uint8_reads (depth : Nat) (value : UInt8) :
    Json.Reader.uint8 depth (.nat value.toNat) = some value := by
  have below : (value.toNat : Int) < UInt8.size := Int.ofNat_lt.mpr value.toNat_lt
  rw [Json.Reader.uint8, Json.nat, integerBetween_int (Int.natCast_nonneg _) below]
  simp

instance : Faithful UInt32 :=
  .flat (fun _ _ => trivial) (fun _ _ => rfl) fun _ value depth => by
    have below : (value.toNat : Int) < UInt32.size := Int.ofNat_lt.mpr value.toNat_lt
    change Json.Reader.uint32 depth (.nat value.toNat) = some value
    rw [Json.Reader.uint32, Json.nat, integerBetween_int (Int.natCast_nonneg _) below]
    simp

instance : Faithful UInt64 :=
  .flat (fun _ _ => trivial) (fun _ _ => rfl) fun _ value depth => by
    have below : (value.toNat : Int) < UInt64.size := Int.ofNat_lt.mpr value.toNat_lt
    change Json.Reader.uint64 depth (.nat value.toNat) = some value
    rw [Json.Reader.uint64, Json.nat, integerBetween_int (Int.natCast_nonneg _) below]
    simp

instance : Faithful Int64 :=
  .flat (fun _ _ => trivial) (fun _ _ => rfl) fun _ value depth => by
    have above : -0x8000000000000000 ≤ value.toInt := Int64.le_toInt value
    have below : value.toInt < 0x8000000000000000 := Int64.toInt_lt value
    change Json.Reader.int64 depth (.int value.toInt) = some value
    simp [Json.Reader.int64, integerBetween_int above below]

instance : Faithful Address :=
  .flat (fun _ _ => trivial) (fun _ _ => rfl) fun network address depth => by
    change (Address.parse (address.text network)).toOption = some address
    rw [Address.parse_display]
    rfl

instance : Faithful TokenAmount :=
  .flat (fun _ _ => trivial) (fun _ _ => rfl) fun _ amount depth => by
    change TokenAmount.parse? amount.attoText = some amount
    rw [TokenAmount.parse?, TokenAmount.attoText, Text.Integer.integer_text]
    rfl

instance : NeverNull Address := ⟨fun _ _ => nofun⟩

/-! ## Null -/

/-- What is not null is read as what is behind the choice. -/
theorem nullable_present {α : Type} (reader : Reader α) (depth : Nat) {json : Json}
    (present : json ≠ .null) :
    reader.nullable depth json = (reader depth json).map some := by
  cases json with
  | null => exact absurd rfl present
  | _ => rfl

/-- What is read may be null, or what is behind the choice. -/
theorem nullable_found {α : Type} {reader : Reader α} {depth : Nat} {json : Json} {found : Option α}
    (isFound : reader.nullable depth json = some found) :
    json = .null ∧ found = none ∨ ∃ value, reader depth json = some value ∧ found = some value := by
  by_cases absent : json = .null
  · subst absent
    obtain rfl : none = found := Option.some.inj isFound
    exact .inl ⟨rfl, rfl⟩
  · rw [nullable_present reader depth absent] at isFound
    obtain ⟨value, isValue, rfl⟩ := Option.map_eq_some_iff.mp isFound
    exact .inr ⟨value, isValue, rfl⟩

instance {α : Type} [LotusJson α] [Faithful α] [NeverNull α] : Faithful (Option α) where
  reserve := Faithful.reserve α
  plain network value := by
    cases value with
    | none => trivial
    | some inner => exact Faithful.plain network inner
  reads network value depth fits := by
    cases value with
    | none => rfl
    | some inner =>
      change Reader.nullable read depth (write network inner) = _
      rw [nullable_present _ _ (NeverNull.never network inner),
        Faithful.reads network inner depth fits]
      rfl
  frugal network depth json value found := by
    rcases nullable_found found with ⟨-, rfl⟩ | ⟨inner, isInner, rfl⟩
    · exact Nat.zero_le _
    · exact Faithful.frugal network depth json inner isInner

instance : Faithful Bytes :=
  .flat (fun _ bytes => by cases bytes <;> trivial) (fun _ bytes => by cases bytes <;> rfl)
    fun network bytes depth => by
      cases bytes with
      | nil => rfl
      | cons first rest =>
        have present : Json.str (Text.Base64.encode (first :: rest)) ≠ .null := nofun
        change (Reader.nullable (Reader.parsed Text.Base64.decode?) depth
          (.str (Text.Base64.encode (first :: rest)))).map _ = _
        rw [nullable_present _ _ present, Reader.parsed, Text.Base64.decode_encode]
        rfl

end LotusJson

end FilecoinRosetta
