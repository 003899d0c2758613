import FilecoinRosetta.Proofs.LotusJson.Faithful

/-!
# Containers of faithful types

Lists and parameters by position read back if what is in them does.
-/

namespace FilecoinRosetta.LotusJson

open Json

/-! ## Lists -/

section

variable {α : Type} {reader : Json → Option α}

/-- Items read one by one give the values they were written for. -/
theorem mapM_reads {write : α → Json} {values : List α}
    (reads : ∀ value ∈ values, reader (write value) = some value) :
    (values.map write).mapM reader = some values := by
  induction values with
  | nil => rfl
  | cons first rest ih =>
    obtain ⟨readsFirst, readsRest⟩ := List.forall_mem_cons.mp reads
    rw [List.map_cons, List.mapM_cons, readsFirst, ih readsRest]
    rfl

/-- Values that were read come from items, each of them from one at least. -/
theorem mapM_found {items : List Json} {values : List α} (found : items.mapM reader = some values) :
    ∀ value ∈ values, ∃ item, reader item = some value := by
  induction items generalizing values with
  | nil =>
    obtain rfl : [] = values := Option.some.inj found
    simp
  | cons item rest ih =>
    rw [List.mapM_cons] at found
    obtain ⟨first, isFirst, found⟩ := Option.bind_eq_some_iff.mp found
    obtain ⟨later, isLater, found⟩ := Option.bind_eq_some_iff.mp found
    obtain rfl := Option.some.inj found
    exact List.forall_mem_cons.mpr ⟨⟨item, isFirst⟩, ih isLater⟩

/-- Items are read only if each of them is. One that cannot be
read spoils the list. -/
theorem mapM_each {items : List Json} {values : List α} (found : items.mapM reader = some values) :
    ∀ item ∈ items, ∃ value, reader item = some value := by
  induction items generalizing values with
  | nil => nofun
  | cons item rest ih =>
    rw [List.mapM_cons] at found
    obtain ⟨first, isFirst, found⟩ := Option.bind_eq_some_iff.mp found
    obtain ⟨later, isLater, -⟩ := Option.bind_eq_some_iff.mp found
    exact List.forall_mem_cons.mpr ⟨⟨first, isFirst⟩, ih isLater⟩

end

/-- The values of a list come from items with one container less around them. -/
theorem list_found {α : Type} {reader : Reader α} {depth : Nat} {json : Json} {values : List α}
    (found : Reader.list reader depth json = some values) :
    ∃ inner, depth = inner + 1 ∧ ∀ value ∈ values, ∃ item, reader inner item = some value := by
  cases depth with
  | zero => exact nomatch found
  | succ inner =>
    cases json with
    | arr items => exact ⟨inner, rfl, mapM_found found⟩
    | _ => exact nomatch found

section

variable {α : Type} [LotusJson α]

/-- A list is written plainly if all its values are. -/
theorem arr_plain (network : Network) {values : List α}
    (plain : ∀ value ∈ values, (write network value).Plain) :
    (Json.arr (values.map (write network))).Plain := by
  refine plainItems_iff.mpr ?_
  intro item member
  obtain ⟨value, isValue, rfl⟩ := List.mem_map.mp member
  exact plain value isValue

/-- Values in a list read back if each does with one container less around it. -/
theorem arr_reads (network : Network) {values : List α} {depth : Nat}
    (reads : ∀ value ∈ values, ∀ inner, inner < depth → (write network value).nesting ≤ inner →
      read inner (write network value) = some value)
    (fits : (Json.arr (values.map (write network))).nesting ≤ depth) :
    Reader.list read depth (.arr (values.map (write network))) = some values := by
  rw [nesting] at fits
  cases depth with
  | zero => exact absurd fits (Nat.not_succ_le_zero _)
  | succ inner =>
    have itemsFit := itemsNesting_le.mp (Nat.le_of_succ_le_succ fits)
    apply mapM_reads
    intro value member
    exact reads value member inner (Nat.lt_succ_self inner)
      (itemsFit _ (List.mem_map_of_mem member))

/-- A list that was read takes one container more than its values. -/
theorem arr_frugal (network : Network) {depth reserve : Nat} {json : Json} {values : List α}
    (frugal : ∀ inner, inner < depth → ∀ (source : Json) (value : α),
      read inner source = some value → (write network value).nesting ≤ max inner reserve)
    (found : Reader.list read depth json = some values) :
    (Json.arr (values.map (write network))).nesting ≤ max depth (around reserve) := by
  obtain ⟨inner, rfl, come⟩ := list_found found
  rw [nesting]
  apply around_bound
  refine itemsNesting_le.mpr ?_
  intro item member
  obtain ⟨value, isValue, rfl⟩ := List.mem_map.mp member
  obtain ⟨source, isRead⟩ := come value isValue
  exact frugal inner (Nat.lt_succ_self inner) source value isRead

/-- The same for a list as a type that is written. -/
theorem list_plain (network : Network) {values : List α}
    (plain : ∀ value ∈ values, (write network value).Plain) : (write network values).Plain := by
  cases values with
  | nil => trivial
  | cons first rest => exact arr_plain network plain

/-- A list, null if it is empty, reads back if each value does with one
container less around it. -/
theorem list_reads (network : Network) {values : List α} {depth : Nat}
    (reads : ∀ value ∈ values, ∀ inner, inner < depth → (write network value).nesting ≤ inner →
      read inner (write network value) = some value)
    (fits : (write network values).nesting ≤ depth) :
    read depth (write network values) = some values := by
  cases values with
  | nil => rfl
  | cons first rest =>
    have present : Json.arr ((first :: rest).map (write network)) ≠ .null := nofun
    change (Reader.nullable (Reader.list read) depth
      (.arr ((first :: rest).map (write network)))).map _ = _
    rw [nullable_present _ _ present, arr_reads network reads fits]
    rfl

/-- A list that is read has each of its values read with one
container less around it. -/
theorem list_each (network : Network) {values others : List α} {depth : Nat}
    (found : read depth (write network values) = some others) :
    ∀ value ∈ values, ∃ (inner : Nat) (other : α),
      depth = inner + 1 ∧ read inner (write network value) = some other := by
  cases values with
  | nil => nofun
  | cons first rest =>
    intro value isValue
    obtain ⟨choice, isChoice, -⟩ := Option.map_eq_some_iff.mp found
    have present : Json.arr ((first :: rest).map (write network)) ≠ .null := nofun
    obtain ⟨isNull, -⟩ | ⟨listed, isList, -⟩ := nullable_found isChoice
    · exact absurd isNull present
    · cases depth with
      | zero => exact nomatch isList
      | succ inner =>
        obtain ⟨other, isOther⟩ := mapM_each isList _ (List.mem_map_of_mem isValue)
        exact ⟨inner, other, rfl, isOther⟩

/-- A list, null if it is empty, takes one container more than its values. -/
theorem list_frugal (network : Network) {depth reserve : Nat} {json : Json} {values : List α}
    (frugal : ∀ inner, inner < depth → ∀ (source : Json) (value : α),
      read inner source = some value → (write network value).nesting ≤ max inner reserve)
    (found : read depth json = some values) :
    (write network values).nesting ≤ max depth (around reserve) := by
  obtain ⟨choice, isChoice, rfl⟩ := Option.map_eq_some_iff.mp found
  rcases nullable_found isChoice with ⟨-, rfl⟩ | ⟨listed, isList, rfl⟩
  · exact Nat.zero_le _
  · cases listed with
    | nil => exact Nat.zero_le _
    | cons first rest => exact arr_frugal network frugal isList

instance [Faithful α] : Faithful (List α) where
  reserve := around (Faithful.reserve α)
  plain network _ := list_plain network fun value _ => Faithful.plain network value
  reads network _ _ := list_reads network fun value _ inner _ => Faithful.reads network value inner
  frugal network _ _ _ := list_frugal network fun inner _ => Faithful.frugal network inner

end

/-! ## Parameters by position -/

/-- Items that fit have one container less around them, which is where the limit
on nesting goes down. -/
theorem arr_fits {items : List Json} {depth : Nat} (fits : (Json.arr items).nesting ≤ depth) :
    ∃ inner, depth = inner + 1 ∧ ∀ item ∈ items, item.nesting ≤ inner := by
  rw [nesting] at fits
  cases depth with
  | zero => exact absurd fits (Nat.not_succ_le_zero _)
  | succ inner => exact ⟨inner, rfl, itemsNesting_le.mp (Nat.le_of_succ_le_succ fits)⟩

/-- The items of parameters have one container less around them, and are
as many as expected. -/
theorem items_found {count depth : Nat} {json : Json} {items : List Json}
    (found : items? count depth json = some items) :
    items.length = count ∧ ∃ inner, depth = inner + 1 := by
  cases depth with
  | zero => exact nomatch found
  | succ inner =>
    cases json with
    | arr given =>
      obtain ⟨count, isItems⟩ := Option.ite_none_right_eq_some.mp found
      obtain rfl := Option.some.inj isItems
      exact ⟨count, inner, rfl⟩
    | _ => exact nomatch found

/-- The types of parameters in their order. The index is the type
of what they hold. -/
inductive Positions : Type → Type 1 where
  | done : Positions Unit
  | next {α κ : Type} [LotusJson α] [Faithful α] (rest : Positions κ) : Positions (α × κ)

namespace Positions

/-- The number of parameters. -/
def count : {κ : Type} → Positions κ → Nat
  | _, done => 0
  | _, next rest => rest.count + 1

/-- The parameters as they are written. -/
def items (network : Network) : {κ : Type} → Positions κ → κ → List Json
  | _, done, _ => []
  | _, next rest, (value, values) => write network value :: rest.items network values

/-- Read the parameters one after the other and make something of what they hold. -/
def read {ρ : Type} (inner : Nat) : {κ : Type} → Positions κ → List Json → (κ → Option ρ) → Option ρ
  | _, done, _, make => make ()
  | _, next _, [], _ => none
  | _, next rest, first :: later, make =>
      (LotusJson.read inner first).bind fun value => rest.read inner later fun values =>
        make (value, values)

/-- The number of containers that a parameter may take although fewer were read. -/
def reserve : {κ : Type} → Positions κ → Nat
  | _, done => 0
  | _, @next α _ _ _ rest => max (Faithful.reserve α) rest.reserve

/-- The items of a record that is written as a list are plain, by
induction on its positions. -/
theorem items_plain (network : Network) : {κ : Type} → (positions : Positions κ) → (values : κ) →
    ∀ item ∈ positions.items network values, item.Plain
  | _, done, _ => nofun
  | _, next rest, (value, values) =>
    List.forall_mem_cons.mpr ⟨Faithful.plain network value, rest.items_plain network values⟩

/-- A record that is written as a list has one item for each of its positions. -/
theorem items_length (network : Network) : {κ : Type} → (positions : Positions κ) → (values : κ) →
    (positions.items network values).length = positions.count
  | _, done, _ => rfl
  | _, next rest, (_, values) => congrArg (· + 1) (rest.items_length network values)

/-- Parameters that fit read back, by induction on their positions. -/
theorem read_items {ρ : Type} (network : Network) (inner : Nat) : {κ : Type} →
    (positions : Positions κ) → (values : κ) → (make : κ → Option ρ) →
    (∀ item ∈ positions.items network values, item.nesting ≤ inner) →
    positions.read inner (positions.items network values) make = make values
  | _, done, (), _, _ => rfl
  | _, next rest, (value, values), make, fits => by
    obtain ⟨fitsFirst, fitsRest⟩ := List.forall_mem_cons.mp fits
    rw [items, read, Faithful.reads network value inner fitsFirst]
    exact read_items network inner rest values _ fitsRest

/-- What is read of parameters is made of values which are within the
allowance of their types. -/
theorem read_frugal {ρ : Type} (network : Network) (inner : Nat) {result : ρ} : {κ : Type} →
    (positions : Positions κ) → (source : List Json) → (make : κ → Option ρ) →
    positions.read inner source make = some result →
    ∃ values, make values = some result ∧
      ∀ item ∈ positions.items network values, item.nesting ≤ max inner positions.reserve
  | _, done, _, make, isRead => ⟨(), isRead, nofun⟩
  | _, next rest, first :: later, make, isRead => by
    obtain ⟨value, isFirst, isRead⟩ := Option.bind_eq_some_iff.mp isRead
    obtain ⟨values, isMade, bound⟩ := rest.read_frugal network inner later _ isRead
    refine ⟨(value, values), isMade, List.forall_mem_cons.mpr ⟨?_, ?_⟩⟩
    · exact Nat.le_trans (Faithful.frugal network inner first value isFirst)
        (max_le_max (Nat.le_refl _) (Nat.le_max_left _ _))
    · intro item isItem
      exact Nat.le_trans (bound item isItem) (max_le_max (Nat.le_refl _) (Nat.le_max_right _ _))

end Positions

/-- A type of parameters by position. -/
@[reducible]
def Faithful.positional {ρ κ : Type} [LotusJson ρ] (positions : Positions κ) (parts : κ ≃ ρ)
    (writes : ∀ network params, write network params =
      .arr (positions.items network (parts.symm params)))
    (reads : ∀ depth json, read depth json = (items? positions.count depth json).bind fun items =>
      positions.read (depth - 1) items fun values => some (parts values)) :
    Faithful ρ where
  reserve := around positions.reserve
  plain network params := by
    rw [writes]
    exact plainItems_iff.mpr (positions.items_plain network (parts.symm params))
  reads network params depth fits := by
    rw [writes] at fits ⊢
    obtain ⟨inner, rfl, fit⟩ := arr_fits fits
    rw [reads, items?, if_pos (positions.items_length network _), Option.bind_some,
      Nat.add_sub_cancel, positions.read_items network inner _ _ fit, Equiv.apply_symm_apply]
  frugal network depth json params found := by
    rw [reads] at found
    obtain ⟨items, isItems, found⟩ := Option.bind_eq_some_iff.mp found
    obtain ⟨-, inner, rfl⟩ := items_found isItems
    obtain ⟨values, isMade, bound⟩ := positions.read_frugal network inner items _ found
    obtain rfl := Option.some.inj isMade
    rw [writes, Equiv.symm_apply_apply, nesting]
    exact around_bound (itemsNesting_le.mpr bound)

section

variable {α β γ δ : Type} [LotusJson α] [Faithful α] [LotusJson β] [Faithful β] [LotusJson γ]
  [Faithful γ]
  [LotusJson δ] [Faithful δ]

instance : Faithful (Single α) :=
  .positional (.next .done)
    ⟨fun (item, ()) => ⟨item⟩, fun single => (single.item, ()), fun _ => rfl, fun _ => rfl⟩
    (fun _ _ => rfl)
    fun _ _ => Option.bind_congr fun items found => match items, (items_found found).1 with
      | [_], _ => rfl

instance : Faithful (α × β) :=
  .positional (.next <| .next .done)
    ⟨fun (first, second, ()) => (first, second), fun pair => (pair.1, pair.2, ()),
      fun _ => rfl, fun _ => rfl⟩
    (fun _ _ => rfl)
    fun _ _ => Option.bind_congr fun items found => match items, (items_found found).1 with
      | [_, _], _ => rfl

instance : Faithful (Triple α β γ) :=
  .positional (.next <| .next <| .next .done)
    ⟨fun (first, second, third, ()) => ⟨first, second, third⟩,
      fun triple => (triple.first, triple.second, triple.third, ()), fun _ => rfl, fun _ => rfl⟩
    (fun _ _ => rfl)
    fun _ _ => Option.bind_congr fun items found => match items, (items_found found).1 with
      | [_, _, _], _ => rfl

instance : Faithful (Quadruple α β γ δ) :=
  .positional (.next <| .next <| .next <| .next .done)
    ⟨fun (first, second, third, fourth, ()) => ⟨first, second, third, fourth⟩,
      fun items => (items.first, items.second, items.third, items.fourth, ()), fun _ => rfl,
      fun _ => rfl⟩
    (fun _ _ => rfl)
    fun _ _ => Option.bind_congr fun items found => match items, (items_found found).1 with
      | [_, _, _, _], _ => rfl

end

end FilecoinRosetta.LotusJson
